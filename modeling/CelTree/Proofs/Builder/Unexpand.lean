/-
**Undoing expansions from the record.**

* `Expr.unexpandStep`: one level of a tree as it was written. A fold and a field test become the
  call on record under their id.
* `unexpandWithin`: the whole tree as it was written, to a depth.
* `Stands`: a tree that a builder has built, and the tree that was written for it. Undoing
  expansions ends on as many levels as the root's id says, since the parts of a node have smaller
  ids.
* **`Effect.stands`** — a step over trees that stand for some parts results in a tree that stands
  for the node written over these parts, unless it tests a test.
-/

import CelTree.Proofs.Builder.Recording
import CelTree.Proofs.Builder.Step
import Mathlib.Data.List.Forall2

namespace CelTree

/-! ### Undoing expansions -/

/-- The entry with its parts replaced; nothing if one of them has no replacement. -/
def Entry.traverse (partOf : Expr → Option Expr) : Entry → Option Entry
  | .map id key value optional => do return .map id (← partOf key) (← partOf value) optional
  | .field id name value optional => do return .field id name (← partOf value) optional

/-- The tree with a fold or a field test at its root replaced by the call on record, and with the
parts of that call, or of any other root, replaced. Nothing if a record is missing or is no such
call, or if a part has no replacement. -/
def Expr.unexpandStep (records : IdMap Expr) (partOf : Expr → Option Expr) : Expr → Option Expr
  | .literal id value => some (.literal id value)
  | .ident id name => some (.ident id name)
  | .select id operand field false => do return .select id (← partOf operand) field false
  | .select id _ _ true =>
    match records.get? id with
    | some (.call callId function [.select selectId operand field testOnly]) => do
      return .call callId function [.select selectId (← partOf operand) field testOnly]
    | _ => none
  | .call id function args => do return .call id function (← args.mapM partOf)
  | .memberCall id target function args => do
    return .memberCall id (← partOf target) function (← args.mapM partOf)
  | .list id elements => do return .list id (← elements.mapM partOf)
  | .struct id message entries => do
    return .struct id message (← entries.mapM (Entry.traverse partOf))
  | .comprehension id _ _ _ _ _ _ _ _ =>
    match records.get? id with
    | some (.memberCall callId target function args) => do
      return .memberCall callId (← partOf target) function (← args.mapM partOf)
    | _ => none

/-- The tree as it was written, from a record of expanded calls. Nothing if a record is missing or
the tree has more levels than the depth. -/
def unexpandWithin (records : IdMap Expr) : Nat → Expr → Option Expr
  | 0, _ => none
  | depth + 1, tree => tree.unexpandStep records (unexpandWithin records depth)

/-! ### Steps over other parts -/

/-- Two steps of one kind, with related parts. -/
inductive NodeOperation.Rel {ν ε ν' ε' : Type} (R : ν → ν' → Prop) (S : ε → ε' → Prop) :
    NodeOperation ν ε → NodeOperation ν' ε' → Prop
  | literal {source : Literal} : Rel R S (.literal source) (.literal source)
  | ident {name : String} : Rel R S (.ident name) (.ident name)
  | select {operand : ν} {operand' : ν'} {field : String} (same : R operand operand') :
    Rel R S (.select operand field) (.select operand' field)
  | call {function : String} {args : List ν} {args' : List ν'} (same : List.Forall₂ R args args') :
    Rel R S (.call function args) (.call function args')
  | memberCall {target : ν} {target' : ν'} {function : String} {args : List ν} {args' : List ν'}
    (same : R target target') (same' : List.Forall₂ R args args') :
    Rel R S (.memberCall target function args) (.memberCall target' function args')
  | operatorCall {operator : String} {args : List ν} {args' : List ν'}
    (same : List.Forall₂ R args args') :
    Rel R S (.operatorCall operator args) (.operatorCall operator args')
  | index {operand subscript : ν} {operand' subscript' : ν'} (same : R operand operand')
    (same' : R subscript subscript') :
    Rel R S (.index operand subscript) (.index operand' subscript')
  | list {elements : List ν} {elements' : List ν'} (same : List.Forall₂ R elements elements') :
    Rel R S (.list elements) (.list elements')
  | struct {message : String} {entries : List ε} {entries' : List ε'}
    (same : List.Forall₂ S entries entries') :
    Rel R S (.struct message entries) (.struct message entries')

/-- Two steps of one kind, with related parts. -/
inductive EntryOperation.Rel {ν ν' : Type} (R : ν → ν' → Prop) :
    EntryOperation ν → EntryOperation ν' → Prop
  | map {key value : ν} {key' value' : ν'} {optional : Bool} (same : R key key')
    (same' : R value value') : Rel R (.map key value optional) (.map key' value' optional)
  | field {name : String} {value : ν} {value' : ν'} {optional : Bool} (same : R value value') :
    Rel R (.field name value optional) (.field name value' optional)

theorem NodeOperation.Rel.imp {ν ε ν' ε' : Type} {R R' : ν → ν' → Prop} {S S' : ε → ε' → Prop}
    (node : ∀ part part', R part part' → R' part part')
    (entry : ∀ part part', S part part' → S' part part') {operation : NodeOperation ν ε}
    {operation' : NodeOperation ν' ε'} (related : operation.Rel R S operation') :
    operation.Rel R' S' operation' := by
  cases related with
  | literal => exact .literal
  | ident => exact .ident
  | select same => exact .select (node _ _ same)
  | call same => exact .call (same.imp node)
  | memberCall same same' => exact .memberCall (node _ _ same) (same'.imp node)
  | operatorCall same => exact .operatorCall (same.imp node)
  | index same same' => exact .index (node _ _ same) (node _ _ same')
  | list same => exact .list (same.imp node)
  | struct same => exact .struct (same.imp entry)

theorem mapM_of_forall₂ {α β : Type} {partOf : α → Option β} {parts : List α} {results : List β}
    (each : List.Forall₂ (fun part result => partOf part = some result) parts results) :
    parts.mapM partOf = some results := by
  induction each with
  | nil => rfl
  | cons here _ ih => simp only [List.mapM_cons, here, ih, Option.bind_eq_bind, Option.bind_some,
      Option.pure_def]

/-- Replacing the parts of a written node gives the node that is written over the replacements. -/
theorem NodeOperation.unexpandStep_node {records : IdMap Expr} {partOf : Expr → Option Expr}
    {operation sources : NodeOperation Expr Entry} {id : Int} {tree : Expr}
    (written : operation.node id = .ok tree)
    (parts : operation.Rel (fun part source => partOf part = some source)
      (fun part source => part.traverse partOf = some source) sources) :
    ∃ source, sources.node id = .ok source ∧ tree.unexpandStep records partOf = some source := by
  cases parts with
  | literal =>
    refine ⟨tree, written, ?_⟩
    obtain ⟨value, rfl⟩ := literal_of_node written
    rfl
  | ident =>
    cases written
    exact ⟨_, rfl, rfl⟩
  | select same =>
    cases written
    refine ⟨_, rfl, ?_⟩
    simp only [Expr.unexpandStep, same, Option.bind_eq_bind, Option.bind_some, Option.pure_def]
  | memberCall same same' =>
    cases written
    refine ⟨_, rfl, ?_⟩
    simp only [Expr.unexpandStep, same, mapM_of_forall₂ same', Option.bind_eq_bind,
      Option.bind_some, Option.pure_def]
  | index same same' =>
    cases written
    refine ⟨_, rfl, ?_⟩
    simp only [Expr.unexpandStep, List.mapM_cons, List.mapM_nil, same, same', Option.bind_eq_bind,
      Option.bind_some, Option.pure_def]
  | _ same =>
    cases written
    refine ⟨_, rfl, ?_⟩
    simp only [Expr.unexpandStep, mapM_of_forall₂ same, Option.bind_eq_bind, Option.bind_some,
      Option.pure_def]

/-- A select that is no field test stays a select. -/
theorem select_of_unexpandWithin {records : IdMap Expr} {depth : Nat} {id : Int} {operand : Expr}
    {field : String} {source : Expr}
    (restored : unexpandWithin records depth (.select id operand field false) = some source) :
    ∃ depth' source', depth = depth' + 1 ∧ unexpandWithin records depth' operand = some source' ∧
      source = .select id source' field false := by
  cases depth with
  | zero => cases restored
  | succ depth =>
    rw [unexpandWithin, Expr.unexpandStep] at restored
    simp only [Option.bind_eq_bind, Option.bind_eq_some_iff, Option.pure_def,
      Option.some.injEq] at restored
    obtain ⟨source', below, same⟩ := restored
    exact ⟨depth, source', rfl, below, same.symm⟩

/-- A fold becomes the call on record under its id. -/
theorem MacroCall.unexpandStep_fold {records : IdMap Expr} {partOf : Expr → Option Expr}
    {base callId : Int} {call : MacroCall} {target target' : Expr} {function : String}
    {args args' : List Expr}
    (found : records.get? (base + call.size) = some (.memberCall callId target function args))
    (first : partOf target = some target')
    (others : List.Forall₂ (fun part source => partOf part = some source) args args') :
    (call.fold base).unexpandStep records partOf =
      some (.memberCall callId target' function args') := by
  obtain ⟨init, condition, step, result, shape⟩ := call.exists_fold_eq base
  rw [shape, overRange, Expr.unexpandStep, found]
  simp only [first, mapM_of_forall₂ others, Option.bind_eq_bind, Option.bind_some, Option.pure_def]

/-! ### Trees and what was written for them -/

/-- A tree that was built since a base stands for the tree that was written: its root has a record
if it is a field test, and undoing expansions, down to as many levels as the root's id says or more,
results in the written tree, also from a record that has grown since. -/
structure Stands (base builder : Builder) (tree source : Expr) : Prop where
  above : base.lastId < tree.id
  allocated : tree.id ≤ builder.lastId
  marked : ∀ testOnly, tree.testOnly? = some testOnly →
    (builder.info.macroCalls.get? tree.id).isSome = testOnly
  restored : ∀ records, builder.info.macroCalls.Within records →
    ∀ depth : Nat, tree.id ≤ depth → unexpandWithin records depth tree = some source

/-- An entry that was built since a base stands for the entry that was written. -/
structure EntryStands (base builder : Builder) (entry source : Entry) : Prop where
  above : base.lastId < entry.id
  allocated : entry.id ≤ builder.lastId
  restored : ∀ records, builder.info.macroCalls.Within records →
    ∀ depth : Nat, entry.id ≤ depth → entry.traverse (unexpandWithin records depth) = some source

section Stands

variable {base middle builder after : Builder}

/-- What a tree stands for does not change as its builder grows. -/
theorem Stands.later {tree source : Expr} (stands : Stands base builder tree source)
    (recording : builder.Recording) (grows : builder.Grows after) :
    Stands base after tree source where
  above := stands.above
  allocated := Int.le_trans stands.allocated grows.lastId
  marked testOnly select := by
    rw [grows.old _ stands.allocated]
    exact stands.marked testOnly select
  restored records within := stands.restored records fun id call found =>
    within id call (grows.within recording id call found)

theorem Stands.since {tree source : Expr} (stands : Stands middle builder tree source)
    (earlier : base.lastId ≤ middle.lastId) : Stands base builder tree source :=
  { stands with above := Int.lt_of_le_of_lt earlier stands.above }

theorem EntryStands.later {entry source : Entry} (stands : EntryStands base builder entry source)
    (recording : builder.Recording) (grows : builder.Grows after) :
    EntryStands base after entry source where
  above := stands.above
  allocated := Int.le_trans stands.allocated grows.lastId
  restored records within := stands.restored records fun id call found =>
    within id call (grows.within recording id call found)

theorem EntryStands.since {entry source : Entry}
    (stands : EntryStands middle builder entry source) (earlier : base.lastId ≤ middle.lastId) :
    EntryStands base builder entry source :=
  { stands with above := Int.lt_of_le_of_lt earlier stands.above }

/-- The parts of a step are restored on one level less than its new id says. -/
theorem parts_restored {operation sources : NodeOperation Expr Entry}
    (parts : operation.Rel (Stands base builder) (EntryStands base builder) sources)
    {records : IdMap Expr} (within : builder.info.macroCalls.Within records) {depth : Nat}
    (enough : builder.lastId ≤ depth) :
    operation.Rel (fun part source => unexpandWithin records depth part = some source)
      (fun part source => part.traverse (unexpandWithin records depth) = some source) sources :=
  parts.imp
    (fun _ _ stands =>
      stands.restored records within depth (Int.le_trans stands.allocated enough))
    fun _ _ stands =>
      stands.restored records within depth (Int.le_trans stands.allocated enough)

/-- A node that is no expansion stands for the node written over what its parts stand for. -/
theorem Stands.plain (grows : base.Grows builder) (offset : Offset)
    {operation sources : NodeOperation Expr Entry} {tree : Expr}
    (written : operation.node (builder.lastId + 1) = .ok tree)
    (parts : operation.Rel (Stands base builder) (EntryStands base builder) sources) :
    ∃ source, sources.node (builder.lastId + 1) = .ok source ∧
      Stands base (builder.advance offset) tree source := by
  have start := grows.recording.start
  have id := NodeOperation.node_id written
  have older := grows.lastId
  have each : ∀ records, builder.info.macroCalls.Within records → ∀ depth : Nat,
      builder.lastId ≤ depth → ∃ source, sources.node (builder.lastId + 1) = .ok source ∧
        unexpandWithin records (depth + 1) tree = some source :=
    fun _ within _ enough =>
      NodeOperation.unexpandStep_node written (parts_restored parts within enough)
  obtain ⟨source, built, -⟩ := each builder.info.macroCalls (fun _ _ found => found)
    builder.lastId.toNat (by omega)
  -- the source is fixed by the parts; records and depth only decide that it is found
  refine ⟨source, built, ?_, ?_, ?_, ?_⟩
  · omega
  · exact Int.le_of_eq id
  · intro testOnly select
    rw [NodeOperation.testOnly?_node written select, id, Builder.advance_macroCalls,
      grows.recording.get?_eq_none (by omega)]
    rfl
  · intro records within depth enough
    obtain ⟨depth, rfl⟩ : ∃ smaller, depth = smaller + 1 := ⟨depth - 1, by omega⟩
    obtain ⟨source', built', restored⟩ := each records within depth (by omega)
    rw [restored, ← Except.ok.inj (built.symm.trans built')]

/-- A field test of a select that is none yet stands for its call. -/
theorem Stands.test (grows : base.Grows builder) (offset : Offset) {id : Int}
    {operand source : Expr} {field : String}
    (stands : Stands base builder (.select id operand field false) source) :
    Stands base ((builder.advance offset).recorded id
        (.call (builder.lastId + 1) Macro.has.function [.select id operand field false]))
      (.select id operand field true)
      (.call (builder.lastId + 1) Macro.has.function [source]) := by
  have enabled := (grows.advance offset).recording.enabled
  -- the select has no record yet, so that of its test replaces none
  have absent : builder.info.macroCalls.get? id = none :=
    Option.isNone_iff_eq_none.mp (Option.isSome_eq_false_iff.mp (stands.marked false rfl))
  refine ⟨stands.above, ?_, ?_, ?_⟩
  · rw [Builder.recorded_lastId]
    exact Int.le_add_one stands.allocated
  · intro testOnly select
    cases select
    rw [Builder.recorded_macroCalls _ _ _ enabled]
    show ((builder.info.macroCalls.insert id _).get? id).isSome = true
    rw [IdMap.get?_insert_self]
    rfl
  · intro records within depth enough
    have found := within id _ (by
      rw [Builder.recorded_macroCalls _ _ _ enabled]
      exact IdMap.get?_insert_self _ _ _)
    have before : builder.info.macroCalls.Within records := fun other call held =>
      within other call ((builder.advance offset).within_recorded _ absent other call held)
    obtain ⟨depth, source', rfl, below, rfl⟩ :=
      select_of_unexpandWithin (stands.restored records before depth enough)
    rw [unexpandWithin, Expr.unexpandStep, found]
    simp only [below, Option.bind_eq_bind, Option.bind_some, Option.pure_def]

/-- The fold of a call stands for that call. -/
theorem Stands.fold (grows : base.Grows builder) (offset : Offset) (found : MacroCall)
    {target target' : Expr} {function : String} {args args' : List Expr}
    (first : Stands base builder target target')
    (others : List.Forall₂ (Stands base builder) args args') :
    Stands base (((builder.advance offset).advanceBy offset found.size).recorded
        (builder.lastId + 1 + found.size) (.memberCall (builder.lastId + 1) target function args))
      (found.fold (builder.lastId + 1))
      (.memberCall (builder.lastId + 1) target' function args') := by
  have start := grows.recording.start
  have older := grows.lastId
  have id := MacroCall.fold_id (builder.lastId + 1) found
  have enabled := ((grows.advance offset).advanceBy offset found.size).recording.enabled
  have absent : ((builder.advance offset).advanceBy offset found.size).info.macroCalls.get?
      (builder.lastId + 1 + found.size) = none := by
    rw [Builder.advanceBy_macroCalls]
    exact grows.recording.get?_eq_none (by omega)
  refine ⟨?_, ?_, ?_, ?_⟩
  · omega
  · refine Int.le_of_eq ?_
    rw [id, Builder.recorded_lastId, Builder.advanceBy_lastId, Builder.advance_lastId]
  · intro testOnly select
    rw [MacroCall.testOnly?_fold] at select
    cases select
  · intro records within depth enough
    obtain ⟨depth, rfl⟩ : ∃ smaller, depth = smaller + 1 := ⟨depth - 1, by omega⟩
    have onRecord := within (builder.lastId + 1 + found.size) _ (by
      rw [Builder.recorded_macroCalls _ _ _ enabled]
      exact IdMap.get?_insert_self _ _ _)
    have before : builder.info.macroCalls.Within records := by
      intro other call held
      rw [← Builder.advance_macroCalls builder offset,
        ← Builder.advanceBy_macroCalls _ offset found.size] at held
      exact within other call (Builder.within_recorded _ _ absent other call held)
    have deep : builder.lastId ≤ depth := by omega
    exact MacroCall.unexpandStep_fold onRecord
      (first.restored records before depth (Int.le_trans first.allocated deep))
      (others.imp fun _ _ stands =>
        stands.restored records before depth (Int.le_trans stands.allocated deep))

/-- **A step over trees that stand for some parts results in a tree that stands for the node written
over these parts**, unless it tests a test. -/
theorem NodeOperation.Effect.stands (grows : base.Grows builder) {offset : Offset}
    {operation sources : NodeOperation Expr Entry} {tree : Expr}
    (effect : operation.Effect offset builder (.ok tree) after)
    (once : operation.isRetest builder.options = false)
    (parts : operation.Rel (Stands base builder) (EntryStands base builder) sources) :
    ∃ source, sources.node (builder.lastId + 1) = .ok source ∧ base.Grows after ∧
      Stands base after tree source := by
  have older := grows.lastId
  cases effect with
  | plain unexpanded written =>
    obtain ⟨source, built, stands⟩ := Stands.plain grows offset written parts
    exact ⟨source, built, grows.advance offset, stands⟩
  | @test id operand field testOnly enabled =>
    have first : testOnly = false := by
      have expanded := isExpansion_test enabled id operand field testOnly
      rw [isRetest] at once
      exact (Bool.and_eq_false_imp.mp once) expanded
    subst first
    cases parts with
    | call same =>
      obtain ⟨source, rest, stands, none, rfl⟩ := List.forall₂_cons_left_iff.mp same
      cases none
      refine ⟨_, rfl, ?_, Stands.test grows offset stands⟩
      exact (grows.advance offset).recorded _ stands.above (Int.le_add_one stands.allocated)
  | @fold target function args found recognized =>
    cases parts with
    | memberCall first others =>
      refine ⟨_, rfl, ?_, Stands.fold grows offset found first others⟩
      refine ((grows.advance offset).advanceBy offset found.size).recorded _ ?_ ?_
      · omega
      · refine Int.le_of_eq ?_
        rw [Builder.advanceBy_lastId, Builder.advance_lastId]

theorem EntryOperation.stands (grows : base.Grows builder) (offset : Offset)
    {operation sources : EntryOperation Expr}
    (parts : operation.Rel (Stands base builder) sources) :
    EntryStands base (builder.advance offset) (operation.entry (builder.lastId + 1))
      (sources.entry (builder.lastId + 1)) := by
  have older := grows.lastId
  have each : ∀ {part source}, Stands base builder part source → ∀ records,
      builder.info.macroCalls.Within records → ∀ depth : Nat, builder.lastId + 1 ≤ depth →
        unexpandWithin records depth part = some source := by
    intro part source stands records within depth enough
    have := stands.allocated
    exact stands.restored records within depth (by omega)
  cases parts with
  | map key value =>
    refine ⟨?_, Int.le_refl _, fun records within depth enough => ?_⟩
    · exact Int.lt_add_one_of_le older
    · have first := each key records within depth enough
      have second := each value records within depth enough
      simp only [EntryOperation.entry, Entry.traverse, first, second, Option.bind_eq_bind,
        Option.bind_some, Option.pure_def]
  | field value =>
    refine ⟨?_, Int.le_refl _, fun records within depth enough => ?_⟩
    · exact Int.lt_add_one_of_le older
    · have first := each value records within depth enough
      simp only [EntryOperation.entry, Entry.traverse, first, Option.bind_eq_bind,
        Option.bind_some, Option.pure_def]

end Stands

end CelTree
