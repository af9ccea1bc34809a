/-
**Which records an expansion replaces.**

An expansion records the call that was written under the id of the node that replaces it. A fold has
an id of its own, but a field test keeps the id of its select, so a second test of one select finds
the record of the first one there and replaces it. Nothing else replaces a record.

* `Session.expands`, `Session.retests`: the steps that expand a call, and those among them that test
  a select which is a test already.
* `Session.KeepsRecords`: every expansion adds a record.
* `Recorded`: the invariant. A select whose result is not used yet has a record exactly if it is a
  test.
* **`keepsRecords_iff_no_retest`** — a linear run keeps its records exactly if it tests no test, and
  every such step loses one record.
-/

import CelTree.Proofs.Builder.Recording
import CelTree.Proofs.Session.Conservation
import Mathlib.Data.List.Induction
import Mathlib.Data.List.Pairwise

namespace CelTree

namespace Session

/-- The step expands a call. -/
def expands (session : Session) (step : Step) : Bool :=
  (session.partsOf step).any (NodeOperation.isExpansion session.builder.options)

/-- The step expands a field test of a select that is a test already. -/
def retests (session : Session) (step : Step) : Bool :=
  (session.partsOf step).any (NodeOperation.isRetest session.builder.options)

/-- The node that a step writes, before any expansion. -/
def writes (session : Session) (step : Step) : Option Expr :=
  (session.partsOf step).bind fun parts => (parts.node (session.builder.lastId + 1)).toOption

/-- How many steps of a run satisfy a test, each in the session in which it is taken. -/
def tally (test : Session → Step → Bool) (session : Session) : List Step → Nat
  | [] => 0
  | first :: rest => (test session first).toNat + tally test (session.step first).2 rest

/-- Every expansion of a run adds a record under an id that had none, so that there are always as
many records as there were expansions. -/
structure KeepsRecords (session : Session) (steps : List Step) : Prop where
  new : ∀ before step after, steps = before ++ step :: after →
    (session.run before).2.expands step = true →
      ∃ id call, (session.run before).2.builder.info.macroCalls.get? id = none ∧
        ((session.run before).2.step step).2.builder.info.macroCalls =
          (session.run before).2.builder.info.macroCalls.insert id call
  counted : ∀ before after, steps = before ++ after →
    (session.run before).2.builder.info.macroCalls.size = tally expands session before

/-! ### Counting steps -/

theorem tally_append (test : Session → Step → Bool) (session : Session) (first second : List Step) :
    tally test session (first ++ second) =
      tally test session first + tally test (session.run first).2 second := by
  induction first generalizing session with
  | nil => exact (Nat.zero_add _).symm
  | cons head rest ih => rw [List.cons_append, tally, ih, tally, run, Nat.add_assoc]

theorem tally_singleton (test : Session → Step → Bool) (session : Session) (step : Step) :
    tally test session [step] = (test session step).toNat := rfl

theorem run_singleton (session : Session) (step : Step) :
    (session.run [step]).2 = (session.step step).2 := rfl

/-- What holds of no steps and extends to one more step holds of every linear run. -/
theorem Linear.induction {options : Options} {motive : List Step → Prop} (nil : motive [])
    (snoc : ∀ steps step, (fresh options).Linear (steps ++ [step]) → motive steps →
      motive (steps ++ [step]))
    {steps : List Step} (linear : (fresh options).Linear steps) : motive steps := by
  induction steps using List.reverseRecOn with
  | nil => exact nil
  | append_singleton steps step ih => exact snoc steps step linear (ih linear.before)

/-! ### Unused results -/

variable {session next : Session} {used : List Nat} {dropped : List Int} {step : Step}

/-- The ids of unused results are allocated. -/
theorem Accounts.le_lastId (accounts : session.Accounts used dropped) {register : Nat}
    (member : register ∈ session.unused used) {id : Int} (inside : id ∈ session.idsAt register) :
    id ≤ session.builder.lastId := by
  have live : id ∈ session.liveIds used := List.mem_flatMap.mpr ⟨register, member, inside⟩
  have held := accounts.balance.mem_iff.mp (List.mem_append_left dropped live)
  exact (mem_idsBetween.mp held).2

/-- Different unused results have no id in common. -/
theorem Accounts.not_mem_idsAt (accounts : session.Accounts used dropped) {register other : Nat}
    (member : register ∈ session.unused used) (member' : other ∈ session.unused used)
    (different : register ≠ other) {id : Int} (inside : id ∈ session.idsAt register) :
    id ∉ session.idsAt other := by
  have nodup := accounts.balance.nodup_iff.mpr (nodup_idsBetween 0 session.builder.lastId)
  obtain ⟨live, -, -⟩ := List.nodup_append'.mp nodup
  have apart := (List.nodup_flatMap.mp live).2
  have : Std.Symm (Function.onFun List.Disjoint session.idsAt) :=
    ⟨fun _ _ disjoint => disjoint.symm⟩
  exact apart.forall member member' different inside

/-- The parts of an operation are unused before it. -/
theorem Performs.mem_unused (performs : session.Performs step next)
    (once : (used ++ step.references).Nodup) {register : Nat}
    (part : register ∈ step.references) : register ∈ session.unused used := by
  have old := performs.references_lt register part
  have notUsed : register ∉ used := fun inUsed =>
    (List.nodup_append'.mp once).2.2 inUsed part
  exact Session.mem_unused.mpr ⟨old, notUsed⟩

/-- An unused result after an operation is its own, or one that was unused before and is none of its
parts. -/
theorem Performs.unused_cases (performs : session.Performs step next)
    (within : ∀ register ∈ used, register < session.registers.length) {register : Nat}
    (member : register ∈ next.unused (used ++ step.references)) :
    register = session.registers.length ∨
      (register ∈ session.unused used ∧ register ∉ step.references ∧
        next.itemAt register = session.itemAt register) := by
  have within' : ∀ register ∈ used ++ step.references, register < session.registers.length := by
    intro register member
    rcases List.mem_append.mp member with inUsed | inParts
    · exact within register inUsed
    · exact performs.references_lt register inParts
  rw [performs.unused_eq within', List.mem_append, List.mem_singleton] at member
  rcases member with stays | new
  · obtain ⟨old, notUsed⟩ := Session.mem_unused.mp stays
    rw [List.mem_append, not_or] at notUsed
    exact .inr ⟨Session.mem_unused.mpr ⟨old, notUsed.1⟩, notUsed.2, performs.itemAt_of_lt old⟩
  · exact .inl new

/-! ### One operation -/

/-- What an operation does to the records: an expansion inserts the call that is written under the
id of its result, and everything else keeps them as they are. -/
inductive Records (session : Session) (step : Step) (next : Session) : Prop
  | kept (unexpanded : session.expands step = false)
      (same : next.builder.info.macroCalls = session.builder.info.macroCalls)
      (result : ∀ {id operand field testOnly},
        next.itemAt session.registers.length = some (.node (.select id operand field testOnly)) →
          session.builder.lastId < id ∧ testOnly = false)
  | test {register : Nat} {id : Int} {operand : Expr} {field : String} {testOnly : Bool}
      {call : Expr} (expanded : session.expands step = true)
      (part : register ∈ step.references)
      (given : session.itemAt register = some (.node (.select id operand field testOnly)))
      (again : session.retests step = testOnly)
      (result : next.itemAt session.registers.length =
        some (.node (.select id operand field true)))
      (written : session.writes step = some call)
      (added : next.builder.info.macroCalls = session.builder.info.macroCalls.insert id call)
  | fold {tree call : Expr} (expanded : session.expands step = true)
      (first : session.retests step = false)
      (result : next.itemAt session.registers.length = some (.node tree))
      (unlike : tree.testOnly? = none)
      (later : session.builder.lastId < tree.id) (allocated : tree.id ≤ next.builder.lastId)
      (written : session.writes step = some call)
      (added : next.builder.info.macroCalls = session.builder.info.macroCalls.insert tree.id call)

/-- **An operation records the call that it expands.** -/
theorem Performs.records (performs : session.Performs step next)
    (recording : session.builder.options.recordCalls = true) : session.Records step next := by
  cases performs with
  | @node offset operation parts tree after resolved effect =>
    have filled : ({ session with builder := after }.push (some (.node tree))).itemAt
        session.registers.length = some (.node tree) :=
      itemAt_push_length { session with builder := after } _
    have expands : session.expands (.node offset operation) =
        parts.isExpansion session.builder.options := by
      rw [expands, partsOf, resolved]
      rfl
    have retests : session.retests (.node offset operation) =
        parts.isRetest session.builder.options := by
      rw [retests, partsOf, resolved]
      rfl
    have writes : session.writes (.node offset operation) =
        (parts.node (session.builder.lastId + 1)).toOption := by
      rw [writes, partsOf, resolved]
      rfl
    cases effect with
    | plain unexpanded written =>
      refine .kept (expands.trans unexpanded) rfl fun {id operand field testOnly} held => ?_
      have same := filled.symm.trans held
      cases same
      have new : id = session.builder.lastId + 1 := NodeOperation.node_id written
      exact ⟨by omega, NodeOperation.testOnly?_node written rfl⟩
    | @test id operand field testOnly enabled =>
      obtain ⟨register, rest, given, -, split⟩ :=
        List.forall₂_cons_right_iff.mp (holds_of_resolve? resolved)
      have expanded := NodeOperation.isExpansion_test enabled id operand field testOnly
      have part : register ∈ (Step.node offset operation).references := by
        rw [Step.references, split]
        exact List.mem_cons_self
      have again : session.retests (.node offset operation) = testOnly := by
        rw [retests, NodeOperation.isRetest]
        exact (congrArg (· && testOnly) expanded).trans (Bool.true_and testOnly)
      refine .test (expands.trans expanded) part given again filled writes ?_
      exact Builder.recorded_macroCalls _ _ _ recording
    | @fold target function args found recognized =>
      have expanded := NodeOperation.isExpansion_fold recognized
      have first : session.retests (.node offset operation) = false := retests
      have result := MacroCall.fold_id (session.builder.lastId + 1) found
      refine .fold (expands.trans expanded) first filled (found.testOnly?_fold _) ?_ ?_ writes ?_
      · rw [result]
        omega
      · rw [result]
        show _ ≤ (Builder.recorded _ _ _).lastId
        rw [Builder.recorded_lastId, Builder.advanceBy_lastId, Builder.advance_lastId]
      · have recording' : ((session.builder.advance offset).advanceBy offset
            found.size).options.recordCalls = true := by
          rw [Builder.advanceBy_options, Builder.advance_options, recording]
        show (Builder.recorded _ _ _).info.macroCalls = _
        rw [Builder.recorded_macroCalls _ _ _ recording', Builder.advanceBy_macroCalls,
          Builder.advance_macroCalls, result]
  | @refused offset source reason value =>
    refine .kept rfl rfl fun held => ?_
    have same := (itemAt_push_length session none).symm.trans held
    cases same
  | @entry offset operation parts resolved =>
    refine .kept rfl rfl fun held => ?_
    have same := (itemAt_push_length { session with builder := _ } _).symm.trans held
    cases same
  | constant =>
    refine .kept rfl rfl fun held => ?_
    have same := (itemAt_push_length { session with builder := _ } _).symm.trans held
    cases same

/-! ### Runs -/

/-- Some results are used, the session records calls, and among the others a select has a record
exactly if it is a test. -/
structure Recorded (session : Session) (used : List Nat) : Prop where
  recording : session.builder.Recording
  marked : ∀ register ∈ session.unused used, ∀ {id operand field testOnly},
    session.itemAt register = some (.node (.select id operand field testOnly)) →
      (session.builder.info.macroCalls.get? id).isSome = testOnly

theorem recorded_fresh {options : Options} (recording : options.recordCalls = true) :
    (fresh options).Recorded [] where
  recording := Builder.recording_fresh recording
  marked register member := by cases member

/-- A register that holds a select holds its id. -/
theorem mem_idsAt_select {register : Nat} {id : Int} {operand : Expr} {field : String}
    {testOnly : Bool}
    (held : session.itemAt register = some (.node (.select id operand field testOnly))) :
    id ∈ session.idsAt register := by
  rw [idsAt, held]
  exact List.mem_cons_self

/-- **An operation on unused results keeps the invariant of the records.** -/
theorem Performs.recorded (performs : session.Performs step next)
    (recorded : session.Recorded used) (accounts : session.Accounts used dropped)
    (once : (used ++ step.references).Nodup) :
    next.Recorded (used ++ step.references) := by
  have options := performs.options
  have grows := performs.lastId_le
  cases performs.records recorded.recording.enabled with
  | kept unexpanded same result =>
    refine ⟨recorded.recording.kept options grows same, ?_⟩
    intro register member id operand field testOnly held
    rw [same]
    rcases performs.unused_cases accounts.within member with rfl | ⟨stays, -, unchanged⟩
    · obtain ⟨later, rfl⟩ := result held
      rw [recorded.recording.get?_eq_none later]
      rfl
    · exact recorded.marked register stays (unchanged ▸ held)
  | @test part id operand field testOnly call expanded inParts given again result written added =>
    have unusedPart := performs.mem_unused once inParts
    have inPart := mem_idsAt_select given
    have old := accounts.le_lastId unusedPart inPart
    refine ⟨recorded.recording.inserted options grows (old.trans grows) added, ?_⟩
    intro register member other operand' field' testOnly' held
    rw [added, IdMap.get?_insert]
    rcases performs.unused_cases accounts.within member with rfl | ⟨stays, notPart, unchanged⟩
    · have same := result.symm.trans held
      cases same
      rw [if_pos rfl]
      rfl
    · -- the select of another register has another id
      rw [unchanged] at held
      have different : register ≠ part := fun same => notPart (same ▸ inParts)
      have apart : other ≠ id := fun same =>
        accounts.not_mem_idsAt stays unusedPart different (mem_idsAt_select held) (same ▸ inPart)
      rw [if_neg apart]
      exact recorded.marked register stays held
  | @fold tree call expanded first result unlike later allocated written added =>
    refine ⟨recorded.recording.inserted options grows allocated added, ?_⟩
    intro register member other operand field testOnly held
    rw [added, IdMap.get?_insert]
    rcases performs.unused_cases accounts.within member with rfl | ⟨stays, -, unchanged⟩
    · have same := result.symm.trans held
      cases same
      cases unlike
    · rw [unchanged] at held
      have old := accounts.le_lastId stays (mem_idsAt_select held)
      have apart : other ≠ tree.id := by
        intro same
        omega
      rw [if_neg apart]
      exact recorded.marked register stays held

/-- **A linear run keeps the invariant of the records.** -/
theorem Linear.recorded {options : Options} (recording : options.recordCalls = true)
    {steps : List Step} (linear : (fresh options).Linear steps) :
    ((fresh options).run steps).2.Recorded (steps.flatMap Step.references) := by
  refine linear.induction (motive := fun steps =>
    ((fresh options).run steps).2.Recorded (steps.flatMap Step.references))
    (recorded_fresh recording) fun steps step linear recorded => ?_
  have accounts := linear.before.accounts
  have once := linear.once
  rw [List.flatMap_append, List.flatMap_singleton] at once ⊢
  rw [run_append, run_singleton]
  exact linear.performs.recorded recorded accounts once

theorem expands_of_retests (retest : session.retests step = true) :
    session.expands step = true := by
  unfold retests at retest
  unfold expands
  rw [Option.any_eq_true_iff_get] at retest ⊢
  obtain ⟨present, retest⟩ := retest
  exact ⟨present, NodeOperation.isExpansion_of_isRetest retest⟩

/-- **An expansion in a linear run inserts one record, over another one exactly if it is a second
test.** -/
theorem Linear.inserts {options : Options} (recording : options.recordCalls = true)
    {before after : List Step} {step : Step}
    (linear : (fresh options).Linear (before ++ step :: after)) :
    let session := ((fresh options).run before).2
    let next := (session.step step).2
    (session.expands step = true → ∃ tree call,
      next.nodeAt session.registers.length = some tree ∧ session.writes step = some call ∧
        next.builder.info.macroCalls = session.builder.info.macroCalls.insert tree.id call ∧
        (session.builder.info.macroCalls.get? tree.id).isSome = session.retests step) ∧
      (session.expands step = false →
        next.builder.info.macroCalls = session.builder.info.macroCalls) := by
  intro session next
  have recorded := linear.before.recorded recording
  have once := linear.before_once
  cases linear.performs.records recorded.recording.enabled with
  | kept unexpanded same result =>
    refine ⟨fun expanded => ?_, fun _ => same⟩
    rw [unexpanded] at expanded
    cases expanded
  | test expanded part given again result written added =>
    have marked := recorded.marked _ (linear.performs.mem_unused once part) given
    exact ⟨fun _ => ⟨_, _, nodeAt_of_itemAt result, written, added, marked.trans again.symm⟩,
      fun unexpanded => absurd (expanded.symm.trans unexpanded) (by decide)⟩
  | fold expanded first result unlike later allocated written added =>
    refine ⟨fun _ => ⟨_, _, nodeAt_of_itemAt result, written, added, ?_⟩,
      fun unexpanded => absurd (expanded.symm.trans unexpanded) (by decide)⟩
    rw [recorded.recording.get?_eq_none later, first]
    rfl

/-- **Records and second tests add up to expansions.** -/
theorem Linear.size_macroCalls {options : Options} (recording : options.recordCalls = true)
    {steps : List Step} (linear : (fresh options).Linear steps) :
    ((fresh options).run steps).2.builder.info.macroCalls.size +
        tally retests (fresh options) steps =
      tally expands (fresh options) steps := by
  refine linear.induction (motive := fun steps =>
    ((fresh options).run steps).2.builder.info.macroCalls.size +
      tally retests (fresh options) steps = tally expands (fresh options) steps)
    rfl fun steps step linear counted => ?_
  obtain ⟨inserts, keeps⟩ := linear.inserts recording
  rw [tally_append, tally_append, tally_singleton, tally_singleton, run_append, run_singleton]
  cases expanded : ((fresh options).run steps).2.expands step with
  | false =>
    have once : ((fresh options).run steps).2.retests step = false := by
      rw [Bool.eq_false_iff]
      intro retest
      rw [expands_of_retests retest] at expanded
      cases expanded
    rw [keeps expanded, once]
    exact counted
  | true =>
    obtain ⟨tree, call, -, -, added, replaces⟩ := inserts expanded
    rw [added, IdMap.size_insert, replaces]
    cases ((fresh options).run steps).2.retests step with
    | false =>
      rw [if_neg Bool.false_ne_true]
      show _ + 1 + (_ + 0) = _ + 1
      omega
    | true =>
      rw [if_pos rfl]
      show _ + (_ + 1) = _ + 1
      omega

/-- **A linear run keeps its records exactly if it tests no test.** Every expansion inserts the call
that is written, under the id of its result; it replaces a record exactly if it tests a select that
is a test already, and there are as many records as there were expansions that do not. -/
theorem keepsRecords_iff_no_retest (options : Options) (recording : options.recordCalls = true)
    (steps : List Step) (linear : (fresh options).Linear steps) :
    ((fresh options).KeepsRecords steps ↔ tally retests (fresh options) steps = 0) ∧
      ((fresh options).run steps).2.builder.info.macroCalls.size +
          tally retests (fresh options) steps =
        tally expands (fresh options) steps ∧
      ∀ before step after, steps = before ++ step :: after →
        let session := ((fresh options).run before).2
        let next := (session.step step).2
        (session.expands step = true → ∃ tree call,
          next.nodeAt session.registers.length = some tree ∧ session.writes step = some call ∧
            next.builder.info.macroCalls = session.builder.info.macroCalls.insert tree.id call ∧
            (session.builder.info.macroCalls.get? tree.id).isSome = session.retests step) ∧
          (session.expands step = false →
            next.builder.info.macroCalls = session.builder.info.macroCalls) := by
  have counted := linear.size_macroCalls recording
  refine ⟨⟨fun keeps => ?_, fun none => ⟨?_, ?_⟩⟩, counted, ?_⟩
  · have all := keeps.counted steps [] (List.append_nil steps).symm
    omega
  · rintro before step after rfl expanded
    obtain ⟨tree, call, -, -, added, replaces⟩ := (linear.inserts recording).1 expanded
    rw [tally_append, tally] at none
    have first : ((fresh options).run before).2.retests step = false := by
      cases again : ((fresh options).run before).2.retests step with
      | false => rfl
      | true =>
        rw [again] at none
        exact absurd none (by simp)
    rw [first] at replaces
    have absent := Option.isNone_iff_eq_none.mp (Option.isSome_eq_false_iff.mp replaces)
    exact ⟨tree.id, call, absent, added⟩
  · rintro before after rfl
    have counted' := linear.before.size_macroCalls recording
    rw [tally_append] at none
    omega
  · rintro before step after rfl
    exact linear.inserts recording

theorem keepsRecords_testInFold :
    ({} : Options).recordCalls = true ∧ (fresh {}).Linear testInFold ∧
      tally retests (fresh {}) testInFold = 0 ∧ tally expands (fresh {}) testInFold = 2 ∧
      (fresh {}).KeepsRecords testInFold :=
  ⟨rfl, linear_testInFold, rfl, rfl,
    (keepsRecords_iff_no_retest {} rfl testInFold linear_testInFold).1.mpr rfl⟩

/-- A run that tests a test: `has` of `has` of `x.y`. -/
def testTwice : List Step :=
  [.node 0 (.ident "x"), .node 1 (.select 0 "y"), .node 2 (.call Macro.has.function [1]),
    .node 3 (.call Macro.has.function [2])]

/-- Of the two calls that this run expands, the second one replaces the record of the first. -/
theorem testTwice_loses_record :
    ({} : Options).recordCalls = true ∧ (fresh {}).Linear testTwice ∧
      ¬ (fresh {}).KeepsRecords testTwice := by
  refine ⟨rfl, ⟨by decide, ?_, by decide⟩, fun keeps => ?_⟩
  · have answers : ((fresh {}).run testTwice).1 =
        [.node 1 "*expr.Expr_IdentExpr", .node 2 "*expr.Expr_SelectExpr",
          .node 2 "*expr.Expr_SelectExpr", .node 2 "*expr.Expr_SelectExpr"] := rfl
    rw [answers]
    simp
  · have counted : 1 = 2 := keeps.counted testTwice [] rfl
    cases counted

end Session

end CelTree
