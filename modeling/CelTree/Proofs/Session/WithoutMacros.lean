/-
**Without macros, everything stays as it is written.**

A builder that expands no macro builds the node that each operation writes. So no result holds a
fold or a field test, and no call is on record. Only the expansion of a field test by itself would
make one, since it does not ask for the macros.

* `Expr.Unexpanded`, `Item.Unexpanded`: no fold and no field test.
* `Builder.Plain`: no macros, and no call on record.
* `Attempt.Plain`, `Session.Plain`: what keeps builders so and results in unexpanded trees; a session
  of that kind. `Plain.step`, `Plain.run`: steps keep it so.
* **`run_macroChoice`** — macros matter for their own calls only, and without macros nothing is
  expanded.
-/

import CelTree.Proofs.Session.Explanation
import CelTree.Proofs.Session.MacroChoice

namespace CelTree

/-- The node is neither a fold nor a field test. -/
def Expr.Unexpanded (node : Expr) : Prop :=
  node.isComprehension = false ∧ node.testOnly? ≠ some true

/-- No node of a result is a fold or a field test. Plans have no nodes. -/
def Item.Unexpanded (item : Item) : Prop := ∀ node ∈ item.nodes, node.Unexpanded

/-- The builder expands no macro and has no call on record. -/
structure Builder.Plain (builder : Builder) : Prop where
  macros : builder.options.macros = .none
  macroCalls : builder.info.macroCalls = .empty

theorem Builder.Plain.advance {builder : Builder} (plain : builder.Plain) (offset : Offset) :
    (builder.advance offset).Plain := ⟨plain.macros, plain.macroCalls⟩

/-! ### Constructions -/

namespace Attempt

variable {α β : Type}

/-- The construction leaves a plain builder plain, and its result is as required. -/
def Plain (Result : α → Prop) (construction : Attempt α) : Prop :=
  ∀ builder : Builder, builder.Plain → (construction.run.run builder).2.Plain ∧
    ∀ value, (construction.run.run builder).1 = .ok value → Result value

theorem Plain.pure {Result : α → Prop} {value : α} (held : Result value) :
    Plain Result (Pure.pure value) := by
  refine fun builder plain => ⟨plain, ?_⟩
  rintro _ ⟨⟩
  exact held

theorem Plain.bind {One : α → Prop} {Two : β → Prop} {construction : Attempt α}
    {rest : α → Attempt β} (one : construction.Plain One)
    (two : ∀ value, One value → (rest value).Plain Two) : (construction >>= rest).Plain Two := by
  intro builder plain
  obtain ⟨kept, result⟩ := one builder plain
  rw [run_bind]
  rcases ran : construction.run.run builder with ⟨error | value, middle⟩
  · rw [ran] at kept
    exact ⟨kept, fun _ never => by cases never⟩
  · rw [ran] at kept result
    exact two value (result value rfl) middle kept

end Attempt

/-- A node that a step writes is neither a fold nor a field test. -/
theorem NodeOperation.node_unexpanded {operation : NodeOperation Expr Entry} {id : Int}
    {tree : Expr} (written : operation.node id = .ok tree) : tree.Unexpanded := by
  refine ⟨?_, fun tested => by cases testOnly?_node written tested⟩
  cases operation with
  | literal source =>
    obtain ⟨value, rfl⟩ := literal_of_node written
    rfl
  | _ =>
    cases written
    rfl

/-- **A step over unexpanded parts is not expanded** where there are no macros. -/
theorem NodeOperation.perform_plain (offset : Offset) {operation : NodeOperation Expr Entry}
    (parts : ∀ item ∈ operation.items, item.Unexpanded) :
    (operation.perform offset).Plain fun tree => (Item.node tree).Unexpanded := by
  intro builder plain
  have effect := operation.perform_effect offset builder
  generalize (operation.perform offset).run.run builder = ran at effect ⊢
  obtain ⟨outcome, after⟩ := ran
  cases effect with
  | refused value => exact ⟨plain, fun _ never => by cases never⟩
  | plain unexpanded written =>
    refine ⟨plain.advance offset, ?_⟩
    rintro _ ⟨⟩ node member
    rcases mem_nodes_node written member with rfl | ⟨item, part, inside⟩
    · exact node_unexpanded written
    · exact parts item part node inside
  | test enabled =>
    rw [plain.macros] at enabled
    cases enabled
  | fold recognized =>
    obtain ⟨m, -, enabled⟩ := MacroCall.enabled_of_recognize recognized
    rw [plain.macros] at enabled
    cases enabled

theorem Builder.literal_plain (offset : Offset) (value : Constant) :
    (liftM (literal offset value) : Attempt Expr).Plain fun tree =>
      (Item.node tree).Unexpanded := by
  refine fun builder plain => ⟨plain.advance offset, ?_⟩
  rintro _ ⟨⟩ node member
  obtain rfl := List.mem_singleton.mp member
  exact ⟨rfl, nofun⟩

/-- Without macros, a call stays as it is. -/
theorem Builder.maybeExpand_plain (offset : Offset) {call : Expr}
    (given : (Item.node call).Unexpanded) :
    (liftM (maybeExpand offset call) : Attempt Expr).Plain fun tree =>
      (Item.node tree).Unexpanded := by
  intro builder plain
  rw [Attempt.run_lift, maybeExpand_run]
  split
  · rename_i found recognized
    obtain ⟨id, function, variableId, rfl⟩ := MacroCall.recognize_eq_some recognized
    obtain ⟨m, -, enabled⟩ := MacroCall.enabled_of_recognize recognized
    rw [plain.macros] at enabled
    cases enabled
  · refine ⟨plain, ?_⟩
    rintro _ ⟨⟩
    exact given

/-- An entry of unexpanded parts is unexpanded. -/
theorem EntryOperation.entry_unexpanded {operation : EntryOperation Expr}
    (parts : ∀ item ∈ operation.items, item.Unexpanded) (id : Int) :
    (Item.entry (operation.entry id)).Unexpanded := by
  intro node member
  obtain ⟨item, part, inside⟩ := mem_nodes_entry member
  exact parts item part node inside

/-- Steps over unexpanded parts are not expanded, and sequences inherit it. -/
theorem Attempt.closed_plain :
    Attempt.Closed (fun _ => True) Item.Unexpanded
      fun _ Result construction => construction.Plain Result where
  pure := Plain.pure
  bind := Plain.bind
  node offset _ _ parts := NodeOperation.perform_plain offset parts
  entry offset operation parts builder plain := by
    rw [run_lift, operation.perform_run]
    refine ⟨plain.advance offset, ?_⟩
    rintro _ ⟨⟩
    exact operation.entry_unexpanded parts _

/-! ### Sessions -/

namespace Session

/-- The builder is plain, and no result holds a fold or a field test. -/
structure Plain (session : Session) : Prop where
  builder : session.builder.Plain
  results : ∀ item, some item ∈ session.registers → item.Unexpanded

variable {session : Session}

/-- A new register keeps the session plain if it holds nothing that is expanded. -/
theorem Plain.push (plain : session.Plain) {after : Builder} {slot : Option Item}
    (kept : after.Plain) (new : ∀ item, slot = some item → item.Unexpanded) :
    ({ session with builder := after }.push slot).Plain := by
  refine ⟨kept, fun item member => ?_⟩
  rcases List.mem_append.mp member with old | added
  · exact plain.results item old
  · exact new item (List.mem_singleton.mp added).symm

theorem Plain.pushNone (plain : session.Plain) : (session.push none).Plain :=
  plain.push plain.builder fun _ never => by cases never

theorem Plain.consume (plain : session.Plain) (registers : List Nat) :
    (session.consume registers).Plain :=
  ⟨plain.builder, fun item member => plain.results item (mem_of_mem_consume member)⟩

/-- A construction without expansions keeps the session plain. -/
theorem Plain.buildNode (plain : session.Plain) {construction : Attempt Expr}
    (builds : construction.Plain fun tree => (Item.node tree).Unexpanded) :
    (session.buildNode construction).2.Plain := by
  obtain ⟨kept, new⟩ := builds session.builder plain.builder
  rcases ran : construction.run.run session.builder with ⟨error | tree, after⟩
  · rw [ran] at kept
    rw [buildNode_error ran]
    exact plain.push kept fun _ never => by cases never
  · rw [ran] at kept new
    rw [buildNode_ok ran]
    refine plain.push kept fun item same => ?_
    cases same
    exact new tree rfl

theorem Plain.planNode (plain : session.Plain) (offset : Offset)
    (operation : NodeOperation Nat Nat) : (session.planNode offset operation).2.Plain := by
  unfold Session.planNode
  split
  · split
    · refine (plain.consume operation.references).push plain.builder fun item same => ?_
      cases same
      exact List.forall_mem_nil _
    · exact plain.pushNone
  · exact plain.pushNone

theorem Plain.planEntry (plain : session.Plain) (offset : Offset)
    (operation : EntryOperation Nat) : (session.planEntry offset operation).2.Plain := by
  unfold Session.planEntry
  split
  · split
    · refine (plain.consume operation.references).push plain.builder fun item same => ?_
      cases same
      exact List.forall_mem_nil _
    · exact plain.pushNone
  · exact plain.pushNone

/-- **A step keeps a session without macros plain**, unless it asks for the expansion of a field
test. -/
theorem Plain.step (plain : session.Plain) {step : Step}
    (unasked : ∀ offset args, step ≠ .expandHas offset args) : (session.step step).2.Plain := by
  cases step with
  | node offset operation =>
    simp only [Session.step]
    split
    · exact plain.planNode offset operation
    · split
      · rename_i parts resolved
        exact plain.buildNode (NodeOperation.perform_plain offset fun item part =>
          plain.results item ((holds_of_resolve? resolved).mem item part))
      · exact plain.pushNone
  | entry offset operation =>
    simp only [Session.step]
    split
    · exact plain.planEntry offset operation
    · split
      · rename_i parts resolved
        rw [buildEntry, parts.perform_run]
        refine plain.push (plain.builder.advance offset) fun item same => ?_
        cases same
        exact parts.entry_unexpanded (fun item part =>
          plain.results item ((holds_of_resolve?_entry resolved).mem item part)) _
      · exact plain.pushNone
  | constant offset value =>
    simp only [Session.step]
    split
    · exact plain.pushNone
    · exact plain.buildNode (Builder.literal_plain offset value)
  | expandHas offset args => exact absurd rfl (unasked offset args)
  | maybeExpand offset call =>
    simp only [Session.step]
    split
    · exact plain.pushNone
    · split
      · rename_i tree held
        exact plain.buildNode (Builder.maybeExpand_plain offset
          (plain.results _ (mem_of_itemAt (itemAt_of_nodeAt held))))
      · exact plain.pushNone
  | force register =>
    simp only [Session.step]
    split
    · split
      · rename_i plan held
        exact (plain.consume [register]).buildNode
          (plan.force_of_closed Attempt.closed_plain fun _ _ => trivial)
      · exact plain.pushNone
    · exact plain.pushNone
  | endPlanning =>
    simp only [Session.step]
    split
    · exact ⟨plain.builder, plain.pushNone.results⟩
    · exact plain.pushNone
  | ask query => exact plain.pushNone

theorem Plain.run (plain : session.Plain) {steps : List Step}
    (unasked : ∀ offset args, .expandHas offset args ∉ steps) : (session.run steps).2.Plain := by
  induction steps generalizing session with
  | nil => exact plain
  | cons first rest ih =>
    refine ih (plain.step fun offset args same => ?_) fun offset args member => ?_
    · exact unasked offset args (List.mem_cons.mpr (.inl same.symm))
    · exact unasked offset args (List.mem_cons_of_mem _ member)

/-! ### The choice of macros -/

/-- A session with a new builder that expands these macros. -/
def starting (recordCalls planning : Bool) (macros : MacroSet) : Session :=
  { builder := { options := { recordCalls, macros } }, planning }

/-- **Macros matter for their own calls only.** Two sessions start from new builders with the same
options but for the macros, and take the same steps, planning or building. If the two sets of macros
agree on every function name that a step passes to a call, whatever the operators are, then after
any number of steps both have given the same answers, up to the options asked for, hold the same
trees in the same registers and have placed and recorded the same. Without macros, no result holds a
fold or a field test at any depth, and no call is on record. -/
theorem run_macroChoice (recordCalls planning : Bool) :
    (∀ (first second : MacroSet) (steps : List Step),
      (∀ step ∈ steps, ∀ function ∈ step.function?, first.AgreeOn second function) →
        ∀ count,
          let one := (starting recordCalls planning first).run (steps.take count)
          let two := (starting recordCalls planning second).run (steps.take count)
          two.1 = one.1.map (Answer.withMacros second) ∧
            two.2.registers = one.2.registers ∧
            two.2.builder.lastId = one.2.builder.lastId ∧
            two.2.builder.info = one.2.builder.info) ∧
      ∀ steps : List Step, (∀ offset args, .expandHas offset args ∉ steps) →
        let session := ((starting recordCalls planning .none).run steps).2
        (∀ node ∈ session.nodes, node.isComprehension = false ∧ node.testOnly? ≠ some true) ∧
          session.builder.info.macroCalls = .empty := by
  constructor
  · intro first second steps agree count one two
    have alike : (starting recordCalls planning first).Alike first second :=
      ⟨rfl, fun _ member => by cases member⟩
    have same : two = (one.1.map (Answer.withMacros second), one.2.withMacros second) :=
      alike.run fun step member => agree step (List.mem_of_mem_take member)
    rw [same]
    exact ⟨rfl, rfl, rfl, rfl⟩
  · intro steps unasked session
    have fresh : (starting recordCalls planning .none).Plain :=
      ⟨⟨rfl, rfl⟩, fun _ member => by cases member⟩
    have plain : session.Plain := fresh.run unasked
    refine ⟨fun node member => ?_, plain.builder.macroCalls⟩
    obtain ⟨slot, held, inside⟩ := List.mem_flatMap.mp member
    cases slot with
    | none => cases inside
    | some item => exact plain.results item held node inside

/-- In the run of `testInFold`, builders with all macros and with the two that are called cannot be
told apart, though both expand the call of `exists`; without macros nothing is on record. -/
theorem run_macroChoice_testInFold :
    (∀ step ∈ testInFold, ∀ function ∈ step.function?,
        MacroSet.all.AgreeOn (.ofList [.has, .existsAny]) function) ∧
      ((starting true false (.ofList [.has, .existsAny])).run testInFold).2.registers =
        ((starting true false .all).run testInFold).2.registers ∧
      (((starting true false .all).run testInFold).2.nodeAt 6).any Expr.isComprehension = true ∧
      (∀ offset args, .expandHas offset args ∉ testInFold) ∧
      ((starting true false .none).run testInFold).2.builder.info.macroCalls = .empty := by
  have agree : ∀ step ∈ testInFold, ∀ function ∈ step.function?,
      MacroSet.all.AgreeOn (.ofList [.has, .existsAny]) function := by decide
  have unasked : ∀ offset args, Step.expandHas offset args ∉ testInFold := by
    intro offset args member
    simp [testInFold] at member
  have folded : (((starting true false .all).run testInFold).2.nodeAt 6).any
      Expr.isComprehension = true := rfl
  obtain ⟨alike, plain⟩ := run_macroChoice true false
  obtain ⟨-, registers, -⟩ :=
    alike .all (.ofList [.has, .existsAny]) testInFold agree testInFold.length
  rw [List.take_length] at registers
  exact ⟨agree, registers, folded, unasked, (plain testInFold unasked).2⟩

end Session

end CelTree
