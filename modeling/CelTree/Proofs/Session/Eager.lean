/-
**Sessions that build.**

A session that does not plan performs each step at once and never changes a register that it has
filled.

* `step_node`, `step_entry`, `step_constant`: what a step does if its references resolve.
  `step_planning`: no step makes the session plan.
* `Session.Extends`: a later moment of a session; `nodeAt_of_extends`, `entryAt_of_extends`: what a
  register holds, it keeps.
-/

import CelTree.Proofs.Builder.Effect
import CelTree.Session.Run

namespace CelTree

namespace Session

variable {session next last : Session}

/-! ### Registers -/

/-- A new register leaves the others as they are. -/
theorem itemAt_push_of_lt (session : Session) (item : Option Item) {register : Nat}
    (old : register < session.registers.length) :
    (session.push item).itemAt register = session.itemAt register := by
  unfold itemAt push
  rw [List.getElem?_append_left old]

/-- A new register holds what it is filled with. -/
theorem itemAt_push_length (session : Session) (item : Option Item) :
    (session.push item).itemAt session.registers.length = item := by
  unfold itemAt push
  rw [List.getElem?_concat_length]
  rfl

theorem lt_length_of_itemAt {register : Nat} {item : Item}
    (held : session.itemAt register = some item) : register < session.registers.length := by
  unfold itemAt at held
  rcases Nat.lt_or_ge register session.registers.length with inside | outside
  · exact inside
  · rw [List.getElem?_eq_none outside] at held
    cases held

theorem itemAt_of_nodeAt {register : Nat} {tree : Expr}
    (held : session.nodeAt register = some tree) :
    session.itemAt register = some (.node tree) := by
  unfold nodeAt at held
  split at held
  · rename_i found here
    rw [here, Option.some.inj held]
  · cases held

theorem nodeAt_of_itemAt {register : Nat} {tree : Expr}
    (held : session.itemAt register = some (.node tree)) :
    session.nodeAt register = some tree := by
  rw [nodeAt, held]

theorem itemAt_of_entryAt {register : Nat} {entry : Entry}
    (held : session.entryAt register = some entry) :
    session.itemAt register = some (.entry entry) := by
  unfold entryAt at held
  split at held
  · rename_i found here
    rw [here, Option.some.inj held]
  · cases held

theorem entryAt_of_itemAt {register : Nat} {entry : Entry}
    (held : session.itemAt register = some (.entry entry)) :
    session.entryAt register = some entry := by
  rw [entryAt, held]

/-- The second session has the registers of the first one and perhaps some more. -/
def Extends (session last : Session) : Prop := session.registers <+: last.registers

theorem Extends.refl (session : Session) : session.Extends session := List.prefix_refl _

theorem Extends.trans (first : session.Extends next) (second : next.Extends last) :
    session.Extends last := List.IsPrefix.trans first second

theorem extends_push (session : Session) (item : Option Item) :
    session.Extends (session.push item) := List.prefix_append _ _

/-- What a register holds, it keeps. -/
theorem itemAt_of_extends (later : session.Extends last) {register : Nat} {item : Item}
    (held : session.itemAt register = some item) : last.itemAt register = some item := by
  have old := lt_length_of_itemAt held
  obtain ⟨added, split⟩ := later
  unfold itemAt at held ⊢
  rw [← split, List.getElem?_append_left old, held]

theorem nodeAt_of_extends (later : session.Extends last) {register : Nat} {tree : Expr}
    (held : session.nodeAt register = some tree) : last.nodeAt register = some tree :=
  nodeAt_of_itemAt (itemAt_of_extends later (itemAt_of_nodeAt held))

theorem entryAt_of_extends (later : session.Extends last) {register : Nat} {entry : Entry}
    (held : session.entryAt register = some entry) : last.entryAt register = some entry :=
  entryAt_of_itemAt (itemAt_of_extends later (itemAt_of_entryAt held))

/-! ### Steps -/

/-- A step over references is a literal if it is one once they are resolved. -/
theorem eq_literal_of_resolve? {operation : NodeOperation Nat Nat} {source : Literal}
    {nodeOf : Nat → Option Expr} {entryOf : Nat → Option Entry}
    (resolved : operation.resolve? nodeOf entryOf = some (.literal source)) :
    operation = .literal source := by
  cases operation <;> simp_all [NodeOperation.resolve?, Option.bind_eq_some_iff]

/-- A session that builds makes a node at once if its parts are at hand. -/
theorem step_node (building : session.planning = false) (offset : Offset)
    {operation : NodeOperation Nat Nat} {parts : NodeOperation Expr Entry}
    (resolved : operation.resolve? session.nodeAt session.entryAt = some parts) :
    session.step (.node offset operation) = session.buildNode (parts.perform offset) := by
  simp only [step, building, resolved]
  rfl

theorem step_entry (building : session.planning = false) (offset : Offset)
    {operation : EntryOperation Nat} {parts : EntryOperation Expr}
    (resolved : operation.resolve? session.nodeAt = some parts) :
    session.step (.entry offset operation) = session.buildEntry (parts.perform offset) := by
  simp only [step, building, resolved]
  rfl

theorem step_constant (building : session.planning = false) (offset : Offset) (value : Constant) :
    session.step (.constant offset value) =
      session.buildNode (Builder.literal offset value) := by
  simp only [step, building]
  rfl

/-- A construction that succeeds fills a new register with its node. -/
theorem buildNode_ok {construction : Attempt Expr} {tree : Expr} {after : Builder}
    (built : construction.run.run session.builder = (.ok tree, after)) :
    session.buildNode construction =
      (.node tree.id tree.kind, { session with builder := after }.push (some (.node tree))) := by
  rw [buildNode, built]

/-- A construction that is refused leaves a new register empty. -/
theorem buildNode_error {construction : Attempt Expr} {error : BuildError} {after : Builder}
    (refused : construction.run.run session.builder = (.error error, after)) :
    session.buildNode construction =
      (.refused error, { session with builder := after }.push none) := by
  rw [buildNode, refused]

/-- A literal that is refused leaves the builder as it is. -/
theorem step_literal_refused (building : session.planning = false) (offset : Offset)
    {source : Literal} {reason : LiteralError} (refused : source.value = .error reason) :
    session.step (.node offset (.literal source)) =
      (.refused ⟨offset, reason⟩, session.push none) := by
  have parts : (NodeOperation.literal source : NodeOperation Nat Nat).resolve? session.nodeAt
      session.entryAt = some (.literal source) := rfl
  have fails : ((NodeOperation.literal source).perform offset).run.run session.builder =
      (.error ⟨offset, reason⟩, session.builder) := by
    rw [NodeOperation.perform, refused]
    rfl
  rw [step_node building offset parts, buildNode_error fails]

/-- A session that builds goes on to build. -/
theorem step_planning (building : session.planning = false) (step : Step) :
    (session.step step).2.planning = false := by
  have kept (construction : Attempt Expr) :
      (session.buildNode construction).2.planning = false := by
    unfold Session.buildNode
    split <;> exact building
  cases step with
  | node offset operation =>
    simp only [Session.step, building]
    cases operation.resolve? session.nodeAt session.entryAt with
    | none => exact building
    | some parts => exact kept _
  | entry offset operation =>
    simp only [Session.step, building]
    cases operation.resolve? session.nodeAt with
    | none => exact building
    | some parts => exact building
  | constant offset value =>
    simp only [Session.step, building]
    exact kept (liftM (Builder.literal offset value))
  | expandHas offset args =>
    simp only [Session.step, building]
    cases args.mapM session.nodeAt with
    | none => exact building
    | some trees => exact kept (liftM (Builder.expandHas offset trees))
  | maybeExpand offset call =>
    simp only [Session.step, building]
    cases session.nodeAt call with
    | none => exact building
    | some tree => exact kept (liftM (Builder.maybeExpand offset tree))
  | force register =>
    simp only [Session.step, building]
    exact building
  | endPlanning =>
    simp only [Session.step, building]
    exact building
  | ask query => exact building

end Session

end CelTree
