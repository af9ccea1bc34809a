/-
**Ids are heap-ordered.**

Whatever the steps of a session are, and however often they use a result, every id in every result is
greater than all ids beneath it. A new node is written over older parts; a field test keeps the place
of its select; and the nodes of a fold are written one over the other, with the older parts beneath.

* `Session.Ordered`: the invariant. Every result is heap-ordered, and no id is above the last one.
* `Builder.Orders`: a construction from a builder results in such a tree. So do the steps on ordered
  trees (`perform_orders`), the expansions by themselves (`expandHas_orders`, `maybeExpand_orders`),
  and forcing (`Plan.force_orders`), since it is carrying out the steps of the plan.
* `Ordered.step`: a step keeps the invariant.
* **`run_heapOrdered`** — the results of every run from a new builder are heap-ordered.
-/

import CelTree.Proofs.Expr.HeapOrder
import CelTree.Proofs.Plan.Stepwise
import CelTree.Proofs.Session.Allocation
import CelTree.Proofs.Session.Operation

namespace CelTree

open Render

/-- A result is heap-ordered with all ids below the bound. Plans have none. -/
def Item.OrderedBelow (bound : Int) : Item → Prop
  | .node tree => (Element.node tree).OrderedBelow bound
  | .entry held => (Element.entry held).OrderedBelow bound
  | .plan _ => True
  | .planEntry _ => True

theorem Item.OrderedBelow.mono {bound bound' : Int} {item : Item}
    (ordered : item.OrderedBelow bound) (le : bound ≤ bound') : item.OrderedBelow bound' := by
  cases item with
  | node tree => exact Element.OrderedBelow.mono ordered le
  | entry held => exact Element.OrderedBelow.mono ordered le
  | plan plan => trivial
  | planEntry plan => trivial

/-! ### Nodes and entries over ordered parts -/

theorem Item.orderedBelow_node {bound : Int} {tree : Expr} :
    (Item.node tree).OrderedBelow bound ↔ (Element.node tree).OrderedBelow bound := Iff.rfl

theorem Item.orderedBelow_entry {bound : Int} {held : Entry} :
    (Item.entry held).OrderedBelow bound ↔ (Element.entry held).OrderedBelow bound := Iff.rfl

/-- A node that a step writes under an id above those of its parts is ordered. -/
theorem NodeOperation.node_orderedBelow {operation : NodeOperation Expr Entry} {id : Int}
    {tree : Expr} (written : operation.node id = .ok tree)
    (parts : ∀ item ∈ operation.items, item.OrderedBelow id) :
    (Element.node tree).OrderedBelow (id + 1) := by
  have root : (Element.node tree).id = id := node_id written
  rw [Element.orderedBelow_iff, root]
  refine ⟨Int.lt_succ id, ?_⟩
  cases operation with
  | literal source =>
    obtain ⟨value, rfl⟩ := literal_of_node written
    exact List.forall_mem_nil _
  | ident name =>
    cases written
    exact List.forall_mem_nil _
  | _ =>
    cases written
    simpa [Element.parts, items, Item.orderedBelow_node, Item.orderedBelow_entry] using parts

/-- An entry whose parts are heap-ordered below its id is heap-ordered. -/
theorem EntryOperation.entry_orderedBelow {operation : EntryOperation Expr} {id : Int}
    (parts : ∀ item ∈ operation.items, item.OrderedBelow id) :
    (Element.entry (operation.entry id)).OrderedBelow (id + 1) := by
  have root : (Element.entry (operation.entry id)).id = id := by cases operation <;> rfl
  rw [Element.orderedBelow_iff, root]
  refine ⟨Int.lt_succ id, ?_⟩
  cases operation <;> simpa [entry, Element.parts, items, Item.orderedBelow_node] using parts

/-- A select is ordered whether it is a test or not. -/
theorem Expr.select_orderedBelow {bound id : Int} {operand : Expr} {field : String}
    {testOnly : Bool} (ordered : (Element.node (.select id operand field testOnly)).OrderedBelow bound)
    (flag : Bool) : (Element.node (.select id operand field flag)).OrderedBelow bound := by
  rw [Element.orderedBelow_iff] at ordered ⊢
  exact ordered

/-- The fold of a recognised call over older parts is ordered. -/
theorem MacroCall.orderedBelow_of_recognize {options : Options} {base id : Int} {target : Expr}
    {function : String} {args : List Expr} {found : MacroCall}
    (recognized : recognize options (.memberCall id target function args) = some found)
    (parts : ∀ part ∈ target :: args, (Element.node part).OrderedBelow (base + 1)) :
    (Element.node (found.fold base)).OrderedBelow (base + found.size + 1) := by
  obtain ⟨id', name, variableId, same⟩ := recognize_eq_some recognized
  obtain ⟨-, rfl, -, rfl⟩ := Expr.memberCall.inj same
  obtain ⟨range, others⟩ := List.forall_mem_cons.mp parts
  exact fold_orderedBelow range (List.forall_mem_cons.mp others).2

/-- **A step over ordered parts results in an ordered tree.** -/
theorem NodeOperation.Effect.orderedBelow {offset : Offset} {builder after : Builder}
    {operation : NodeOperation Expr Entry} {tree : Expr}
    (effect : operation.Effect offset builder (.ok tree) after)
    (parts : ∀ item ∈ operation.items, item.OrderedBelow (builder.lastId + 1)) :
    (Element.node tree).OrderedBelow (after.lastId + 1) := by
  have later := effect.lastId_le
  cases effect with
  | plain unexpanded written => exact node_orderedBelow written parts
  | test enabled =>
    have select := parts _ List.mem_cons_self
    exact (Expr.select_orderedBelow select true).mono (Int.add_le_add_right later 1)
  | @fold target function args found recognized =>
    have older : ∀ part ∈ target :: args,
        (Element.node part).OrderedBelow (builder.lastId + 1 + 1) := by
      intro part member
      have old := parts (.node part) (List.mem_map_of_mem member)
      exact old.mono (Int.le_add_one (Int.le_refl _))
    rw [Builder.recorded_lastId, Builder.advanceBy_lastId, Builder.advance_lastId]
    exact MacroCall.orderedBelow_of_recognize recognized older

/-! ### Constructions -/

/-- From this builder, the construction results in a heap-ordered tree without ids above the last
one, and it takes no id back. -/
structure Builder.Orders (builder : Builder) (construction : Attempt Expr) : Prop where
  lastId_le : builder.lastId ≤ (construction.run.run builder).2.lastId
  ordered : ∀ tree, (construction.run.run builder).1 = .ok tree →
    (Element.node tree).OrderedBelow ((construction.run.run builder).2.lastId + 1)

namespace Builder

/-- A step on heap-ordered trees results in a heap-ordered tree. -/
theorem perform_orders {operation : NodeOperation Expr Entry} {builder : Builder}
    (offset : Offset) (parts : ∀ item ∈ operation.items, item.OrderedBelow (builder.lastId + 1)) :
    builder.Orders (operation.perform offset) := by
  have effect := operation.perform_effect offset builder
  refine ⟨effect.lastId_le, fun tree built => ?_⟩
  rw [built] at effect
  exact effect.orderedBelow parts

/-- A construction that cannot be refused orders if its result is heap-ordered. -/
theorem orders_of_run {construction : Build Expr} {builder after : Builder} {tree : Expr}
    (ran : construction.run builder = (tree, after)) (later : builder.lastId ≤ after.lastId)
    (ordered : (Element.node tree).OrderedBelow (after.lastId + 1)) :
    builder.Orders (liftM construction) := by
  constructor <;> rw [Attempt.run_lift, ran]
  · exact later
  · rintro _ ⟨⟩
    exact ordered

theorem literal_orders (builder : Builder) (offset : Offset) (value : Constant) :
    builder.Orders (liftM (literal offset value)) :=
  orders_of_run (literal_run offset builder value) (Int.le_add_one (Int.le_refl _))
    (Element.orderedBelow_literal.mpr (Int.lt_succ _))

/-- The expansion of a field test is its select, or a call if there is none. -/
theorem expandHas_orders {builder : Builder} (offset : Offset) {args : List Expr}
    (older : ∀ arg ∈ args, (Element.node arg).OrderedBelow (builder.lastId + 1)) :
    builder.Orders (liftM (expandHas offset args)) := by
  have next : builder.lastId ≤ builder.lastId + 1 := Int.le_add_one (Int.le_refl _)
  unfold expandHas
  split
  · rename_i id operand field testOnly
    have select := Expr.select_orderedBelow (older _ List.mem_cons_self) true
    let after := (builder.advance offset).recorded id
      (.call (builder.lastId + 1) Macro.has.function [.select id operand field testOnly])
    have last : after.lastId = builder.lastId + 1 := recorded_lastId _ _ _
    refine orders_of_run (rfl : _ = (_, after)) ?_ ?_
    · rw [last]
      exact next
    · rw [last]
      exact select.mono (Int.add_le_add_right next 1)
  · refine orders_of_run (globalCall_run offset builder _ _) next ?_
    exact Element.orderedBelow_call.mpr ⟨Int.lt_succ _, older⟩

/-- A recognised call becomes a fold of its own parts, and any other call is ordered as it is. -/
theorem maybeExpand_orders {builder : Builder} (offset : Offset) {call : Expr}
    (older : (Element.node call).OrderedBelow (builder.lastId + 1)) :
    builder.Orders (liftM (maybeExpand offset call)) := by
  have ran := maybeExpand_run offset call builder
  cases recognized : MacroCall.recognize builder.options call with
  | none =>
    rw [recognized] at ran
    exact orders_of_run ran (Int.le_refl _) older
  | some found =>
    rw [recognized] at ran
    obtain ⟨id, function, variableId, rfl⟩ := MacroCall.recognize_eq_some recognized
    obtain ⟨root, parts⟩ := Element.orderedBelow_iff.mp older
    refine orders_of_run ran ?_ ?_
    · rw [recorded_lastId, advanceBy_lastId]
      omega
    · rw [recorded_lastId, advanceBy_lastId]
      refine MacroCall.orderedBelow_of_recognize recognized fun part member => ?_
      have below := parts (.node part) (List.mem_map_of_mem member)
      exact below.mono (Int.le_of_lt root)

end Builder

/-! ### Sessions -/

namespace Session

/-- Every result is heap-ordered, and no id in it is above the last one. -/
def Ordered (session : Session) : Prop :=
  ∀ item, some item ∈ session.registers → item.OrderedBelow (session.builder.lastId + 1)

theorem ordered_of_empty (builder : Builder) (planning : Bool) :
    ({ builder, planning } : Session).Ordered := fun _ member => by cases member

variable {session : Session}

/-- A further result that is ordered, or none, keeps the results ordered. -/
theorem Ordered.push (ordered : session.Ordered) {after : Builder}
    (later : session.builder.lastId ≤ after.lastId) {slot : Option Item}
    (new : ∀ item, slot = some item → item.OrderedBelow (after.lastId + 1)) :
    ({ session with builder := after }.push slot).Ordered := by
  intro item member
  rcases List.mem_append.mp member with old | added
  · exact (ordered item old).mono (Int.add_le_add_right later 1)
  · exact new item (List.mem_singleton.mp added).symm

theorem Ordered.pushNone (ordered : session.Ordered) : (session.push none).Ordered :=
  ordered.push (Int.le_refl _) fun _ never => by cases never

theorem Ordered.consume (ordered : session.Ordered) (registers : List Nat) :
    (session.consume registers).Ordered :=
  fun item member => ordered item (mem_of_mem_consume member)

/-- What registers hold is ordered. -/
theorem Ordered.itemAt (ordered : session.Ordered) {register : Nat} {item : Item}
    (held : session.itemAt register = some item) :
    item.OrderedBelow (session.builder.lastId + 1) :=
  ordered item (mem_of_itemAt held)

/-- The parts of a step are heap-ordered below the next id. -/
theorem Ordered.holds (ordered : session.Ordered) {registers : List Nat} {items : List Item}
    (holds : session.Holds registers items) :
    ∀ item ∈ items, item.OrderedBelow (session.builder.lastId + 1) :=
  fun item part => ordered item (holds.mem item part)

/-- A construction that orders keeps the session ordered. -/
theorem Ordered.buildNode (ordered : session.Ordered) {construction : Attempt Expr}
    (orders : session.builder.Orders construction) :
    (session.buildNode construction).2.Ordered ∧
      session.builder.lastId ≤ (session.buildNode construction).2.builder.lastId := by
  obtain ⟨later, new⟩ := orders
  rcases ran : construction.run.run session.builder with ⟨error | tree, after⟩
  · rw [ran] at later
    rw [buildNode_error ran]
    exact ⟨ordered.push later fun _ never => (by cases never), later⟩
  · rw [ran] at later new
    rw [buildNode_ok ran]
    refine ⟨ordered.push later fun item same => ?_, later⟩
    cases same
    exact new tree rfl

/-- Building an entry of heap-ordered parts keeps the session ordered. -/
theorem Ordered.buildEntry (ordered : session.Ordered) {operation : EntryOperation Expr}
    (offset : Offset)
    (parts : ∀ item ∈ operation.items, item.OrderedBelow (session.builder.lastId + 1)) :
    (session.buildEntry (operation.perform offset)).2.Ordered ∧
      session.builder.lastId ≤
        (session.buildEntry (operation.perform offset)).2.builder.lastId := by
  have later : session.builder.lastId ≤ session.builder.lastId + 1 := Int.le_add_one (Int.le_refl _)
  rw [Session.buildEntry, operation.perform_run]
  refine ⟨ordered.push later fun item same => ?_, later⟩
  cases same
  exact EntryOperation.entry_orderedBelow parts

/-- Plans have no ids to be ordered. -/
theorem Ordered.planNode (ordered : session.Ordered) (offset : Offset)
    (operation : NodeOperation Nat Nat) : (session.planNode offset operation).2.Ordered := by
  unfold Session.planNode
  split
  · split
    · refine (ordered.consume operation.references).push (Int.le_refl _) fun item same => ?_
      cases same
      trivial
    · exact ordered.pushNone
  · exact ordered.pushNone

theorem Ordered.planEntry (ordered : session.Ordered) (offset : Offset)
    (operation : EntryOperation Nat) : (session.planEntry offset operation).2.Ordered := by
  unfold Session.planEntry
  split
  · split
    · refine (ordered.consume operation.references).push (Int.le_refl _) fun item same => ?_
      cases same
      trivial
    · exact ordered.pushNone
  · exact ordered.pushNone

/-- A step keeps the results ordered and takes no id back, if the forced plan results in an ordered
tree where the session plans. -/
theorem Ordered.step_of (ordered : session.Ordered)
    (forced : session.planning = true → ∀ plan : Plan, session.builder.Orders plan.force)
    (step : Step) :
    (session.step step).2.Ordered ∧
      session.builder.lastId ≤ (session.step step).2.builder.lastId := by
  have rejected : (session.push none).Ordered ∧
      session.builder.lastId ≤ (session.push none).builder.lastId :=
    ⟨ordered.pushNone, Int.le_refl _⟩
  cases step with
  | node offset operation =>
    simp only [Session.step]
    split
    · have same := (session.planNode_unbuilt offset operation).2
      exact ⟨ordered.planNode offset operation, Int.le_of_eq (congrArg Builder.lastId same.symm)⟩
    · split
      · rename_i parts resolved
        exact ordered.buildNode (Builder.perform_orders offset
          (ordered.holds (holds_of_resolve? resolved)))
      · exact rejected
  | entry offset operation =>
    simp only [Session.step]
    split
    · have same := (session.planEntry_unbuilt offset operation).2
      exact ⟨ordered.planEntry offset operation, Int.le_of_eq (congrArg Builder.lastId same.symm)⟩
    · split
      · rename_i parts resolved
        exact ordered.buildEntry offset (ordered.holds (holds_of_resolve?_entry resolved))
      · exact rejected
  | constant offset value =>
    simp only [Session.step]
    split
    · exact rejected
    · exact ordered.buildNode (session.builder.literal_orders offset value)
  | expandHas offset args =>
    simp only [Session.step]
    split
    · exact rejected
    · split
      · rename_i trees resolved
        have held := holds_of_mapM (fun _ _ => itemAt_of_nodeAt) resolved
        exact ordered.buildNode (Builder.expandHas_orders offset fun tree member =>
          ordered.holds held (.node tree) (List.mem_map_of_mem member))
      · exact rejected
  | maybeExpand offset call =>
    simp only [Session.step]
    split
    · exact rejected
    · split
      · rename_i tree held
        exact ordered.buildNode (Builder.maybeExpand_orders offset
          (ordered.itemAt (itemAt_of_nodeAt held)))
      · exact rejected
  | force register =>
    simp only [Session.step]
    split
    · rename_i planning
      split
      · rename_i plan held
        exact (ordered.consume [register]).buildNode (forced planning plan)
      · exact rejected
    · exact rejected
  | endPlanning =>
    simp only [Session.step]
    split <;> exact rejected
  | ask query => exact rejected

/-! ### Forcing -/

/-- Steps that are carried out in a session that builds keep the results ordered. -/
theorem Ordered.carryOut (ordered : session.Ordered) (building : session.planning = false)
    (steps : List Step) :
    (session.carryOut steps).2.Ordered ∧
      session.builder.lastId ≤ (session.carryOut steps).2.builder.lastId := by
  induction steps generalizing session with
  | nil => exact ⟨ordered, Int.le_refl _⟩
  | cons first rest ih =>
    have never : session.planning = true → ∀ plan : Plan, session.builder.Orders plan.force := by
      intro planning
      rw [building] at planning
      cases planning
    obtain ⟨next, later⟩ := ordered.step_of never first
    have onwards := ih next (step_planning building first)
    rw [Session.carryOut]
    generalize session.step first = stepped at next later onwards ⊢
    obtain ⟨answer, last⟩ := stepped
    cases answer with
    | node id kind => exact ⟨onwards.1, Int.le_trans later onwards.2⟩
    | entry id optional => exact ⟨onwards.1, Int.le_trans later onwards.2⟩
    | _ => exact ⟨next, later⟩

end Session

/-- **Forcing a plan results in an ordered tree.** -/
theorem Plan.force_orders (plan : Plan) (builder : Builder) : builder.Orders plan.force := by
  have start : ({ builder } : Session).Ordered := Session.ordered_of_empty builder false
  have simulates := Plan.force_simulates { builder } rfl plan
  rcases ran : plan.force.run.run builder with ⟨error | tree, after⟩
  · obtain ⟨last, ⟨done, source, rest, split, carried, refused⟩, rfl⟩ :=
      (Session.simulates_of_error ran).mp simulates
    have ended := (start.carryOut rfl done).2
    rw [carried.run] at ended
    constructor <;> rw [ran]
    · exact ended
    · exact fun _ never => by cases never
  · obtain ⟨last, carried, rfl, held⟩ := (Session.simulates_of_ok ran).mp simulates
    have carriedOut : ({ builder } : Session).carryOut (plan.steps 0) = (none, last) := carried.run
    obtain ⟨ordered, later⟩ := start.carryOut rfl (plan.steps 0)
    rw [carriedOut] at ordered later
    constructor <;> rw [ran]
    · exact later
    · rintro _ ⟨⟩
      exact ordered.itemAt (Session.itemAt_of_nodeAt held)

namespace Session

variable {session : Session}

/-- **A step keeps the results ordered.** -/
theorem Ordered.step (ordered : session.Ordered) (step : Step) :
    (session.step step).2.Ordered :=
  (ordered.step_of (fun _ plan => plan.force_orders session.builder) step).1

theorem Ordered.run (ordered : session.Ordered) (steps : List Step) :
    (session.run steps).2.Ordered := by
  induction steps generalizing session with
  | nil => exact ordered
  | cons first rest ih => exact ih (ordered.step first)

/-- **Ids are heap-ordered.** In every run from a new builder, whether it plans or builds, whatever
its steps are and however often they use a result, every tree and every entry that a register holds
is heap-ordered, at any depth. So the first of its ids is its own and greater than all others. -/
theorem run_heapOrdered (options : Options) (planning : Bool) (steps : List Step) :
    let session := (({ builder := { options }, planning } : Session).run steps).2
    ∀ register, (∀ tree, session.nodeAt register = some tree →
        (Element.node tree).HeapOrdered ∧
          ∃ below, tree.ids = tree.id :: below ∧ ∀ id ∈ below, id < tree.id) ∧
      ∀ entry, session.entryAt register = some entry →
        (Element.entry entry).HeapOrdered ∧
          ∃ below, entry.ids = entry.id :: below ∧ ∀ id ∈ below, id < entry.id := by
  intro session register
  have ordered : session.Ordered := (ordered_of_empty { options } planning).run steps
  refine ⟨fun tree held => ?_, fun entry held => ?_⟩
  · have heap : (Element.node tree).OrderedBelow _ := ordered.itemAt (itemAt_of_nodeAt held)
    exact ⟨heap.ordered, _, (Element.node tree).ids_eq,
      (Element.heapOrdered_iff.mp heap.ordered).2⟩
  · have heap : (Element.entry entry).OrderedBelow _ := ordered.itemAt (itemAt_of_entryAt held)
    exact ⟨heap.ordered, _, (Element.entry entry).ids_eq,
      (Element.heapOrdered_iff.mp heap.ordered).2⟩

end Session

end CelTree
