/-
**The tree that a plan writes.**

* `Plan.written`: the planned tree as it is written, without ids and with no macro expanded; an
  error if one of its literals is refused.
* `Attempt.Writes`: a construction results in what is written, up to ids, where no macro is
  expanded. `Writes.bind` puts one after the other.
* **`Plan.force_writes`** — forcing a plan without macros results in the tree that the plan writes,
  and it is refused exactly if there is none.
-/

import CelTree.Plan.Force
import CelTree.Proofs.Expr.MapIds

namespace CelTree

mutual

/-- The tree that a plan writes; every id is zero. -/
def Plan.written : Plan → Except LiteralError Expr
  | .literal _ source => (NodeOperation.literal source).node 0
  | .ident _ name => (NodeOperation.ident name).node 0
  | .select _ operand field => do
    let operand ← operand.written
    (NodeOperation.select operand field).node 0
  | .call _ function args => do
    let args ← Plan.writtenAll args
    (NodeOperation.call function args).node 0
  | .memberCall _ target function args => do
    let target ← target.written
    let args ← Plan.writtenAll args
    (NodeOperation.memberCall target function args).node 0
  | .operatorCall _ operator args => do
    let args ← Plan.writtenAll args
    (NodeOperation.operatorCall operator args).node 0
  | .index _ operand subscript => do
    let operand ← operand.written
    let subscript ← subscript.written
    (NodeOperation.index operand subscript).node 0
  | .list _ elements => do
    let elements ← Plan.writtenAll elements
    (NodeOperation.list elements).node 0
  | .struct _ message entries => do
    let entries ← PlanEntry.writtenAll entries
    (NodeOperation.struct message entries).node 0

/-- The trees that several plans write. -/
def Plan.writtenAll : List Plan → Except LiteralError (List Expr)
  | [] => return []
  | first :: rest => do
    let first ← first.written
    let rest ← Plan.writtenAll rest
    return first :: rest

/-- The entry that a plan writes; every id is zero. -/
def PlanEntry.written : PlanEntry → Except LiteralError Entry
  | .map _ key value optional => do
    let key ← key.written
    let value ← value.written
    return (EntryOperation.map key value optional).entry 0
  | .field _ name value optional => do
    let value ← value.written
    return (EntryOperation.field name value optional).entry 0

/-- The entries that several plans write. -/
def PlanEntry.writtenAll : List PlanEntry → Except LiteralError (List Entry)
  | [] => return []
  | first :: rest => do
    let first ← first.written
    let rest ← PlanEntry.writtenAll rest
    return first :: rest

end

/-! ### Constructions without macros -/

namespace Attempt

variable {α β α' β' : Type}

/-- Where no macro is expanded, the construction results in what is written once its ids are
erased, and it is refused for the reason for which nothing is written. -/
def Writes (construction : Attempt α) (erase : α → α') (written : Except LiteralError α') : Prop :=
  ∀ builder : Builder, builder.options.macros = .none →
    (construction.run.run builder).2.options = builder.options ∧
      match (construction.run.run builder).1 with
      | .ok value => written = .ok (erase value)
      | .error error => written = .error error.reason

theorem Writes.pure (erase : α → α') (value : α) :
    (Pure.pure value : Attempt α).Writes erase (Pure.pure (erase value)) :=
  fun _ _ => ⟨rfl, rfl⟩

/-- Constructions write one after the other, up to the first one that is refused. -/
theorem Writes.bind {construction : Attempt α} {rest : α → Attempt β} {erase : α → α'}
    {erase' : β → β'} {written : Except LiteralError α'} {writtenRest : α' → Except LiteralError β'}
    (one : construction.Writes erase written)
    (two : ∀ value, (rest value).Writes erase' (writtenRest (erase value))) :
    (construction >>= rest).Writes erase' (written >>= writtenRest) := by
  intro builder plain
  obtain ⟨options, outcome⟩ := one builder plain
  rw [run_bind]
  rcases ran : construction.run.run builder with ⟨error | value, after⟩
  · rw [ran] at options outcome
    have refused : written = .error error.reason := outcome
    rw [refused]
    exact ⟨options, rfl⟩
  · rw [ran] at options outcome
    have found : written = .ok (erase value) := outcome
    rw [found]
    obtain ⟨options', outcome'⟩ := two value after (options ▸ plain)
    exact ⟨options'.trans options, outcome'⟩

/-- Without ids, a node is what its step writes from parts without ids. -/
theorem Writes.node (offset : Offset) (operation : NodeOperation Expr Entry) :
    (operation.perform offset).Writes Expr.eraseIds
      ((operation.mapParts Expr.eraseIds Entry.eraseIds).node 0) := by
  intro builder plain
  have effect := operation.perform_effect offset builder
  have written := operation.node_mapIds (fun _ => 0) (builder.lastId + 1)
  have unexpanded := NodeOperation.isExpansion_none plain operation
  generalize (operation.perform offset).run.run builder = ran at effect ⊢
  obtain ⟨outcome, after⟩ := ran
  cases effect with
  | refused value =>
    refine ⟨rfl, written.trans ?_⟩
    rw [NodeOperation.node, value]
    rfl
  | plain _ built =>
    refine ⟨rfl, written.trans ?_⟩
    rw [built]
    rfl
  | test enabled =>
    rw [NodeOperation.isExpansion_test enabled] at unexpanded
    cases unexpanded
  | fold recognized =>
    rw [NodeOperation.isExpansion_fold recognized] at unexpanded
    cases unexpanded

theorem Writes.entry (offset : Offset) (operation : EntryOperation Expr) :
    Writes (liftM (operation.perform offset)) Entry.eraseIds
      (Pure.pure ((operation.mapParts Expr.eraseIds).entry 0)) := by
  intro builder _
  have written := operation.entry_mapIds (fun _ => 0) (builder.lastId + 1)
  rw [run_lift, operation.perform_run]
  exact ⟨rfl, congrArg Except.ok written⟩

end Attempt

open Attempt

mutual

/-- **Forcing a plan without macros results in what the plan writes.** -/
theorem Plan.force_writes : (plan : Plan) → plan.force.Writes Expr.eraseIds plan.written
  | .literal offset source => .node offset (.literal source)
  | .ident offset name => .node offset (.ident name)
  | .select offset operand field => by
    rw [Plan.force, Plan.written]
    exact operand.force_writes.bind fun tree => .node offset (.select tree field)
  | .call offset function args => by
    rw [Plan.force, Plan.written]
    exact (Plan.forceAll_writes args).bind fun trees => .node offset (.call function trees)
  | .memberCall offset target function args => by
    rw [Plan.force, Plan.written]
    refine target.force_writes.bind fun tree => ?_
    exact (Plan.forceAll_writes args).bind fun trees =>
      .node offset (.memberCall tree function trees)
  | .operatorCall offset operator args => by
    rw [Plan.force, Plan.written]
    exact (Plan.forceAll_writes args).bind fun trees => .node offset (.operatorCall operator trees)
  | .index offset operand subscript => by
    rw [Plan.force, Plan.written]
    refine operand.force_writes.bind fun tree => ?_
    exact subscript.force_writes.bind fun tree' => .node offset (.index tree tree')
  | .list offset elements => by
    rw [Plan.force, Plan.written]
    exact (Plan.forceAll_writes elements).bind fun trees => .node offset (.list trees)
  | .struct offset message entries => by
    rw [Plan.force, Plan.written]
    exact (PlanEntry.forceAll_writes entries).bind fun built => .node offset (.struct message built)

theorem Plan.forceAll_writes : (plans : List Plan) →
    (Plan.forceAll plans).Writes (List.map Expr.eraseIds) (Plan.writtenAll plans)
  | [] => .pure (List.map Expr.eraseIds) []
  | first :: rest => by
    rw [Plan.forceAll, Plan.writtenAll]
    refine first.force_writes.bind fun tree => ?_
    exact (Plan.forceAll_writes rest).bind fun trees =>
      .pure (List.map Expr.eraseIds) (tree :: trees)

/-- Forcing a planned entry writes the entry, ids apart. -/
theorem PlanEntry.force_writes : (entry : PlanEntry) →
    entry.force.Writes Entry.eraseIds entry.written
  | .map offset key value optional => by
    rw [PlanEntry.force, PlanEntry.written]
    refine key.force_writes.bind fun tree => ?_
    exact value.force_writes.bind fun tree' => .entry offset (.map tree tree' optional)
  | .field offset name value optional => by
    rw [PlanEntry.force, PlanEntry.written]
    exact value.force_writes.bind fun tree => .entry offset (.field name tree optional)

theorem PlanEntry.forceAll_writes : (entries : List PlanEntry) →
    (PlanEntry.forceAll entries).Writes (List.map Entry.eraseIds) (PlanEntry.writtenAll entries)
  | [] => .pure (List.map Entry.eraseIds) []
  | first :: rest => by
    rw [PlanEntry.forceAll, PlanEntry.writtenAll]
    refine first.force_writes.bind fun entry => ?_
    exact (PlanEntry.forceAll_writes rest).bind fun built =>
      .pure (List.map Entry.eraseIds) (entry :: built)

end

end CelTree
