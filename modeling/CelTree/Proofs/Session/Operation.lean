/-
**Operations in a session.**

* `Step.isOperation`, `Step.references`: the steps that are operations of a builder, and the
  registers from which a step takes its parts.
* `Session.partsOf`, `Session.Holds`: the parts of a step, and the registers that hold them.
* `Session.Performs`: what an operation does to a session that builds. Every operation whose parts
  are at hand does one of these (`step_performs`).
* `Session.Linear`: a run of operations in which every part is at hand and every result is used at
  most once.
-/

import CelTree.Proofs.Builder.Step
import CelTree.Proofs.Session.Eager
import Mathlib.Data.List.Forall2

namespace CelTree

namespace Step

/-- The step is an operation of a builder on results of earlier steps. -/
def isOperation : Step → Bool
  | .node _ _ => true
  | .entry _ _ => true
  | .constant _ _ => true
  | _ => false

/-- The registers from which a step takes its parts. -/
def references : Step → List Nat
  | .node _ operation => operation.references
  | .entry _ operation => operation.references
  | .constant _ _ => []
  | .expandHas _ args => args
  | .maybeExpand _ call => [call]
  | .force plan => [plan]
  | .endPlanning => []
  | .ask _ => []

end Step

/-- The parts of a step, from left to right, as registers hold them. -/
def NodeOperation.items : NodeOperation Expr Entry → List Item
  | .literal _ => []
  | .ident _ => []
  | .select operand _ => [.node operand]
  | .call _ args => args.map .node
  | .memberCall target _ args => .node target :: args.map .node
  | .operatorCall _ args => args.map .node
  | .index operand subscript => [.node operand, .node subscript]
  | .list elements => elements.map .node
  | .struct _ entries => entries.map .entry

/-- The parts of a step, from left to right, as registers hold them. -/
def EntryOperation.items : EntryOperation Expr → List Item
  | .map key value _ => [.node key, .node value]
  | .field _ value _ => [.node value]

namespace Session

/-- A session that builds, with a new builder. -/
def fresh (options : Options) : Session := { builder := { options } }

/-! ### Parts -/

/-- The parts of a step that results in a node. -/
def partsOf (session : Session) : Step → Option (NodeOperation Expr Entry)
  | .node _ operation => operation.resolve? session.nodeAt session.entryAt
  | _ => none

/-- The registers hold the items, one each and in this order. -/
def Holds (session : Session) (registers : List Nat) (items : List Item) : Prop :=
  List.Forall₂ (fun register item => session.itemAt register = some item) registers items

/-- Registers that all resolve hold the parts, in their order. -/
theorem holds_of_mapM {α : Type} {session : Session} {resolve : Nat → Option α}
    {item : α → Item}
    (each : ∀ register part, resolve register = some part →
      session.itemAt register = some (item part))
    {registers : List Nat} {parts : List α} (resolved : registers.mapM resolve = some parts) :
    session.Holds registers (parts.map item) := by
  induction registers generalizing parts with
  | nil =>
    cases resolved
    exact .nil
  | cons first rest ih =>
    simp only [List.mapM_cons, Option.bind_eq_bind, Option.bind_eq_some_iff] at resolved
    obtain ⟨part, here, others, below, same⟩ := resolved
    cases same
    exact .cons (each first part here) (ih below)

/-- A step's references resolve to what the registers hold. -/
theorem holds_of_resolve? {session : Session} {operation : NodeOperation Nat Nat}
    {parts : NodeOperation Expr Entry}
    (resolved : operation.resolve? session.nodeAt session.entryAt = some parts) :
    session.Holds operation.references parts.items := by
  have node : ∀ register tree, session.nodeAt register = some tree →
      session.itemAt register = some (.node tree) := fun _ _ => itemAt_of_nodeAt
  cases operation with
  | literal source =>
    cases resolved
    exact .nil
  | ident name =>
    cases resolved
    exact .nil
  | select operand field =>
    simp only [NodeOperation.resolve?, Option.bind_eq_bind, Option.bind_eq_some_iff] at resolved
    obtain ⟨tree, here, same⟩ := resolved
    cases same
    exact .cons (node _ _ here) .nil
  | memberCall target function args =>
    simp only [NodeOperation.resolve?, Option.bind_eq_bind, Option.bind_eq_some_iff] at resolved
    obtain ⟨tree, here, trees, there, same⟩ := resolved
    cases same
    exact .cons (node _ _ here) (holds_of_mapM node there)
  | index operand subscript =>
    simp only [NodeOperation.resolve?, Option.bind_eq_bind, Option.bind_eq_some_iff] at resolved
    obtain ⟨tree, here, tree', there, same⟩ := resolved
    cases same
    exact .cons (node _ _ here) (.cons (node _ _ there) .nil)
  | struct message entries =>
    simp only [NodeOperation.resolve?, Option.bind_eq_bind, Option.bind_eq_some_iff] at resolved
    obtain ⟨built, there, same⟩ := resolved
    cases same
    exact holds_of_mapM (fun _ _ => itemAt_of_entryAt) there
  | _ =>
    simp only [NodeOperation.resolve?, Option.bind_eq_bind, Option.bind_eq_some_iff] at resolved
    obtain ⟨trees, there, same⟩ := resolved
    cases same
    exact holds_of_mapM node there

/-- The references of an entry's step resolve to what the registers hold. -/
theorem holds_of_resolve?_entry {session : Session} {operation : EntryOperation Nat}
    {parts : EntryOperation Expr}
    (resolved : operation.resolve? session.nodeAt = some parts) :
    session.Holds operation.references parts.items := by
  cases operation with
  | map key value optional =>
    simp only [EntryOperation.resolve?, Option.bind_eq_bind, Option.bind_eq_some_iff] at resolved
    obtain ⟨tree, here, tree', there, same⟩ := resolved
    cases same
    exact .cons (itemAt_of_nodeAt here) (.cons (itemAt_of_nodeAt there) .nil)
  | field name value optional =>
    simp only [EntryOperation.resolve?, Option.bind_eq_bind, Option.bind_eq_some_iff] at resolved
    obtain ⟨tree, here, same⟩ := resolved
    cases same
    exact .cons (itemAt_of_nodeAt here) .nil

/-- Registers that hold something exist. -/
theorem Holds.lt_length {session : Session} {registers : List Nat} {items : List Item}
    (holds : session.Holds registers items) :
    ∀ register ∈ registers, register < session.registers.length := by
  induction holds with
  | nil => exact fun _ member => by cases member
  | cons here _ ih =>
    intro register member
    rcases List.mem_cons.mp member with rfl | inside
    · exact lt_length_of_itemAt here
    · exact ih register inside

theorem mem_of_itemAt {session : Session} {register : Nat} {item : Item}
    (held : session.itemAt register = some item) : some item ∈ session.registers := by
  rw [Session.itemAt, Option.join_eq_some_iff] at held
  exact List.mem_of_getElem? held

theorem Holds.mem {session : Session} {registers : List Nat} {items : List Item}
    (holds : session.Holds registers items) : ∀ item ∈ items, some item ∈ session.registers := by
  induction holds with
  | nil => exact List.forall_mem_nil _
  | cons here _ ih => exact List.forall_mem_cons.mpr ⟨mem_of_itemAt here, ih⟩

/-- Using up registers adds no results. -/
theorem mem_of_mem_consume {session : Session} {registers : List Nat} {item : Item}
    (member : some item ∈ (session.consume registers).registers) :
    some item ∈ session.registers := by
  unfold consume at member
  generalize session.registers = held at member ⊢
  induction registers generalizing held with
  | nil => exact member
  | cons first rest ih =>
    rcases List.mem_or_eq_of_mem_set (ih _ member) with inside | emptied
    · exact inside
    · cases emptied

/-! ### One operation -/

/-- What an operation does to a session that builds. -/
inductive Performs (session : Session) : Step → Session → Prop
  | node {offset : Offset} {operation : NodeOperation Nat Nat} {parts : NodeOperation Expr Entry}
    {tree : Expr} {after : Builder}
    (resolved : operation.resolve? session.nodeAt session.entryAt = some parts)
    (effect : parts.Effect offset session.builder (.ok tree) after) :
    Performs session (.node offset operation)
      ({ session with builder := after }.push (some (.node tree)))
  | refused {offset : Offset} {source : Literal} {reason : LiteralError}
    (value : source.value = .error reason) :
    Performs session (.node offset (.literal source)) (session.push none)
  | entry {offset : Offset} {operation : EntryOperation Nat} {parts : EntryOperation Expr}
    (resolved : operation.resolve? session.nodeAt = some parts) :
    Performs session (.entry offset operation)
      ({ session with builder := session.builder.advance offset }.push
        (some (.entry (parts.entry (session.builder.lastId + 1)))))
  | constant {offset : Offset} {value : Constant} :
    Performs session (.constant offset value)
      ({ session with builder := session.builder.advance offset }.push
        (some (.node (.literal (session.builder.lastId + 1) value))))

/-- **An operation whose parts are at hand is performed.** -/
theorem step_performs {session : Session} (building : session.planning = false) {step : Step}
    (kind : step.isOperation = true) (atHand : (session.step step).1 ≠ .badReference) :
    session.Performs step (session.step step).2 := by
  cases step with
  | node offset operation =>
    cases resolved : operation.resolve? session.nodeAt session.entryAt with
    | none =>
      refine absurd ?_ atHand
      simp only [Session.step, building, resolved]
      rfl
    | some parts =>
      rw [step_node building offset resolved]
      have effect := parts.perform_effect offset session.builder
      rcases ran : (parts.perform offset).run.run session.builder with ⟨error | tree, after⟩
      · obtain ⟨source, rfl, value, -, rfl⟩ := NodeOperation.literal_of_perform_error ran
        rw [buildNode_error ran, eq_literal_of_resolve? resolved]
        exact .refused value
      · rw [ran] at effect
        rw [buildNode_ok ran]
        exact .node resolved effect
  | entry offset operation =>
    cases resolved : operation.resolve? session.nodeAt with
    | none =>
      refine absurd ?_ atHand
      simp only [Session.step, building, resolved]
      rfl
    | some parts =>
      rw [step_entry building offset resolved, buildEntry, EntryOperation.perform_run]
      exact .entry resolved
  | constant offset value =>
    rw [step_constant building offset value]
    exact .constant
  | _ => cases kind

/-- An operation fills one more register and leaves the others as they are. -/
theorem Performs.registers {session next : Session} {step : Step}
    (performs : session.Performs step next) :
    ∃ item, next.registers = session.registers ++ [item] := by
  cases performs <;> exact ⟨_, rfl⟩

/-- An operation leaves the registers before its own as they are. -/
theorem Performs.itemAt_of_lt {session next : Session} {step : Step}
    (performs : session.Performs step next) {register : Nat}
    (old : register < session.registers.length) :
    next.itemAt register = session.itemAt register := by
  cases performs with
  | node resolved effect => exact itemAt_push_of_lt { session with builder := _ } _ old
  | refused value => exact itemAt_push_of_lt session _ old
  | entry resolved => exact itemAt_push_of_lt { session with builder := _ } _ old
  | constant => exact itemAt_push_of_lt { session with builder := _ } _ old

theorem Performs.planning {session next : Session} {step : Step}
    (performs : session.Performs step next) : next.planning = session.planning := by
  cases performs <;> rfl

theorem Performs.options {session next : Session} {step : Step}
    (performs : session.Performs step next) :
    next.builder.options = session.builder.options := by
  cases performs with
  | node resolved effect => cases effect <;> simp [push]
  | refused value => rfl
  | entry resolved => rfl
  | constant => rfl

/-! ### Runs -/

theorem run_append (session : Session) (first second : List Step) :
    session.run (first ++ second) =
      ((session.run first).1 ++ ((session.run first).2.run second).1,
        ((session.run first).2.run second).2) := by
  induction first generalizing session with
  | nil => rfl
  | cons head rest ih => simp only [List.cons_append, run, ih]

/-- A run of operations in which every part is at hand and every result is used at most once. -/
structure Linear (session : Session) (steps : List Step) : Prop where
  operations : ∀ step ∈ steps, step.isOperation = true
  atHand : .badReference ∉ (session.run steps).1
  once : (steps.flatMap Step.references).Nodup

/-- A linear run up to one of its steps is linear. -/
theorem Linear.before {session : Session} {first second : List Step}
    (linear : session.Linear (first ++ second)) : session.Linear first where
  operations step member := linear.operations step (List.mem_append_left _ member)
  atHand member := linear.atHand (by
    rw [run_append]
    exact List.mem_append_left _ member)
  once := by
    have once := linear.once
    rw [List.flatMap_append] at once
    exact (List.nodup_append.mp once).1

/-- The results that a step of a linear run uses are not used before it, and each only once. -/
theorem Linear.before_once {session : Session} {first second : List Step} {step : Step}
    (linear : session.Linear (first ++ step :: second)) :
    (first.flatMap Step.references ++ step.references).Nodup := by
  have once := linear.once
  rw [List.flatMap_append, List.flatMap_cons, ← List.append_assoc] at once
  exact (List.nodup_append.mp once).1

/-- A run that expands a field test `y.f` inside the test of an `exists` over `l`, with a refused
literal between the two. -/
def testInFold : List Step :=
  [.node 0 (.ident "l"), .node 6 (.ident "x"), .node 13 (.ident "y"), .node 14 (.select 2 "f"),
    .node 9 (.call Macro.has.function [3]), .node 20 (.literal (.bytes [.numbers [256]])),
    .node 1 (.memberCall 0 Macro.existsAny.function [1, 4])]

theorem linear_testInFold : (fresh {}).Linear testInFold where
  operations := by decide
  atHand := by
    have answers : ((fresh {}).run testInFold).1 =
        [.node 1 "*expr.Expr_IdentExpr", .node 2 "*expr.Expr_IdentExpr",
          .node 3 "*expr.Expr_IdentExpr", .node 4 "*expr.Expr_SelectExpr",
          .node 4 "*expr.Expr_SelectExpr", .refused ⟨20, .byteRange 256⟩,
          .node 14 "*expr.Expr_ComprehensionExpr"] := rfl
    rw [answers]
    simp
  once := by decide

end Session

end CelTree
