/-
**A plan as steps.**

The nodes and entries of a plan in post-order, from left to right, each as one step of a session
that builds. A step refers to the registers of the parts before it: those of an operand, of the
arguments of a call, of a target before its arguments, of a key before its value. The steps of a
plan fill registers from a base on, one each, and the last one is the root.

* `Plan.size`: the number of nodes and entries of a plan.
* `Plan.steps`, `Plan.root`: the steps of a plan, and the register of its result.
* `Session.carryOut`: steps in order, up to the first that results in no node and no entry.
-/

import CelTree.Session.Run

namespace CelTree

mutual

/-- The number of nodes and entries of a plan. -/
def Plan.size : Plan → Nat
  | .literal _ _ => 1
  | .ident _ _ => 1
  | .select _ operand _ => operand.size + 1
  | .call _ _ args => Plan.sizeAll args + 1
  | .memberCall _ target _ args => target.size + Plan.sizeAll args + 1
  | .operatorCall _ _ args => Plan.sizeAll args + 1
  | .index _ operand subscript => operand.size + subscript.size + 1
  | .list _ elements => Plan.sizeAll elements + 1
  | .struct _ _ entries => PlanEntry.sizeAll entries + 1

/-- The number of nodes and entries of several plans. -/
def Plan.sizeAll : List Plan → Nat
  | [] => 0
  | first :: rest => first.size + Plan.sizeAll rest

/-- The number of nodes and entries of a planned entry, itself included. -/
def PlanEntry.size : PlanEntry → Nat
  | .map _ key value _ => key.size + value.size + 1
  | .field _ _ value _ => value.size + 1

/-- The number of nodes and entries of several planned entries. -/
def PlanEntry.sizeAll : List PlanEntry → Nat
  | [] => 0
  | first :: rest => first.size + PlanEntry.sizeAll rest

end

namespace Plan

/-- The register of a plan's result, if its steps fill the registers from the base on. -/
def root (base : Nat) (plan : Plan) : Nat := base + plan.size - 1

/-- The registers of the results of several plans. -/
def roots (base : Nat) : List Plan → List Nat
  | [] => []
  | first :: rest => first.root base :: roots (base + first.size) rest

end Plan

namespace PlanEntry

/-- The register of a planned entry's result. -/
def root (base : Nat) (entry : PlanEntry) : Nat := base + entry.size - 1

/-- The registers of the results of several planned entries. -/
def roots (base : Nat) : List PlanEntry → List Nat
  | [] => []
  | first :: rest => first.root base :: roots (base + first.size) rest

end PlanEntry

mutual

/-- The nodes and entries of a plan in post-order, each as a step. -/
def Plan.steps (base : Nat) : Plan → List Step
  | .literal offset source => [.node offset (.literal source)]
  | .ident offset name => [.node offset (.ident name)]
  | .select offset operand field =>
    operand.steps base ++ [.node offset (.select (operand.root base) field)]
  | .call offset function args =>
    Plan.stepsAll base args ++ [.node offset (.call function (Plan.roots base args))]
  | .memberCall offset target function args =>
    target.steps base ++
      (Plan.stepsAll (base + target.size) args ++
        [.node offset
          (.memberCall (target.root base) function (Plan.roots (base + target.size) args))])
  | .operatorCall offset operator args =>
    Plan.stepsAll base args ++ [.node offset (.operatorCall operator (Plan.roots base args))]
  | .index offset operand subscript =>
    operand.steps base ++
      (subscript.steps (base + operand.size) ++
        [.node offset (.index (operand.root base) (subscript.root (base + operand.size)))])
  | .list offset elements =>
    Plan.stepsAll base elements ++ [.node offset (.list (Plan.roots base elements))]
  | .struct offset message entries =>
    PlanEntry.stepsAll base entries ++
      [.node offset (.struct message (PlanEntry.roots base entries))]

/-- The steps of several plans, one plan after the other. -/
def Plan.stepsAll (base : Nat) : List Plan → List Step
  | [] => []
  | first :: rest => first.steps base ++ Plan.stepsAll (base + first.size) rest

/-- The steps of a planned entry: of its key, if that is planned, of its value, and its own. -/
def PlanEntry.steps (base : Nat) : PlanEntry → List Step
  | .map offset key value optional =>
    key.steps base ++
      (value.steps (base + key.size) ++
        [.entry offset (.map (key.root base) (value.root (base + key.size)) optional)])
  | .field offset name value optional =>
    value.steps base ++ [.entry offset (.field name (value.root base) optional)]

/-- The steps of several planned entries, one entry after the other. -/
def PlanEntry.stepsAll (base : Nat) : List PlanEntry → List Step
  | [] => []
  | first :: rest => first.steps base ++ PlanEntry.stepsAll (base + first.size) rest

end

mutual

/-- A plan has one step for each of its nodes and entries. -/
theorem Plan.steps_length (base : Nat) : (plan : Plan) → (plan.steps base).length = plan.size
  | .literal _ _ => rfl
  | .ident _ _ => rfl
  | .select _ operand _ => by
    rw [Plan.steps, List.length_append, operand.steps_length, Plan.size, List.length_singleton]
  | .call _ _ args => by
    rw [Plan.steps, List.length_append, Plan.stepsAll_length, Plan.size, List.length_singleton]
  | .memberCall _ target _ args => by
    rw [Plan.steps, List.length_append, List.length_append, target.steps_length,
      Plan.stepsAll_length, Plan.size, List.length_singleton, Nat.add_assoc]
  | .operatorCall _ _ args => by
    rw [Plan.steps, List.length_append, Plan.stepsAll_length, Plan.size, List.length_singleton]
  | .index _ operand subscript => by
    rw [Plan.steps, List.length_append, List.length_append, operand.steps_length,
      subscript.steps_length, Plan.size, List.length_singleton, Nat.add_assoc]
  | .list _ elements => by
    rw [Plan.steps, List.length_append, Plan.stepsAll_length, Plan.size, List.length_singleton]
  | .struct _ _ entries => by
    rw [Plan.steps, List.length_append, PlanEntry.stepsAll_length, Plan.size,
      List.length_singleton]

theorem Plan.stepsAll_length (base : Nat) :
    (plans : List Plan) → (Plan.stepsAll base plans).length = Plan.sizeAll plans
  | [] => rfl
  | first :: rest => by
    rw [Plan.stepsAll, List.length_append, first.steps_length, Plan.stepsAll_length, Plan.sizeAll]

theorem PlanEntry.steps_length (base : Nat) :
    (entry : PlanEntry) → (entry.steps base).length = entry.size
  | .map _ key value _ => by
    rw [PlanEntry.steps, List.length_append, List.length_append, key.steps_length,
      value.steps_length, PlanEntry.size, List.length_singleton, Nat.add_assoc]
  | .field _ _ value _ => by
    rw [PlanEntry.steps, List.length_append, value.steps_length, PlanEntry.size,
      List.length_singleton]

theorem PlanEntry.stepsAll_length (base : Nat) :
    (entries : List PlanEntry) →
      (PlanEntry.stepsAll base entries).length = PlanEntry.sizeAll entries
  | [] => rfl
  | first :: rest => by
    rw [PlanEntry.stepsAll, List.length_append, first.steps_length, PlanEntry.stepsAll_length,
      PlanEntry.sizeAll]

end

namespace Session

/-- Carries out steps in order, up to the first that results in no node and no entry. What is said
about that step, and the session at the end. -/
def carryOut (session : Session) : List Step → Option Answer × Session
  | [] => (none, session)
  | first :: rest =>
    match session.step first with
    | (.node _ _, next) => next.carryOut rest
    | (.entry _ _, next) => next.carryOut rest
    | (answer, next) => (some answer, next)

theorem carryOut_append (session : Session) (first second : List Step) :
    session.carryOut (first ++ second) =
      match session.carryOut first with
      | (none, next) => next.carryOut second
      | (some answer, next) => (some answer, next) := by
  induction first generalizing session with
  | nil => rfl
  | cons head rest ih =>
    rw [List.cons_append, carryOut, carryOut]
    split
    · exact ih _
    · exact ih _
    · rfl

end Session

end CelTree
