/-
**Properties of constructions that forcing inherits.**

Forcing a plan performs its steps one after the other. So what every step over suitable parts has,
and what sequences have if their members do, forcing has.

* `Plan.functions`: the names of the calls in a plan, those of operators left out.
* `Attempt.Closed`: a property of constructions, together with what it says about their results,
  that steps have and sequences inherit.
* **`Plan.force_of_closed`** — forcing has every such property.
-/

import CelTree.Proofs.Session.Operation

namespace CelTree

/-- The function name that a step passes to a call. Operators and index expressions pass none. -/
def NodeOperation.function? {ν ε : Type} : NodeOperation ν ε → Option String
  | .call function _ => some function
  | .memberCall _ function _ => some function
  | _ => none

theorem NodeOperation.function?_of_resolve? {ρ ν ε : Type} {nodeOf : ρ → Option ν}
    {entryOf : ρ → Option ε} {operation : NodeOperation ρ ρ} {parts : NodeOperation ν ε}
    (resolved : operation.resolve? nodeOf entryOf = some parts) :
    parts.function? = operation.function? := by
  cases operation <;>
    simp only [resolve?, Option.bind_eq_bind, Option.bind_eq_some_iff, Option.pure_def,
      Option.some.injEq] at resolved <;>
    grind [function?]

/-! ### The calls of a plan -/

mutual

/-- The function names of all calls in a plan. -/
def Plan.functions : Plan → List String
  | .literal _ _ => []
  | .ident _ _ => []
  | .select _ operand _ => operand.functions
  | .call _ function args => function :: Plan.functionsAll args
  | .memberCall _ target function args =>
    function :: (target.functions ++ Plan.functionsAll args)
  | .operatorCall _ _ args => Plan.functionsAll args
  | .index _ operand subscript => operand.functions ++ subscript.functions
  | .list _ elements => Plan.functionsAll elements
  | .struct _ _ entries => PlanEntry.functionsAll entries

/-- The function names of all calls in some plans. -/
def Plan.functionsAll : List Plan → List String
  | [] => []
  | first :: rest => first.functions ++ Plan.functionsAll rest

/-- The function names of all calls in a planned entry. -/
def PlanEntry.functions : PlanEntry → List String
  | .map _ key value _ => key.functions ++ value.functions
  | .field _ _ value _ => value.functions

/-- The function names of all calls in some planned entries. -/
def PlanEntry.functionsAll : List PlanEntry → List String
  | [] => []
  | first :: rest => first.functions ++ PlanEntry.functionsAll rest

end

theorem Plan.functionsAll_eq (plans : List Plan) :
    Plan.functionsAll plans = plans.flatMap Plan.functions := by
  induction plans with
  | nil => rfl
  | cons first rest ih => rw [Plan.functionsAll, ih, List.flatMap_cons]

theorem PlanEntry.functionsAll_eq (entries : List PlanEntry) :
    PlanEntry.functionsAll entries = entries.flatMap PlanEntry.functions := by
  induction entries with
  | nil => rfl
  | cons first rest ih => rw [PlanEntry.functionsAll, ih, List.flatMap_cons]

/-! ### Forcing -/

/-- A property of constructions and of their results: every step has it whose function name, if it
has one, is as required and whose parts are such results, and so has a sequence of constructions
that have it. -/
structure Attempt.Closed (named : String → Prop) (Result : Item → Prop)
    (Has : (α : Type) → (α → Prop) → Attempt α → Prop) : Prop where
  pure : ∀ {α : Type} {One : α → Prop} {value : α}, One value → Has α One (Pure.pure value)
  bind : ∀ {α β : Type} {One : α → Prop} {Two : β → Prop} {construction : Attempt α}
    {rest : α → Attempt β}, Has α One construction →
      (∀ value, One value → Has β Two (rest value)) → Has β Two (construction >>= rest)
  node : ∀ (offset : Offset) {operation : NodeOperation Expr Entry},
    (∀ function ∈ operation.function?, named function) →
      (∀ item ∈ operation.items, Result item) →
        Has Expr (fun tree => Result (.node tree)) (operation.perform offset)
  entry : ∀ (offset : Offset) {operation : EntryOperation Expr},
    (∀ item ∈ operation.items, Result item) →
      Has Entry (fun entry => Result (.entry entry)) (liftM (operation.perform offset))

namespace Attempt.Closed

variable {named : String → Prop} {Result : Item → Prop}
  {Has : (α : Type) → (α → Prop) → Attempt α → Prop}

/-- A step that passes no function name has the property. -/
theorem ofUnnamed (closed : Closed named Result Has) (offset : Offset)
    {operation : NodeOperation Expr Entry} (unnamed : operation.function? = none)
    (parts : ∀ item ∈ operation.items, Result item) :
    Has Expr (fun tree => Result (.node tree)) (operation.perform offset) :=
  closed.node offset (fun _ passed => by rw [unnamed] at passed; cases passed) parts

/-- A step with a function name as required has the property. -/
theorem ofNamed (closed : Closed named Result Has) (offset : Offset)
    {operation : NodeOperation Expr Entry} {function : String}
    (passed : operation.function? = some function) (allowed : named function)
    (parts : ∀ item ∈ operation.items, Result item) :
    Has Expr (fun tree => Result (.node tree)) (operation.perform offset) :=
  closed.node offset (fun _ other => by
    rw [passed] at other
    cases other
    exact allowed) parts

end Attempt.Closed

section Forcing

variable {named : String → Prop} {Result : Item → Prop}
  {Has : (α : Type) → (α → Prop) → Attempt α → Prop}

mutual

/-- **Forcing has every property that steps have and sequences inherit.** -/
theorem Plan.force_of_closed (closed : Attempt.Closed named Result Has) :
    (plan : Plan) → (∀ function ∈ plan.functions, named function) →
      Has Expr (fun tree => Result (.node tree)) plan.force
  | .literal offset source, _ => by
    rw [Plan.force]
    exact closed.ofUnnamed offset rfl (List.forall_mem_nil _)
  | .ident offset name, _ => by
    rw [Plan.force]
    exact closed.ofUnnamed offset rfl (List.forall_mem_nil _)
  | .select offset operand field, calls => by
    rw [Plan.force]
    refine closed.bind (operand.force_of_closed closed calls) fun tree held => ?_
    exact closed.ofUnnamed offset rfl (List.forall_mem_singleton.mpr held)
  | .call offset function args, calls => by
    rw [Plan.force]
    obtain ⟨own, below⟩ := List.forall_mem_cons.mp calls
    refine closed.bind (Plan.forceAll_of_closed closed args below) fun trees held => ?_
    exact closed.ofNamed offset rfl own (List.forall_mem_map.mpr held)
  | .memberCall offset target function args, calls => by
    rw [Plan.force]
    obtain ⟨own, below⟩ := List.forall_mem_cons.mp calls
    obtain ⟨inTarget, inArgs⟩ := List.forall_mem_append.mp below
    refine closed.bind (target.force_of_closed closed inTarget) fun tree first => ?_
    refine closed.bind (Plan.forceAll_of_closed closed args inArgs) fun trees held => ?_
    exact closed.ofNamed offset rfl own
      (List.forall_mem_cons.mpr ⟨first, List.forall_mem_map.mpr held⟩)
  | .operatorCall offset operator args, calls => by
    rw [Plan.force]
    refine closed.bind (Plan.forceAll_of_closed closed args calls) fun trees held => ?_
    exact closed.ofUnnamed offset rfl (List.forall_mem_map.mpr held)
  | .index offset operand subscript, calls => by
    rw [Plan.force]
    obtain ⟨inOperand, inSubscript⟩ := List.forall_mem_append.mp calls
    refine closed.bind (operand.force_of_closed closed inOperand) fun tree first => ?_
    refine closed.bind (subscript.force_of_closed closed inSubscript) fun tree' second => ?_
    exact closed.ofUnnamed offset rfl
      (List.forall_mem_cons.mpr ⟨first, List.forall_mem_singleton.mpr second⟩)
  | .list offset elements, calls => by
    rw [Plan.force]
    refine closed.bind (Plan.forceAll_of_closed closed elements calls) fun trees held => ?_
    exact closed.ofUnnamed offset rfl (List.forall_mem_map.mpr held)
  | .struct offset message entries, calls => by
    rw [Plan.force]
    refine closed.bind (PlanEntry.forceAll_of_closed closed entries calls) fun built held => ?_
    exact closed.ofUnnamed offset rfl (List.forall_mem_map.mpr held)

theorem Plan.forceAll_of_closed (closed : Attempt.Closed named Result Has) :
    (plans : List Plan) → (∀ function ∈ Plan.functionsAll plans, named function) →
      Has (List Expr) (fun trees => ∀ tree ∈ trees, Result (.node tree)) (Plan.forceAll plans)
  | [], _ => closed.pure (List.forall_mem_nil _)
  | first :: rest, calls => by
    rw [Plan.forceAll]
    obtain ⟨inFirst, inRest⟩ := List.forall_mem_append.mp calls
    refine closed.bind (first.force_of_closed closed inFirst) fun tree one => ?_
    refine closed.bind (Plan.forceAll_of_closed closed rest inRest) fun trees held => ?_
    exact closed.pure (List.forall_mem_cons.mpr ⟨one, held⟩)

theorem PlanEntry.force_of_closed (closed : Attempt.Closed named Result Has) :
    (entry : PlanEntry) → (∀ function ∈ entry.functions, named function) →
      Has Entry (fun built => Result (.entry built)) entry.force
  | .map offset key value optional, calls => by
    rw [PlanEntry.force]
    obtain ⟨inKey, inValue⟩ := List.forall_mem_append.mp calls
    refine closed.bind (key.force_of_closed closed inKey) fun tree first => ?_
    refine closed.bind (value.force_of_closed closed inValue) fun tree' second => ?_
    exact closed.entry offset
      (List.forall_mem_cons.mpr ⟨first, List.forall_mem_singleton.mpr second⟩)
  | .field offset name value optional, calls => by
    rw [PlanEntry.force]
    refine closed.bind (value.force_of_closed closed calls) fun tree held => ?_
    exact closed.entry offset (List.forall_mem_singleton.mpr held)

theorem PlanEntry.forceAll_of_closed (closed : Attempt.Closed named Result Has) :
    (entries : List PlanEntry) →
      (∀ function ∈ PlanEntry.functionsAll entries, named function) →
      Has (List Entry) (fun built => ∀ entry ∈ built, Result (.entry entry))
        (PlanEntry.forceAll entries)
  | [], _ => closed.pure (List.forall_mem_nil _)
  | first :: rest, calls => by
    rw [PlanEntry.forceAll]
    obtain ⟨inFirst, inRest⟩ := List.forall_mem_append.mp calls
    refine closed.bind (first.force_of_closed closed inFirst) fun entry one => ?_
    refine closed.bind (PlanEntry.forceAll_of_closed closed rest inRest) fun built held => ?_
    exact closed.pure (List.forall_mem_cons.mpr ⟨one, held⟩)

end

end Forcing

end CelTree
