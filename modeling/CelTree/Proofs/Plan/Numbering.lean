/-
**Ids follow the order of the source.**

Where no call of a plan is expanded, each of its nodes and entries takes one id, right after its
parts have taken theirs. So the ids of the tree in post-order are the next ids of the builder, one
after the other.

* `Plan.calls`, `Plan.isExpansion`: the calls of a plan at any depth, and which calls are expanded.
* `Builder.Numbers`: from one builder to another, exactly these ids are taken, in this order.
* `NodeOperation.perform_numbers`: a step that is no expansion takes one id, after those of its
  parts.
* `Plan.force_numbers`: so do all steps of a plan, by induction over the plan.
* **`Plan.force_consecutive`** — the ids of the tree in post-order are consecutive.
-/

import CelTree.Proofs.Builder.Ids
import CelTree.Proofs.Builder.Recognition
import CelTree.Proofs.Expr.Elements
import CelTree.Proofs.Plan.Steps
import CelTree.Proofs.Plan.Unexpand

namespace CelTree

open Render

/-! ### The calls of a plan -/

mutual

/-- All global calls and member calls in a plan. -/
def Plan.calls : Plan → List Plan
  | .literal _ _ => []
  | .ident _ _ => []
  | .select _ operand _ => operand.calls
  | .call offset function args => .call offset function args :: Plan.callsAll args
  | .memberCall offset target function args =>
    .memberCall offset target function args :: (target.calls ++ Plan.callsAll args)
  | .operatorCall _ _ args => Plan.callsAll args
  | .index _ operand subscript => operand.calls ++ subscript.calls
  | .list _ elements => Plan.callsAll elements
  | .struct _ _ entries => PlanEntry.callsAll entries

/-- All global calls and member calls in several plans. -/
def Plan.callsAll : List Plan → List Plan
  | [] => []
  | first :: rest => first.calls ++ Plan.callsAll rest

/-- All global calls and member calls in a planned entry. -/
def PlanEntry.calls : PlanEntry → List Plan
  | .map _ key value _ => key.calls ++ value.calls
  | .field _ _ value _ => value.calls

/-- All global calls and member calls in several planned entries. -/
def PlanEntry.callsAll : List PlanEntry → List Plan
  | [] => []
  | first :: rest => first.calls ++ PlanEntry.callsAll rest

end

/-- An identifier. -/
def Expr.isIdent : Expr → Bool
  | .ident _ _ => true
  | _ => false

theorem Expr.isIdent_iff {tree : Expr} :
    tree.isIdent = true ↔ ∃ id name, tree = .ident id name := by
  cases tree <;> simp [Expr.isIdent]

/-- A planned identifier. -/
def Plan.isIdent : Plan → Bool
  | .ident _ _ => true
  | _ => false

/-- The plan is a call that is expanded: a call of `has` that results in a field test, or a member
call with the name and the number of arguments of a macro in the set and with an identifier for its
first argument. -/
def Plan.isExpansion (macros : MacroSet) : Plan → Bool
  | .call offset function args => (Plan.call offset function args).isFieldTest macros
  | .memberCall _ _ function args =>
    (Macro.lookup function args.length true).any macros.contains && args.head?.any Plan.isIdent
  | _ => false

/-- Without macros, no call is expanded. -/
theorem Plan.isExpansion_none (plan : Plan) : plan.isExpansion .none = false := by
  cases plan with
  | call offset function args =>
    rw [isExpansion, isFieldTest, testOnly?.eq_def]
    split
    · rfl
    · rw [if_neg fun expands => Bool.false_ne_true expands.2.1]
      rfl
    · rfl
  | memberCall offset target function args =>
    rw [isExpansion]
    cases Macro.lookup function args.length true <;> rfl
  | _ => rfl

/-! ### What a call sees of its arguments -/

/-- The tree is what calls expect of the result of a plan: an identifier where that is planned, a
select where that is planned, and a field test where the plan says so. -/
structure Plan.Foresees (macros : MacroSet) (plan : Plan) (tree : Expr) : Prop where
  ident : tree.isIdent = plan.isIdent
  test : tree.testOnly? = plan.testOnly? macros

section Arguments

variable {options : Options} {args : List Plan} {trees : List Expr}

/-- Plans foresee which of their trees are selects, and which of these are tests. -/
theorem Plan.testOnly?_eq_of_foresees
    (foreseen : List.Forall₂ (Plan.Foresees options.macros) args trees) :
    trees.map Expr.testOnly? = args.map (Plan.testOnly? options.macros) := by
  induction foreseen with
  | nil => rfl
  | cons here _ ih => rw [List.map_cons, List.map_cons, here.test, ih]

/-- A planned call is expanded exactly if the call of its arguments is. -/
theorem Plan.isExpansion_call (offset : Offset) (function : String)
    (foreseen : List.Forall₂ (Plan.Foresees options.macros) args trees) :
    (NodeOperation.call function trees).isExpansion options =
      (Plan.call offset function args).isExpansion options.macros := by
  have same : (NodeOperation.call function trees).testOnly? options =
      (Plan.call offset function args).testOnly? options.macros :=
    Plan.testOnly?_call (Plan.testOnly?_eq_of_foresees foreseen)
  rw [Plan.isExpansion, Plan.isFieldTest, ← same, NodeOperation.testOnly?,
    NodeOperation.isExpansion]
  cases Builder.isHasCall options function trees <;> rfl

/-- Whether a member call is expanded can be told from its plan. -/
theorem Plan.isExpansion_memberCall (offset : Offset) (target : Plan) (tree : Expr)
    (function : String) (foreseen : List.Forall₂ (Plan.Foresees options.macros) args trees) :
    (NodeOperation.memberCall tree function trees).isExpansion options =
      (Plan.memberCall offset target function args).isExpansion options.macros := by
  rw [Bool.eq_iff_iff, NodeOperation.isExpansion, MacroCall.isSome_recognize_iff,
    Options.ExpandsMember, Plan.isExpansion, Bool.and_eq_true, foreseen.length_eq]
  refine and_congr ?_ ?_
  · simp only [Option.any_eq_true, ← Macro.lookup_eq_some_iff]
  · cases foreseen with
    | nil => simp
    | cons here _ =>
      rw [List.head?_cons, Option.any_some, ← here.ident, Expr.isIdent_iff]
      simp

end Arguments

/-! ### Ids in the order of the steps -/

namespace Builder

/-- From the first builder to the second, exactly these ids are taken, in this order. -/
structure Numbers (builder after : Builder) (ids : List Int) (count : Nat) : Prop where
  options : after.options = builder.options
  lastId : after.lastId = builder.lastId + count
  ids : ids = idsBetween builder.lastId after.lastId

namespace Numbers

variable {builder middle after : Builder} {ids ids' : List Int} {count count' : Nat}

theorem refl (builder : Builder) : builder.Numbers builder [] 0 :=
  ⟨rfl, (Int.add_zero _).symm, (idsBetween_self _).symm⟩

theorem trans (first : builder.Numbers middle ids count)
    (second : middle.Numbers after ids' count') :
    builder.Numbers after (ids ++ ids') (count + count') where
  options := second.options.trans first.options
  lastId := by rw [second.lastId, first.lastId, Nat.cast_add, Int.add_assoc]
  ids := by
    rw [first.ids, second.ids]
    refine idsBetween_append_eq ?_ ?_
    · rw [first.lastId]
      omega
    · rw [second.lastId]
      omega

theorem advance (builder : Builder) (offset : Offset) :
    builder.Numbers (builder.advance offset) [builder.lastId + 1] 1 :=
  ⟨rfl, rfl, (idsBetween_succ _).symm⟩

end Numbers

end Builder

namespace NodeOperation

/-- The elements of the parts of a step, from left to right. -/
def partElements : NodeOperation Expr Entry → List Element
  | .literal _ => []
  | .ident _ => []
  | .select operand _ => operand.elements
  | .call _ args => Expr.elementsAll args
  | .memberCall target _ args => target.elements ++ Expr.elementsAll args
  | .operatorCall _ args => Expr.elementsAll args
  | .index operand subscript => operand.elements ++ subscript.elements
  | .list elements => Expr.elementsAll elements
  | .struct _ entries => Entry.elementsAll entries

/-- The step writes an identifier. -/
def isIdent : NodeOperation Expr Entry → Bool
  | .ident _ => true
  | _ => false

variable {operation : NodeOperation Expr Entry} {id : Int} {tree : Expr}

/-- A node that a step writes stands behind the elements of its parts. -/
theorem node_elements (written : operation.node id = .ok tree) :
    tree.elements = operation.partElements ++ [.node tree] := by
  cases operation with
  | literal source =>
    obtain ⟨value, rfl⟩ := literal_of_node written
    rfl
  | index operand subscript =>
    cases written
    simp only [Expr.elements, Expr.elementsAll, partElements, List.append_nil]
  | _ =>
    cases written
    rfl

/-- Whether a node is an identifier can be told from its step. -/
theorem isIdent_node (written : operation.node id = .ok tree) :
    tree.isIdent = operation.isIdent := by
  cases operation with
  | literal source =>
    obtain ⟨value, rfl⟩ := literal_of_node written
    rfl
  | _ =>
    cases written
    rfl

/-- **A step that is no expansion takes one id**, after those of its parts. -/
theorem perform_numbers {offset : Offset} {builder middle after : Builder} {count : Nat}
    (parts : builder.Numbers middle (operation.partElements.map Element.id) count)
    (unexpanded : operation.isExpansion middle.options = false)
    (performed : (operation.perform offset).run.run middle = (.ok tree, after)) :
    builder.Numbers after (tree.elements.map Element.id) (count + 1) ∧
      tree.isIdent = operation.isIdent ∧
      tree.testOnly? = operation.testOnly? middle.options := by
  have effect := operation.perform_effect offset middle
  rw [performed] at effect
  have test := effect.testOnly?
  cases effect with
  | plain _ written =>
    refine ⟨?_, isIdent_node written, test⟩
    have root : (Element.node tree).id = middle.lastId + 1 := node_id written
    rw [node_elements written, List.map_append, List.map_singleton, root]
    exact parts.trans (.advance middle offset)
  | test enabled =>
    rw [isExpansion_test enabled] at unexpanded
    cases unexpanded
  | fold recognized =>
    rw [isExpansion_fold recognized] at unexpanded
    cases unexpanded

end NodeOperation

/-! ### Forcing -/

mutual

/-- **The steps of a plan take one id each**, in post-order, if none of its calls is expanded. -/
theorem Plan.force_numbers {builder after : Builder} {tree : Expr} :
    (plan : Plan) → (∀ call ∈ plan.calls, call.isExpansion builder.options.macros = false) →
      plan.force.run.run builder = (.ok tree, after) →
      builder.Numbers after (tree.elements.map Element.id) plan.size ∧
        plan.Foresees builder.options.macros tree
  | .literal offset source => fun _ forced => by
    rw [Plan.force] at forced
    obtain ⟨numbers, ident, test⟩ := NodeOperation.perform_numbers (.refl builder) rfl forced
    exact ⟨numbers, ident, test⟩
  | .ident offset name => fun _ forced => by
    rw [Plan.force] at forced
    obtain ⟨numbers, ident, test⟩ := NodeOperation.perform_numbers (.refl builder) rfl forced
    exact ⟨numbers, ident, test⟩
  | .select offset operand field => fun calls forced => by
    rw [Plan.force] at forced
    obtain ⟨part, middle, built, performed⟩ := Attempt.of_run_bind_ok forced
    obtain ⟨parts, -⟩ := operand.force_numbers calls built
    obtain ⟨numbers, ident, test⟩ := NodeOperation.perform_numbers parts rfl performed
    exact ⟨numbers, ident, test⟩
  | .call offset function args => fun calls forced => by
    obtain ⟨own, below⟩ := List.forall_mem_cons.mp calls
    rw [Plan.force] at forced
    obtain ⟨trees, middle, built, performed⟩ := Attempt.of_run_bind_ok forced
    obtain ⟨parts, foreseen⟩ := Plan.forceAll_numbers args below built
    rw [← parts.options] at own foreseen ⊢
    have unexpanded := (Plan.isExpansion_call offset function foreseen).trans own
    obtain ⟨numbers, ident, test⟩ := NodeOperation.perform_numbers parts unexpanded performed
    refine ⟨numbers, ident, test.trans ?_⟩
    exact Plan.testOnly?_call (Plan.testOnly?_eq_of_foresees foreseen)
  | .memberCall offset target function args => fun calls forced => by
    obtain ⟨own, below⟩ := List.forall_mem_cons.mp calls
    obtain ⟨inTarget, inArgs⟩ := List.forall_mem_append.mp below
    rw [Plan.force] at forced
    obtain ⟨part, middle, built, forced⟩ := Attempt.of_run_bind_ok forced
    obtain ⟨trees, last, built', performed⟩ := Attempt.of_run_bind_ok forced
    obtain ⟨first, -⟩ := target.force_numbers inTarget built
    rw [← first.options] at own inArgs ⊢
    obtain ⟨others, foreseen⟩ := Plan.forceAll_numbers args inArgs built'
    rw [← others.options] at own foreseen ⊢
    have parts := first.trans others
    rw [← List.map_append] at parts
    have unexpanded := (Plan.isExpansion_memberCall offset target part function foreseen).trans own
    obtain ⟨numbers, ident, test⟩ := NodeOperation.perform_numbers parts unexpanded performed
    exact ⟨numbers, ident, test⟩
  | .operatorCall offset operator args => fun calls forced => by
    rw [Plan.force] at forced
    obtain ⟨trees, middle, built, performed⟩ := Attempt.of_run_bind_ok forced
    obtain ⟨parts, -⟩ := Plan.forceAll_numbers args calls built
    obtain ⟨numbers, ident, test⟩ := NodeOperation.perform_numbers parts rfl performed
    exact ⟨numbers, ident, test⟩
  | .index offset operand subscript => fun calls forced => by
    obtain ⟨inOperand, inSubscript⟩ := List.forall_mem_append.mp calls
    rw [Plan.force] at forced
    obtain ⟨part, middle, built, forced⟩ := Attempt.of_run_bind_ok forced
    obtain ⟨part', last, built', performed⟩ := Attempt.of_run_bind_ok forced
    obtain ⟨first, -⟩ := operand.force_numbers inOperand built
    rw [← first.options] at inSubscript
    obtain ⟨second, -⟩ := subscript.force_numbers inSubscript built'
    have parts := first.trans second
    rw [← List.map_append] at parts
    obtain ⟨numbers, ident, test⟩ := NodeOperation.perform_numbers parts rfl performed
    exact ⟨numbers, ident, test⟩
  | .list offset elements => fun calls forced => by
    rw [Plan.force] at forced
    obtain ⟨trees, middle, built, performed⟩ := Attempt.of_run_bind_ok forced
    obtain ⟨parts, -⟩ := Plan.forceAll_numbers elements calls built
    obtain ⟨numbers, ident, test⟩ := NodeOperation.perform_numbers parts rfl performed
    exact ⟨numbers, ident, test⟩
  | .struct offset message entries => fun calls forced => by
    rw [Plan.force] at forced
    obtain ⟨built, middle, ran, performed⟩ := Attempt.of_run_bind_ok forced
    have parts := PlanEntry.forceAll_numbers entries calls ran
    obtain ⟨numbers, ident, test⟩ := NodeOperation.perform_numbers parts rfl performed
    exact ⟨numbers, ident, test⟩

/-- Forcing several plans numbers their nodes and entries one plan after the other. -/
theorem Plan.forceAll_numbers {builder after : Builder} {trees : List Expr} :
    (plans : List Plan) →
      (∀ call ∈ Plan.callsAll plans, call.isExpansion builder.options.macros = false) →
      (Plan.forceAll plans).run.run builder = (.ok trees, after) →
      builder.Numbers after ((Expr.elementsAll trees).map Element.id) (Plan.sizeAll plans) ∧
        List.Forall₂ (Plan.Foresees builder.options.macros) plans trees
  | [] => fun _ forced => by
    rw [Plan.forceAll] at forced
    cases forced
    exact ⟨.refl builder, .nil⟩
  | first :: rest => fun calls forced => by
    obtain ⟨inFirst, inRest⟩ := List.forall_mem_append.mp calls
    rw [Plan.forceAll] at forced
    obtain ⟨tree, middle, built, forced⟩ := Attempt.of_run_bind_ok forced
    obtain ⟨trees, last, built', forced⟩ := Attempt.of_run_bind_ok forced
    cases forced
    obtain ⟨numbers, foresees⟩ := first.force_numbers inFirst built
    rw [← numbers.options] at inRest
    obtain ⟨numbers', foreseen⟩ := Plan.forceAll_numbers rest inRest built'
    rw [numbers.options] at foreseen
    refine ⟨?_, .cons foresees foreseen⟩
    rw [Expr.elementsAll, List.map_append]
    exact numbers.trans numbers'

theorem PlanEntry.force_numbers {builder after : Builder} {built : Entry} :
    (entry : PlanEntry) →
      (∀ call ∈ entry.calls, call.isExpansion builder.options.macros = false) →
      entry.force.run.run builder = (.ok built, after) →
      builder.Numbers after (built.elements.map Element.id) entry.size
  | .map offset key value optional => fun calls forced => by
    obtain ⟨inKey, inValue⟩ := List.forall_mem_append.mp calls
    rw [PlanEntry.force] at forced
    obtain ⟨part, middle, built, forced⟩ := Attempt.of_run_bind_ok forced
    obtain ⟨part', last, built', performed⟩ := Attempt.of_run_bind_ok forced
    obtain ⟨first, -⟩ := key.force_numbers inKey built
    rw [← first.options] at inValue
    obtain ⟨second, -⟩ := value.force_numbers inValue built'
    have parts := first.trans second
    rw [← List.map_append] at parts
    cases performed
    show builder.Numbers _ (List.map Element.id (part.elements ++ part'.elements ++ [_])) _
    rw [List.map_append]
    exact parts.trans (.advance last offset)
  | .field offset name value optional => fun calls forced => by
    rw [PlanEntry.force] at forced
    obtain ⟨part, middle, built, performed⟩ := Attempt.of_run_bind_ok forced
    obtain ⟨parts, -⟩ := value.force_numbers calls built
    cases performed
    show builder.Numbers _ (List.map Element.id (part.elements ++ [_])) _
    rw [List.map_append]
    exact parts.trans (.advance middle offset)

theorem PlanEntry.forceAll_numbers {builder after : Builder} {built : List Entry} :
    (entries : List PlanEntry) →
      (∀ call ∈ PlanEntry.callsAll entries, call.isExpansion builder.options.macros = false) →
      (PlanEntry.forceAll entries).run.run builder = (.ok built, after) →
      builder.Numbers after ((Entry.elementsAll built).map Element.id)
        (PlanEntry.sizeAll entries)
  | [] => fun _ forced => by
    rw [PlanEntry.forceAll] at forced
    cases forced
    exact .refl builder
  | first :: rest => fun calls forced => by
    obtain ⟨inFirst, inRest⟩ := List.forall_mem_append.mp calls
    rw [PlanEntry.forceAll] at forced
    obtain ⟨entry, middle, built, forced⟩ := Attempt.of_run_bind_ok forced
    obtain ⟨others, last, built', forced⟩ := Attempt.of_run_bind_ok forced
    cases forced
    have numbers := first.force_numbers inFirst built
    rw [← numbers.options] at inRest
    have numbers' := PlanEntry.forceAll_numbers rest inRest built'
    rw [Entry.elementsAll, List.map_append]
    exact numbers.trans numbers'

end

/-- **Ids follow the order of the source.** Let a plan be forced without macros, or with macros that
expand none of its calls. The ids of the tree in post-order, where a target stands before the
arguments and an entry behind its key and its value, are then the ids right after the builder's last
one, as many as the plan has nodes and entries. The builder has taken these and no others. -/
theorem Plan.force_consecutive {plan : Plan} {builder after : Builder} {tree : Expr}
    (unexpanded : builder.options.macros = .none ∨
      ∀ call ∈ plan.calls, call.isExpansion builder.options.macros = false)
    (forced : plan.force.run.run builder = (.ok tree, after)) :
    tree.elements.map Element.id =
        (List.range plan.size).map (fun index : Nat => builder.lastId + (index + 1)) ∧
      after.lastId = builder.lastId + plan.size := by
  have calls : ∀ call ∈ plan.calls, call.isExpansion builder.options.macros = false := by
    rcases unexpanded with plain | calls
    · rw [plain]
      exact fun call _ => call.isExpansion_none
    · exact calls
  obtain ⟨numbers, -⟩ := plan.force_numbers calls forced
  refine ⟨?_, numbers.lastId⟩
  rw [numbers.ids, numbers.lastId, idsBetween_add]

/-- The plan of `{k: has(x), xs.exists(1, y): s[0]}.map(x)`, whose calls are no macros: `has` is not
given a select, the variable of `exists` is no identifier, and `map` has no body. -/
def Plan.nearMisses : Plan :=
  .memberCall 36
    (.struct 0 ""
      [.map 2 (.ident 1 "k") (.call 7 Macro.has.function [.ident 8 "x"]) false,
        .map 29
          (.memberCall 21 (.ident 12 "xs") Macro.existsAny.function
            [.literal 22 (.int64 "1"), .ident 25 "y"])
          (.index 32 (.ident 31 "s") (.literal 33 (.int64 "0"))) false])
    Macro.map.function [.ident 40 "x"]

theorem Plan.force_consecutive_nearMisses :
    (∀ call ∈ Plan.nearMisses.calls, call.isExpansion .all = false) ∧
      ∃ tree after, Plan.nearMisses.force.run.run {} = (.ok tree, after) ∧
        tree.elements.map Element.id = [1, 2, 3, 4, 5, 6, 7, 8, 9, 10, 11, 12, 13, 14, 15] ∧
        after.lastId = 15 := by
  have calls : ∀ call ∈ Plan.nearMisses.calls, call.isExpansion .all = false := by decide
  obtain ⟨ids, lastId⟩ := Plan.force_consecutive (.inr calls)
    (rfl : Plan.nearMisses.force.run.run {} = (.ok _, _))
  exact ⟨calls, _, _, rfl, ids, lastId⟩

end CelTree
