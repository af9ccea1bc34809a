/-
**The folds mean what the macros mean.**

Whatever the meaning of the rest of the language, if the operators of the expansions have their
usual meaning, the fold of a macro call over a list of any length has the value that the macro
stands for: whether some, every or exactly one element satisfies a test, the elements that do, or
their transforms.

* `iterate_eq_foldl`: the one induction over the elements. A loop whose accumulator stays as it is
  once the condition is false does what the loop without condition does.
* `MacroCall.eval_existsAny` to `MacroCall.eval_mapWhere`: the value of each fold.
* **`Builder.maybeExpand_eval`** — the value of what a macro call becomes.
-/

import CelTree.Proofs.Builder.Step
import CelTree.Proofs.Evaluation.Scope
import Mathlib.Data.List.Basic

namespace CelTree

variable {α : Type}

/-! ### Loops -/

/-- A loop over states that the accumulator embeds. The condition tells from the state alone whether
the loop goes on, and a state at which it does not is left as it is by every further element. -/
theorem iterate_eq_foldl {β : Type} {condition step : Value α → Value α → Option (Value α)}
    (embed : β → Value α) (goes : β → Bool) (next : β → Value α → β)
    (stays : ∀ state element, goes state = false → next state element = state)
    (elements : List (Value α))
    (conditions : ∀ state, ∀ element ∈ elements,
      condition (embed state) element = some (.bool (goes state)))
    (steps : ∀ state, ∀ element ∈ elements, goes state = true →
      step (embed state) element = some (embed (next state element)))
    (start : β) :
    iterate condition step elements (embed start) = some (embed (elements.foldl next start)) := by
  induction elements generalizing start with
  | nil => rfl
  | cons first rest ih =>
    have onward := ih (fun state element member =>
      conditions state element (List.mem_cons_of_mem _ member)) fun state element member =>
        steps state element (List.mem_cons_of_mem _ member)
    rw [iterate, conditions start first List.mem_cons_self]
    cases going : goes start with
    | false =>
      -- the loop stops here, and the remaining elements change nothing
      rw [List.foldl_fixed' fun element => stays start element going]
    | true =>
      show (step (embed start) first).bind _ = _
      rw [steps start first List.mem_cons_self going, Option.bind_some, onward, List.foldl_cons]

section Folds

variable {elements : List (Value α)} (p : Value α → Bool)

theorem foldl_or (start : Bool) :
    elements.foldl (fun found element => found || p element) start =
      (start || elements.any p) := by
  induction elements generalizing start with
  | nil => exact (Bool.or_false start).symm
  | cons first rest ih => rw [List.foldl_cons, ih, List.any_cons, Bool.or_assoc]

theorem foldl_and (start : Bool) :
    elements.foldl (fun held element => held && p element) start =
      (start && elements.all p) := by
  induction elements generalizing start with
  | nil => exact (Bool.and_true start).symm
  | cons first rest ih => rw [List.foldl_cons, ih, List.all_cons, Bool.and_assoc]

/-- Counting the elements that satisfy a test. -/
theorem foldl_count (start : Int) :
    elements.foldl (fun count element => if p element then count + 1 else count) start =
      start + elements.countP p := by
  induction elements generalizing start with
  | nil => exact (Int.add_zero start).symm
  | cons first rest ih =>
    rw [List.foldl_cons, ih, List.countP_cons]
    split <;> push_cast <;> omega

/-- Collecting the images of the elements that satisfy a test. -/
theorem foldl_appendWhere {β : Type} (f : Value α → β) (start : List β) :
    elements.foldl (fun taken element => if p element then taken ++ [f element] else taken) start =
      start ++ (elements.filter p).map f := by
  induction elements generalizing start with
  | nil => exact (List.append_nil start).symm
  | cons first rest ih =>
    rw [List.foldl_cons, ih, List.filter_cons]
    split
    · rw [List.map_cons, List.append_assoc, List.singleton_append]
    · rfl

end Folds

/-! ### The folds of the macros -/

namespace MacroCall

/-- With the iteration variable bound to any of the elements, the argument of a macro call has the
value that the function says, and it never depends on the accumulator. -/
structure Computes (meaning : Meaning α) (env : Env α) (iterVar : String)
    (elements : List (Value α)) (argument : Expr) (f : Value α → Value α) : Prop where
  ignores : argument.Ignores meaning accumulatorName
  values : ∀ element ∈ elements,
    argument.eval meaning (env.bind iterVar element) = some (f element)

section Fold

variable {meaning : Meaning α} (standard : meaning.Standard) {env : Env α} {range : Expr}
  {iterVar : String} {elements : List (Value α)}
  (ranged : range.eval meaning env = some (.list elements))
  (apart : iterVar ≠ accumulatorName)

/-- A fold has the value of its result over the accumulator that its loop ends with. -/
theorem eval_overRange {β : Type} (embed : β → Value α) (goes : β → Bool)
    (next : β → Value α → β) (start : β)
    (stays : ∀ state element, goes state = false → next state element = state)
    {body : MacroBody} {id : Int} {init condition step result : Expr}
    (starts : init.eval meaning env = some (embed start))
    (conditions : ∀ state, ∀ element ∈ elements,
      condition.eval meaning ((env.bind accumulatorName (embed state)).bind iterVar element) =
        some (.bool (goes state)))
    (steps : ∀ state, ∀ element ∈ elements, goes state = true →
      step.eval meaning ((env.bind accumulatorName (embed state)).bind iterVar element) =
        some (embed (next state element)))
    (ranged : range.eval meaning env = some (.list elements)) :
    (overRange ⟨range, iterVar, body⟩ id init condition step result).eval meaning env =
      result.eval meaning
        (env.bind accumulatorName (embed (elements.foldl next start))) := by
  have looped : iterate
      (fun accu element =>
        condition.eval meaning ((env.bind accumulatorName accu).bind iterVar element))
      (fun accu element =>
        step.eval meaning ((env.bind accumulatorName accu).bind iterVar element))
      elements (embed start) = some (embed (elements.foldl next start)) :=
    iterate_eq_foldl embed goes next stays elements conditions steps start
  simp only [overRange, Expr.eval, ranged, starts, Value.elements?, Option.bind_eq_bind,
    Option.bind_some, looped]

/-- Inside a fold, the accumulator is read as it is. -/
theorem eval_accu (apart : iterVar ≠ accumulatorName) (id : Int) (accu element : Value α) :
    (MacroCall.accu id).eval meaning ((env.bind accumulatorName accu).bind iterVar element) =
      some accu := by
  rw [MacroCall.accu, Expr.eval, Env.bind_of_ne _ _ _ (Ne.symm apart), Env.bind_self]

/-- Inside a fold, an argument has the value that it has without. -/
theorem Computes.eval_within {argument : Expr} {f : Value α → Value α}
    (computes : Computes meaning env iterVar elements argument f)
    (apart : iterVar ≠ accumulatorName) (accu : Value α) {element : Value α}
    (member : element ∈ elements) :
    argument.eval meaning ((env.bind accumulatorName accu).bind iterVar element) =
      some (f element) := by
  rw [Env.bind_comm _ _ _ (Ne.symm apart), computes.ignores, computes.values element member]

section Tests

variable {test : Expr} {p : Value α → Bool}
  (tests : Computes meaning env iterVar elements test fun element => .bool (p element))

include standard ranged apart tests

/-- The fold of `exists` tells whether some element satisfies the test. -/
theorem eval_existsAny (base : Int) :
    (fold base ⟨range, iterVar, .existsAny test⟩).eval meaning env =
      some (.bool (elements.any p)) := by
  refine (eval_overRange Value.bool (fun found => !found)
    (fun found element => found || p element) false ?_ ?_ ?_ ?_ ranged).trans ?_
  · intro found element stopped
    rw [Bool.not_eq_false'] at stopped
    rw [stopped, Bool.true_or]
  · rw [Expr.eval, standard.bool]
  · intro found element _
    simp only [Expr.eval, Expr.evalAll, eval_accu apart, standard.not, standard.notStrictlyFalse]
  · intro found element member _
    simp only [Expr.eval, Expr.evalAll, eval_accu apart, tests.eval_within apart _ member,
      standard.or]
  · rw [accu, Expr.eval, Env.bind_self, foldl_or, Bool.false_or]

/-- The fold of `all` tells whether every element satisfies the test. -/
theorem eval_all (base : Int) :
    (fold base ⟨range, iterVar, .all test⟩).eval meaning env =
      some (.bool (elements.all p)) := by
  refine (eval_overRange Value.bool id (fun held element => held && p element) true
    ?_ ?_ ?_ ?_ ranged).trans ?_
  · intro held element stopped
    rw [show held = false from stopped, Bool.false_and]
  · rw [Expr.eval, standard.bool]
  · intro held element _
    simp only [Expr.eval, Expr.evalAll, eval_accu apart, standard.notStrictlyFalse, id]
  · intro held element member _
    simp only [Expr.eval, Expr.evalAll, eval_accu apart, tests.eval_within apart _ member,
      standard.and]
  · rw [accu, Expr.eval, Env.bind_self, foldl_and, Bool.true_and]

/-- The fold of `exists_one` tells whether exactly one element satisfies the test. -/
theorem eval_existsOne (base : Int) :
    (fold base ⟨range, iterVar, .existsOne test⟩).eval meaning env =
      some (.bool (decide (elements.countP p = 1))) := by
  refine (eval_overRange Value.int (fun _ => true)
    (fun count element => if p element then count + 1 else count) 0 ?_ ?_ ?_ ?_
    ranged).trans ?_
  · intro count element stopped
    cases stopped
  · rw [Expr.eval, standard.int]
    rfl
  · intro count element _
    rw [Expr.eval, standard.bool]
  · intro count element member _
    simp only [Expr.eval, Expr.evalAll, eval_accu apart, tests.eval_within apart _ member,
      standard.conditional, standard.int, standard.addInt]
    split <;> rfl
  · simp only [Expr.eval, Expr.evalAll, accu, Env.bind_self, standard.int, standard.equal,
      foldl_count]
    congr 3
    show (0 + (elements.countP p : Int) = 1) = _
    exact propext (by omega)

/-- The fold of `filter` has the elements that satisfy the test, in their order. -/
theorem eval_filter (base : Int) :
    (fold base ⟨range, iterVar, .filter test⟩).eval meaning env =
      some (.list (elements.filter p)) := by
  refine (eval_overRange Value.list (fun _ => true)
    (fun taken element => if p element then taken ++ [element] else taken) [] ?_ rfl ?_ ?_
    ranged).trans ?_
  · intro taken element stopped
    cases stopped
  · intro taken element _
    rw [Expr.eval, standard.bool]
  · intro taken element member _
    have wrapped : [some element].mapM id = some [element] := rfl
    simp only [Expr.eval, Expr.evalAll, eval_accu apart, tests.eval_within apart _ member,
      standard.conditional, Env.bind_self, wrapped, Option.map_some,
      standard.addList]
    split <;> rfl
  · rw [accu, Expr.eval, Env.bind_self, foldl_appendWhere p fun element => element, List.map_id',
      List.nil_append]

end Tests

section Transforms

variable {transform : Expr} {f : Value α → Value α}

include standard ranged apart

/-- The fold of `map` with a test has the transforms of the elements that satisfy it. -/
theorem eval_mapWhere {test : Expr} {p : Value α → Bool}
    (tests : Computes meaning env iterVar elements test fun element => .bool (p element))
    (transforms : Computes meaning env iterVar (elements.filter p) transform f) (base : Int) :
    (fold base ⟨range, iterVar, .mapWhere test transform⟩).eval meaning env =
      some (.list ((elements.filter p).map f)) := by
  refine (eval_overRange Value.list (fun _ => true)
    (fun taken element => if p element then taken ++ [f element] else taken) [] ?_ rfl ?_ ?_
    ranged).trans ?_
  · intro taken element stopped
    cases stopped
  · intro taken element _
    rw [Expr.eval, standard.bool]
  · intro taken element member _
    simp only [Expr.eval, Expr.evalAll, eval_accu apart, tests.eval_within apart _ member,
      standard.conditional]
    split
    · rename_i satisfied
      have taken := transforms.eval_within apart (.list taken)
        (List.mem_filter.mpr ⟨member, satisfied⟩)
      have wrapped : [some (f element)].mapM id = some [f element] := rfl
      simp only [taken, wrapped, Option.map_some, standard.addList]
    · rfl
  · rw [accu, Expr.eval, Env.bind_self, foldl_appendWhere, List.nil_append]

/-- The fold of `map` has the transforms of all elements, in their order. -/
theorem eval_map (transforms : Computes meaning env iterVar elements transform f) (base : Int) :
    (fold base ⟨range, iterVar, .map transform⟩).eval meaning env =
      some (.list (elements.map f)) := by
  refine (eval_overRange Value.list (fun _ => true)
    (fun taken element => taken ++ [f element]) [] ?_ rfl ?_ ?_ ranged).trans ?_
  · intro taken element stopped
    cases stopped
  · intro taken element _
    rw [Expr.eval, standard.bool]
  · intro taken element member _
    have wrapped : [some (f element)].mapM id = some [f element] := rfl
    simp only [Expr.eval, Expr.evalAll, eval_accu apart, transforms.eval_within apart _ member,
      wrapped, Option.map_some, standard.addList]
  · rw [accu, Expr.eval, Env.bind_self]
    have appended : elements.foldl (fun taken element => taken ++ [f element]) [] =
        [] ++ (elements.filter fun _ => true).map f := foldl_appendWhere (fun _ => true) f []
    rw [appended, List.filter_true, List.nil_append]

end Transforms

end Fold

/-! ### Recognised calls -/

/-- A member call with the name and the arity of a macro in the set is recognised. -/
theorem recognize_of_lookup {options : Options} {function iterVar : String} {rest : List Expr}
    {m : Macro} {body : MacroBody}
    (looked : Macro.lookup function (rest.length + 1) true = some m)
    (enabled : options.macros.contains m = true) (bodied : bodyOf m rest = some body)
    (id variableId : Int) (target : Expr) :
    recognize options (.memberCall id target function (.ident variableId iterVar :: rest)) =
      some ⟨target, iterVar, body⟩ := by
  simp only [recognize, List.length_cons, looked, enabled, if_true, bodied, Option.map_some]

end MacroCall

namespace Builder

variable {meaning : Meaning α} {env : Env α}

/-- What a recognised call becomes has the value of its fold. -/
theorem eval_maybeExpand {builder : Builder} {call : Expr} {found : MacroCall}
    (recognized : MacroCall.recognize builder.options call = some found) (offset : Offset)
    {value : Option (Value α)}
    (folded : ∀ base, (found.fold base).eval meaning env = value) :
    ((maybeExpand offset call).run builder).1.eval meaning env = value := by
  rw [maybeExpand_run, recognized]
  exact folded builder.lastId

/-- **What becomes of a macro call means what the macro means.** Let the target of a call have a
list of any length for its value. If the builder expands the macro, the call becomes an expression
whose value is what the macro says about the elements, given what its test and its transform
compute of each; a transform has to compute only what is asked of it. -/
theorem maybeExpand_eval (standard : meaning.Standard) (builder : Builder) (offset : Offset)
    (id variableId : Int) {target : Expr} {iterVar : String} {elements : List (Value α)}
    (ranged : target.eval meaning env = some (.list elements))
    (apart : iterVar ≠ accumulatorName) :
    let value (function : String) (args : List Expr) : Option (Value α) :=
      ((maybeExpand offset
        (.memberCall id target function (.ident variableId iterVar :: args))).run builder).1.eval
          meaning env
    let expands (m : Macro) : Prop := builder.options.macros.contains m = true
    let tests (test : Expr) (p : Value α → Bool) : Prop :=
      MacroCall.Computes meaning env iterVar elements test fun element => .bool (p element)
    (∀ test p, tests test p →
      (expands .existsAny → value "exists" [test] = some (.bool (elements.any p))) ∧
        (expands .all → value "all" [test] = some (.bool (elements.all p))) ∧
        (expands .existsOne →
          value "exists_one" [test] = some (.bool (decide (elements.countP p = 1))) ∧
            value "existsOne" [test] = some (.bool (decide (elements.countP p = 1)))) ∧
        (expands .filter → value "filter" [test] = some (.list (elements.filter p)))) ∧
      (expands .map →
        (∀ transform f, MacroCall.Computes meaning env iterVar elements transform f →
          value "map" [transform] = some (.list (elements.map f))) ∧
          ∀ test p transform f, tests test p →
            MacroCall.Computes meaning env iterVar (elements.filter p) transform f →
              value "map" [test, transform] = some (.list ((elements.filter p).map f))) := by
  intro value expands tests
  refine ⟨fun test p tested => ⟨fun enabled => ?_, fun enabled => ?_, fun enabled => ⟨?_, ?_⟩,
    fun enabled => ?_⟩, fun enabled => ⟨fun transform f computes => ?_,
      fun test p transform f tested computes => ?_⟩⟩
  · exact eval_maybeExpand (MacroCall.recognize_of_lookup rfl enabled rfl ..) offset
      (MacroCall.eval_existsAny standard ranged apart tested)
  · exact eval_maybeExpand (MacroCall.recognize_of_lookup rfl enabled rfl ..) offset
      (MacroCall.eval_all standard ranged apart tested)
  · exact eval_maybeExpand (MacroCall.recognize_of_lookup rfl enabled rfl ..) offset
      (MacroCall.eval_existsOne standard ranged apart tested)
  · exact eval_maybeExpand (MacroCall.recognize_of_lookup rfl enabled rfl ..) offset
      (MacroCall.eval_existsOne standard ranged apart tested)
  · exact eval_maybeExpand (MacroCall.recognize_of_lookup rfl enabled rfl ..) offset
      (MacroCall.eval_filter standard ranged apart tested)
  · exact eval_maybeExpand (MacroCall.recognize_of_lookup rfl enabled rfl ..) offset
      (MacroCall.eval_map standard ranged apart computes)
  · exact eval_maybeExpand (MacroCall.recognize_of_lookup rfl enabled rfl ..) offset
      (MacroCall.eval_mapWhere standard ranged apart tested computes)

/-! ### A list of three -/

/-- The meaning of booleans, integers and the operators of the expansions, where nothing else has
one. -/
def core : Meaning Empty where
  constant
    | .bool value => some (.bool value)
    | .int64 value => some (.int value.toInt)
    | _ => none
  select _ _ _ := none
  call
    | "_||_", [some (.bool first), some (.bool second)] => some (.bool (first || second))
    | "_&&_", [some (.bool first), some (.bool second)] => some (.bool (first && second))
    | "!_", [some (.bool value)] => some (.bool !value)
    | "@not_strictly_false", [some (.bool value)] => some (.bool value)
    | "_?_:_", [some (.bool test), first, second] => if test then first else second
    | "_==_", [some (.int first), some (.int second)] => some (.bool (decide (first = second)))
    | "_+_", [some (.int first), some (.int second)] => some (.int (first + second))
    | "_+_", [some (.list first), some (.list second)] => some (.list (first ++ second))
    | _, _ => none
  memberCall _ _ _ := none
  struct _ _ := none

theorem standard_core : core.Standard where
  bool _ := rfl
  int _ := rfl
  or _ _ := rfl
  and _ _ := rfl
  not _ := rfl
  notStrictlyFalse _ := rfl
  conditional _ _ _ := rfl
  equal _ _ := rfl
  addInt _ _ := rfl
  addList _ _ := rfl

/-- What `x == 2` computes. -/
def isTwo : Value Empty → Bool
  | .int value => decide (value = 2)
  | _ => false

/-- Of the list `[1, 2, 3]`, tested by `x == 2`: some but not every element and exactly one, which
the filter keeps. -/
theorem maybeExpand_eval_oneOfThree :
    let target : Expr :=
      .list 4 [.literal 1 (.int64 1), .literal 2 (.int64 2), .literal 3 (.int64 3)]
    let test : Expr := .call 8 "_==_" [.ident 6 "x", .literal 7 (.int64 2)]
    let value (function : String) : Option (Value Empty) :=
      ((maybeExpand 0 (.memberCall 9 target function [.ident 5 "x", test])).run {}).1.eval core
        fun _ => none
    value "exists" = some (.bool true) ∧ value "all" = some (.bool false) ∧
      value "exists_one" = some (.bool true) ∧ value "existsOne" = some (.bool true) ∧
      value "filter" = some (.list [.int 2]) ∧
      value "map" = some (.list [.bool false, .bool true, .bool false]) := by
  intro target test value
  have ranged : target.eval core (fun _ => none) = some (.list [.int 1, .int 2, .int 3]) := rfl
  have tests : MacroCall.Computes core (fun _ => none) "x" [.int 1, .int 2, .int 3] test
      fun element => .bool (isTwo element) := by
    refine ⟨Expr.ignores_of_not_mem_freeNames (by decide), fun element member => ?_⟩
    simp only [List.mem_cons, List.not_mem_nil, or_false] at member
    obtain rfl | rfl | rfl := member <;> rfl
  have apart : "x" ≠ accumulatorName := by decide
  obtain ⟨ofTests, ofMap⟩ := maybeExpand_eval standard_core {} 0 9 5 ranged apart
  obtain ⟨existsAny, all, existsOne, filter⟩ := ofTests test isTwo tests
  exact ⟨existsAny rfl, all rfl, (existsOne rfl).1, (existsOne rfl).2, filter rfl,
    (ofMap rfl).1 test _ tests⟩

end Builder

end CelTree
