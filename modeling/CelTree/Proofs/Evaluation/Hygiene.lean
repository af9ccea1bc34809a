/-
**Macro calls and the scope of names.**

A macro call binds its iteration variable in its arguments, and the accumulator, whose name is
reserved. What it becomes has no other free names than the call, and keeps all of them.

* `MacroCall.mem_freeNames_fold`: the names that are free in a fold.
* **`Builder.mem_freeNames_maybeExpand`** — the names that are free in what a macro call becomes.
* `Builder.maybeExpand_binds_accumulator`: an argument that reads the accumulator's name reads the
  accumulator.
-/

import CelTree.Proofs.Builder.Step
import CelTree.Proofs.Evaluation.Scope
import CelTree.Proofs.Expr.Nodes

namespace CelTree

namespace MacroCall

/-- The names that are free in a fold over the range of a call. -/
theorem mem_freeNames_overRange {name : String} (call : MacroCall) (id : Int)
    (init condition step result : Expr) :
    name ∈ (call.overRange id init condition step result).freeNames ↔
      (name ∈ call.range.freeNames ∨ name ∈ init.freeNames) ∨
        ((name ∈ condition.freeNames ∨ name ∈ step.freeNames) ∧ name ≠ call.iterVar ∨
          name ∈ result.freeNames) ∧ name ≠ accumulatorName :=
  Expr.mem_freeNames_comprehension ..

/-- **The free names of a fold** are those of the range of its call, and those of the arguments
apart from the iteration variable and the accumulator. -/
theorem mem_freeNames_fold (base : Int) (call : MacroCall) (name : String) :
    name ∈ (call.fold base).freeNames ↔ name ∈ call.range.freeNames ∨
      (∃ arg ∈ call.body.args, name ∈ arg.freeNames) ∧
        name ≠ call.iterVar ∧ name ≠ accumulatorName := by
  obtain ⟨range, iterVar, body⟩ := call
  cases body <;>
    simp only [fold, mem_freeNames_overRange, MacroBody.args, accu, Expr.freeNames,
      Expr.freeNamesAll, List.mem_append, List.mem_cons, List.not_mem_nil] <;>
    grind

end MacroCall

namespace Builder

/-- **What a macro call becomes respects scopes.** If a builder turns a member call into a
comprehension, the first argument of the call is an identifier. A name is then free in the
comprehension exactly if it is free in the target, or if it is free in one of the other arguments
and is neither that identifier nor the accumulator. -/
theorem mem_freeNames_maybeExpand {builder : Builder} {offset : Offset} {id : Int} {target : Expr}
    {function : String} {args : List Expr}
    (folds : ((maybeExpand offset (.memberCall id target function args)).run
      builder).1.isComprehension = true) :
    ∃ variableId iterVar bodies, args = .ident variableId iterVar :: bodies ∧
      ∀ name, name ∈ ((maybeExpand offset (.memberCall id target function args)).run
          builder).1.freeNames ↔
        name ∈ target.freeNames ∨
          (∃ body ∈ bodies, name ∈ body.freeNames) ∧ name ≠ iterVar ∧ name ≠ accumulatorName := by
  rw [maybeExpand_run] at folds ⊢
  cases recognized : MacroCall.recognize builder.options (.memberCall id target function args) with
  | none =>
    rw [recognized] at folds
    cases folds
  | some found =>
    obtain ⟨id', function', variableId, same⟩ := MacroCall.recognize_eq_some recognized
    obtain ⟨-, rfl, -, rfl⟩ := Expr.memberCall.inj same
    exact ⟨variableId, found.iterVar, found.body.args, rfl, found.mem_freeNames_fold builder.lastId⟩

/-- In `xs.map(x, ys.exists(y, x == y))` the names `xs` and `ys` are free, but neither variable. -/
theorem mem_freeNames_maybeExpand_nested :
    let expanded (call : Expr) : Expr := ((maybeExpand 0 call).run {}).1
    let test : Expr := .call 6 "_==_" [.ident 4 "x", .ident 5 "y"]
    let inner := expanded (.memberCall 7 (.ident 2 "ys") "exists" [.ident 3 "y", test])
    let outer := expanded (.memberCall 9 (.ident 1 "xs") "map" [.ident 8 "x", inner])
    outer.isComprehension = true ∧ "xs" ∈ outer.freeNames ∧ "ys" ∈ outer.freeNames ∧
      "x" ∉ outer.freeNames ∧ "y" ∉ outer.freeNames := by
  intro expanded test inner outer
  have folds : outer.isComprehension = true := rfl
  obtain ⟨variableId, iterVar, bodies, same, free⟩ := mem_freeNames_maybeExpand folds
  cases same
  refine ⟨folds, (free "xs").mpr (.inl (by decide)),
    (free "ys").mpr (.inr ⟨⟨inner, List.mem_cons_self, by decide⟩, by decide, by decide⟩),
    fun captured => ?_, fun leaked => ?_⟩
  · rcases (free "x").mp captured with inTarget | ⟨-, apart, -⟩
    · exact absurd inTarget (by decide)
    · exact apart rfl
  · rcases (free "y").mp leaked with inTarget | ⟨⟨body, given, inBody⟩, -, -⟩
    · exact absurd inTarget (by decide)
    · obtain rfl := List.mem_singleton.mp given
      exact absurd inBody (by decide)

/-- The test of `xs.exists(v, __result__)` reads a name that the call binds: the name is free in the
test and differs from the iteration variable, but it is not free in what becomes of the call. -/
theorem maybeExpand_binds_accumulator :
    let test : Expr := .ident 3 accumulatorName
    let result := ((maybeExpand 0
      (.memberCall 4 (.ident 1 "xs") "exists" [.ident 2 "v", test])).run {}).1
    result.isComprehension = true ∧
      ¬ (accumulatorName ∈ result.freeNames ↔ accumulatorName ∈ (Expr.ident 1 "xs").freeNames ∨
        accumulatorName ∈ test.freeNames ∧ accumulatorName ≠ "v") := by
  decide

end Builder

end CelTree
