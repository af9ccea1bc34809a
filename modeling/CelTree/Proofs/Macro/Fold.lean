/-
**The folds of the macros, written out.**

`MacroCall.fold` is the fold that a macro call stands for as one tree, its new ids counted from a
base. Nothing about a template needs the order in which its construction takes ids but this one
equation.

* `expand_run`: an expansion results in the fold, and takes `MacroCall.size` ids.
-/

import CelTree.Proofs.Builder.Effect

namespace CelTree

namespace MacroCall

open Builder

/-- The ids that an expansion takes. -/
def size (call : MacroCall) : Nat :=
  match call.body with
  | .existsAny _ => 8
  | .all _ => 7
  | .existsOne _ => 11
  | .filter _ => 10
  | .map _ => 7
  | .mapWhere _ _ => 9

/-- The comprehension over the range of a call. -/
def overRange (call : MacroCall) (id : Int) (init condition step result : Expr) : Expr :=
  .comprehension id call.iterVar "" call.range accumulatorName init condition step result

/-- A read of the accumulator. -/
def accu (id : Int) : Expr := .ident id accumulatorName

/-- The fold of a macro call; its new ids are those after the base. -/
def fold (base : Int) (call : MacroCall) : Expr :=
  match call.body with
  | .existsAny test =>
    call.overRange (base + 8) (.literal (base + 6) (.bool false))
      (.call (base + 5) "@not_strictly_false" [.call (base + 4) "!_" [accu (base + 3)]])
      (.call (base + 2) "_||_" [accu (base + 1), test])
      (accu (base + 7))
  | .all test =>
    call.overRange (base + 7) (.literal (base + 5) (.bool true))
      (.call (base + 4) "@not_strictly_false" [accu (base + 3)])
      (.call (base + 2) "_&&_" [accu (base + 1), test])
      (accu (base + 6))
  | .existsOne test =>
    call.overRange (base + 11) (.literal (base + 1) (.int64 0))
      (.literal (base + 2) (.bool true))
      (.call (base + 7) "_?_:_"
        [test, .call (base + 5) "_+_" [accu (base + 3), .literal (base + 4) (.int64 1)],
          accu (base + 6)])
      (.call (base + 10) "_==_" [accu (base + 8), .literal (base + 9) (.int64 1)])
  | .filter test =>
    call.overRange (base + 10) (.list (base + 7) []) (.literal (base + 8) (.bool true))
      (.call (base + 6) "_?_:_"
        [test,
          .call (base + 4) "_+_"
            [accu (base + 1), .list (base + 3) [.ident (base + 2) call.iterVar]],
          accu (base + 5)])
      (accu (base + 9))
  | .map transform =>
    call.overRange (base + 7) (.list (base + 4) []) (.literal (base + 5) (.bool true))
      (.call (base + 3) "_+_" [accu (base + 1), .list (base + 2) [transform]])
      (accu (base + 6))
  | .mapWhere test transform =>
    call.overRange (base + 9) (.list (base + 6) []) (.literal (base + 7) (.bool true))
      (.call (base + 5) "_?_:_"
        [test, .call (base + 3) "_+_" [accu (base + 1), .list (base + 2) [transform]],
          accu (base + 4)])
      (accu (base + 8))

/-- A fold is a comprehension over the range of its call, with the last of the new ids. -/
theorem exists_fold_eq (base : Int) (call : MacroCall) :
    ∃ init condition step result,
      call.fold base = call.overRange (base + call.size) init condition step result := by
  obtain ⟨range, iterVar, body⟩ := call
  cases body <;> exact ⟨_, _, _, _, rfl⟩

theorem fold_id (base : Int) (call : MacroCall) : (call.fold base).id = base + call.size := by
  obtain ⟨init, condition, step, result, shape⟩ := call.exists_fold_eq base
  rw [shape]
  rfl

/-- **An expansion results in its fold and takes as many ids as the fold is said to take.** The
calls in a fold have names that no macro has, so none of them is expanded in turn. -/
theorem expand_run (offset : Offset) (call : MacroCall) (builder : Builder) :
    (call.expand offset).run builder =
      (call.fold builder.lastId, builder.advanceBy offset call.size) := by
  obtain ⟨range, iterVar, body⟩ := call
  cases body <;>
    simp (disch := decide) only [expand, expandExistsAny, expandAll, expandExistsOne, expandFilter, expandMap,
      expandMapWhere, boolFold, listFold, append, stepWhere, accumulator, Build.run_bind,
      Build.run_pure, literal_run, ident_run, call_run_of_unnamed, list_run, comprehension_run,
      advance_lastId, Int.add_assoc, Int.reduceAdd] <;>
    rfl

end MacroCall

end CelTree
