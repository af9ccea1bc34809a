/-
**The ids of a tree.**

* `Expr.ids`, `Entry.ids`: all ids in pre-order, an entry before its key and its value.
* `Expr.idsAll_eq`, `Entry.idsAll_eq`: the ids of a list are those of its members, one after the
  other.
-/

import CelTree.Expr.Basic

namespace CelTree

mutual

/-- The ids of a tree in pre-order. -/
def Expr.ids : Expr → List Int
  | .literal id _ => [id]
  | .ident id _ => [id]
  | .select id operand _ _ => id :: operand.ids
  | .call id _ args => id :: Expr.idsAll args
  | .memberCall id target _ args => id :: (target.ids ++ Expr.idsAll args)
  | .list id elements => id :: Expr.idsAll elements
  | .struct id _ entries => id :: Entry.idsAll entries
  | .comprehension id _ _ range _ init condition step result =>
    id :: (range.ids ++ init.ids ++ condition.ids ++ step.ids ++ result.ids)

/-- The ids of several trees. -/
def Expr.idsAll : List Expr → List Int
  | [] => []
  | first :: rest => first.ids ++ Expr.idsAll rest

/-- The ids of an entry: its own, then those of its key and of its value. -/
def Entry.ids : Entry → List Int
  | .map id key value _ => id :: (key.ids ++ value.ids)
  | .field id _ value _ => id :: value.ids

/-- The ids of several entries. -/
def Entry.idsAll : List Entry → List Int
  | [] => []
  | first :: rest => first.ids ++ Entry.idsAll rest

end

theorem Expr.idsAll_eq (trees : List Expr) : Expr.idsAll trees = trees.flatMap Expr.ids := by
  induction trees with
  | nil => rfl
  | cons first rest ih => rw [Expr.idsAll, ih, List.flatMap_cons]

theorem Entry.idsAll_eq (entries : List Entry) :
    Entry.idsAll entries = entries.flatMap Entry.ids := by
  induction entries with
  | nil => rfl
  | cons first rest ih => rw [Entry.idsAll, ih, List.flatMap_cons]

end CelTree
