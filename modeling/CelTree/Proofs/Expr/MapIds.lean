/-
**Trees up to their ids.**

* `Expr.mapIds`, `Entry.mapIds`: a tree with every id replaced.
* `Expr.eraseIds`, `Entry.eraseIds`: a tree with every id zero. Trees that differ in nothing but ids
  are equal after it.
* `NodeOperation.mapParts`, `EntryOperation.mapParts`: a step with its parts replaced.
* `node_mapIds`: the node that a step writes over replaced ids.
-/

import CelTree.Proofs.Builder.Step

namespace CelTree

mutual

/-- The tree with every id replaced. -/
def Expr.mapIds (f : Int → Int) : Expr → Expr
  | .literal id value => .literal (f id) value
  | .ident id name => .ident (f id) name
  | .select id operand field testOnly => .select (f id) (operand.mapIds f) field testOnly
  | .call id function args => .call (f id) function (Expr.mapIdsAll f args)
  | .memberCall id target function args =>
    .memberCall (f id) (target.mapIds f) function (Expr.mapIdsAll f args)
  | .list id elements => .list (f id) (Expr.mapIdsAll f elements)
  | .struct id message entries => .struct (f id) message (Entry.mapIdsAll f entries)
  | .comprehension id iterVar iterVar2 range accuVar init condition step result =>
    .comprehension (f id) iterVar iterVar2 (range.mapIds f) accuVar (init.mapIds f)
      (condition.mapIds f) (step.mapIds f) (result.mapIds f)

/-- Several trees with every id replaced. -/
def Expr.mapIdsAll (f : Int → Int) : List Expr → List Expr
  | [] => []
  | first :: rest => first.mapIds f :: Expr.mapIdsAll f rest

/-- The entry with every id replaced. -/
def Entry.mapIds (f : Int → Int) : Entry → Entry
  | .map id key value optional => .map (f id) (key.mapIds f) (value.mapIds f) optional
  | .field id name value optional => .field (f id) name (value.mapIds f) optional

/-- Several entries with every id replaced. -/
def Entry.mapIdsAll (f : Int → Int) : List Entry → List Entry
  | [] => []
  | first :: rest => first.mapIds f :: Entry.mapIdsAll f rest

end

/-- The tree with every id zero. -/
def Expr.eraseIds (tree : Expr) : Expr := tree.mapIds fun _ => 0

/-- The entry with every id zero. -/
def Entry.eraseIds (entry : Entry) : Entry := entry.mapIds fun _ => 0

theorem Expr.mapIdsAll_eq (f : Int → Int) (trees : List Expr) :
    Expr.mapIdsAll f trees = trees.map (Expr.mapIds f) := by
  induction trees with
  | nil => rfl
  | cons first rest ih => rw [Expr.mapIdsAll, ih, List.map_cons]

theorem Entry.mapIdsAll_eq (f : Int → Int) (entries : List Entry) :
    Entry.mapIdsAll f entries = entries.map (Entry.mapIds f) := by
  induction entries with
  | nil => rfl
  | cons first rest ih => rw [Entry.mapIdsAll, ih, List.map_cons]

/-! ### Steps -/

/-- The step with its parts replaced. -/
def NodeOperation.mapParts {ν ε ν' ε' : Type} (nodeOf : ν → ν') (entryOf : ε → ε') :
    NodeOperation ν ε → NodeOperation ν' ε'
  | .literal source => .literal source
  | .ident name => .ident name
  | .select operand field => .select (nodeOf operand) field
  | .call function args => .call function (args.map nodeOf)
  | .memberCall target function args => .memberCall (nodeOf target) function (args.map nodeOf)
  | .operatorCall operator args => .operatorCall operator (args.map nodeOf)
  | .index operand subscript => .index (nodeOf operand) (nodeOf subscript)
  | .list elements => .list (elements.map nodeOf)
  | .struct message entries => .struct message (entries.map entryOf)

/-- The step with its parts replaced. -/
def EntryOperation.mapParts {ν ν' : Type} (nodeOf : ν → ν') : EntryOperation ν → EntryOperation ν'
  | .map key value optional => .map (nodeOf key) (nodeOf value) optional
  | .field name value optional => .field name (nodeOf value) optional

/-- A step over replaced ids writes the node that it writes otherwise, with its ids replaced. -/
theorem NodeOperation.node_mapIds (f : Int → Int) (operation : NodeOperation Expr Entry)
    (id : Int) :
    (operation.mapParts (Expr.mapIds f) (Entry.mapIds f)).node (f id) =
      (operation.node id).map (Expr.mapIds f) := by
  cases operation with
  | literal source =>
    rw [mapParts, node, node]
    cases source.value with
    | ok value => rfl
    | error reason => rfl
  | _ =>
    simp only [mapParts, node, Except.map, Expr.mapIds, Expr.mapIdsAll_eq, Entry.mapIdsAll_eq,
      List.map_cons, List.map_nil]

theorem EntryOperation.entry_mapIds (f : Int → Int) (operation : EntryOperation Expr) (id : Int) :
    (operation.mapParts (Expr.mapIds f)).entry (f id) = (operation.entry id).mapIds f := by
  cases operation <;> rfl

end CelTree
