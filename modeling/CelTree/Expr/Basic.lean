/-
**Expression trees.**

Every node and every entry has an id, an integer; builders count from one. A struct with an empty
message name is a map.

* `Expr`, `Entry`: the trees.
* `Expr.id`, `Expr.kind`: the id of a node and the tag of its kind.
-/

import CelTree.Constant

namespace CelTree

mutual

/-- A node of an expression tree. -/
inductive Expr
  | literal (id : Int) (value : Constant)
  | ident (id : Int) (name : String)
  /-- A field of the operand; `testOnly` asks whether the field is set. -/
  | select (id : Int) (operand : Expr) (field : String) (testOnly : Bool)
  | call (id : Int) (function : String) (args : List Expr)
  | memberCall (id : Int) (target : Expr) (function : String) (args : List Expr)
  | list (id : Int) (elements : List Expr)
  | struct (id : Int) (message : String) (entries : List Entry)
  /-- A fold over `range`: the accumulator starts as `init`, takes the value of `step` for each
  element while `condition` holds, and `result` is the value of the whole. -/
  | comprehension (id : Int) (iterVar iterVar2 : String) (range : Expr) (accuVar : String)
      (init condition step result : Expr)

/-- An entry of a map or of a message. -/
inductive Entry
  | map (id : Int) (key value : Expr) (optional : Bool)
  | field (id : Int) (name : String) (value : Expr) (optional : Bool)

end

instance : Inhabited Expr := ⟨.literal 0 .null⟩

instance : Inhabited Entry := ⟨.field 0 "" default false⟩

namespace Expr

/-- The id of a node. -/
def id : Expr → Int
  | .literal id _ => id
  | .ident id _ => id
  | .select id _ _ _ => id
  | .call id _ _ => id
  | .memberCall id _ _ _ => id
  | .list id _ => id
  | .struct id _ _ => id
  | .comprehension id _ _ _ _ _ _ _ _ => id

/-- The tag of a node's kind; a literal has the tag of its constant. -/
def kind : Expr → String
  | .literal _ value => value.kind
  | .ident _ _ => "*expr.Expr_IdentExpr"
  | .select _ _ _ _ => "*expr.Expr_SelectExpr"
  | .call _ _ _ => "*expr.Expr_CallExpr"
  | .memberCall _ _ _ _ => "*expr.Expr_CallExpr"
  | .list _ _ => "*expr.Expr_ListExpr"
  | .struct _ _ _ => "*expr.Expr_StructExpr"
  | .comprehension _ _ _ _ _ _ _ _ _ => "*expr.Expr_ComprehensionExpr"

/-- A field selection. -/
def isSelect : Expr → Bool
  | .select _ _ _ _ => true
  | _ => false

end Expr

namespace Entry

/-- The id of an entry. -/
def id : Entry → Int
  | .map id _ _ _ => id
  | .field id _ _ _ => id

/-- The tag of every entry. -/
def kind : String := "*expr.Expr_CreateStruct_Entry"

/-- The value of an entry. -/
def value : Entry → Expr
  | .map _ _ value _ => value
  | .field _ _ value _ => value

/-- Set only if its value is present. -/
def optional : Entry → Bool
  | .map _ _ _ optional => optional
  | .field _ _ _ optional => optional

end Entry

end CelTree
