/-
**Equality of trees.**

* `Expr.equal`, `Entry.equal`: equal ids, names, flags and parts, where constants compare by value.
  A tree that holds a NaN differs from itself.
-/

import CelTree.Expr.Basic

namespace CelTree

mutual

/-- Equality of trees, ids included. -/
def Expr.equal : Expr → Expr → Bool
  | .literal id value, .literal id' value' => id == id' && value.equal value'
  | .ident id name, .ident id' name' => id == id' && name == name'
  | .select id operand field testOnly, .select id' operand' field' testOnly' =>
    id == id' && operand.equal operand' && field == field' && testOnly == testOnly'
  | .call id function args, .call id' function' args' =>
    id == id' && function == function' && Expr.equalAll args args'
  | .memberCall id target function args, .memberCall id' target' function' args' =>
    id == id' && target.equal target' && function == function' && Expr.equalAll args args'
  | .list id elements, .list id' elements' => id == id' && Expr.equalAll elements elements'
  | .struct id message entries, .struct id' message' entries' =>
    id == id' && message == message' && Entry.equalAll entries entries'
  | .comprehension id iterVar iterVar2 range accuVar init condition step result,
    .comprehension id' iterVar' iterVar2' range' accuVar' init' condition' step' result' =>
    id == id' && iterVar == iterVar' && iterVar2 == iterVar2' && range.equal range' &&
      accuVar == accuVar' && init.equal init' && condition.equal condition' &&
      step.equal step' && result.equal result'
  | _, _ => false

/-- Equality of lists of trees. -/
def Expr.equalAll : List Expr → List Expr → Bool
  | [], [] => true
  | first :: rest, first' :: rest' => first.equal first' && Expr.equalAll rest rest'
  | _, _ => false

/-- Equality of entries, ids included. -/
def Entry.equal : Entry → Entry → Bool
  | .map id key value optional, .map id' key' value' optional' =>
    id == id' && key.equal key' && value.equal value' && optional == optional'
  | .field id name value optional, .field id' name' value' optional' =>
    id == id' && name == name' && value.equal value' && optional == optional'
  | _, _ => false

/-- Equality of lists of entries. -/
def Entry.equalAll : List Entry → List Entry → Bool
  | [], [] => true
  | first :: rest, first' :: rest' => first.equal first' && Entry.equalAll rest rest'
  | _, _ => false

end

end CelTree
