/-
**Plans.**

A plan is a tree whose construction waits: offsets, names and literals as written, and no ids.

* `Plan`, `PlanEntry`: the plans of nodes and entries.
* `Plan.ofOperation`, `PlanEntry.ofOperation`: a step over plans as a plan.
* `Plan.equal`: equality, offsets included.
-/

import CelTree.Builder.Operation

namespace CelTree

mutual

/-- A node whose construction waits. -/
inductive Plan
  | literal (offset : Offset) (source : Literal)
  | ident (offset : Offset) (name : String)
  | select (offset : Offset) (operand : Plan) (field : String)
  | call (offset : Offset) (function : String) (args : List Plan)
  | memberCall (offset : Offset) (target : Plan) (function : String) (args : List Plan)
  | operatorCall (offset : Offset) (operator : String) (args : List Plan)
  | index (offset : Offset) (operand subscript : Plan)
  | list (offset : Offset) (elements : List Plan)
  | struct (offset : Offset) (message : String) (entries : List PlanEntry)

/-- An entry whose construction waits. -/
inductive PlanEntry
  | map (offset : Offset) (key value : Plan) (optional : Bool)
  | field (offset : Offset) (name : String) (value : Plan) (optional : Bool)

end

instance : Inhabited Plan := ⟨.literal 0 .null⟩

instance : Inhabited PlanEntry := ⟨.field 0 "" default false⟩

namespace Plan

/-- The offset of a planned node. -/
def offset : Plan → Offset
  | .literal offset _ => offset
  | .ident offset _ => offset
  | .select offset _ _ => offset
  | .call offset _ _ => offset
  | .memberCall offset _ _ _ => offset
  | .operatorCall offset _ _ => offset
  | .index offset _ _ => offset
  | .list offset _ => offset
  | .struct offset _ _ => offset

/-- A step over plans, itself planned. -/
def ofOperation (offset : Offset) : NodeOperation Plan PlanEntry → Plan
  | .literal source => .literal offset source
  | .ident name => .ident offset name
  | .select operand field => .select offset operand field
  | .call function args => .call offset function args
  | .memberCall target function args => .memberCall offset target function args
  | .operatorCall operator args => .operatorCall offset operator args
  | .index operand subscript => .index offset operand subscript
  | .list elements => .list offset elements
  | .struct message entries => .struct offset message entries

end Plan

/-- A step over plans, itself planned. -/
def PlanEntry.ofOperation (offset : Offset) : EntryOperation Plan → PlanEntry
  | .map key value optional => .map offset key value optional
  | .field name value optional => .field offset name value optional

mutual

/-- Equality of plans, offsets included. -/
def Plan.equal : Plan → Plan → Bool
  | .literal offset source, .literal offset' source' => offset == offset' && source == source'
  | .ident offset name, .ident offset' name' => offset == offset' && name == name'
  | .select offset operand field, .select offset' operand' field' =>
    offset == offset' && operand.equal operand' && field == field'
  | .call offset function args, .call offset' function' args' =>
    offset == offset' && function == function' && Plan.equalAll args args'
  | .memberCall offset target function args, .memberCall offset' target' function' args' =>
    offset == offset' && target.equal target' && function == function' && Plan.equalAll args args'
  | .operatorCall offset operator args, .operatorCall offset' operator' args' =>
    offset == offset' && operator == operator' && Plan.equalAll args args'
  | .index offset operand subscript, .index offset' operand' subscript' =>
    offset == offset' && operand.equal operand' && subscript.equal subscript'
  | .list offset elements, .list offset' elements' =>
    offset == offset' && Plan.equalAll elements elements'
  | .struct offset message entries, .struct offset' message' entries' =>
    offset == offset' && message == message' && PlanEntry.equalAll entries entries'
  | _, _ => false

/-- Equality of lists of plans. -/
def Plan.equalAll : List Plan → List Plan → Bool
  | [], [] => true
  | first :: rest, first' :: rest' => first.equal first' && Plan.equalAll rest rest'
  | _, _ => false

/-- Equality of planned entries, offsets included. -/
def PlanEntry.equal : PlanEntry → PlanEntry → Bool
  | .map offset key value optional, .map offset' key' value' optional' =>
    offset == offset' && key.equal key' && value.equal value' && optional == optional'
  | .field offset name value optional, .field offset' name' value' optional' =>
    offset == offset' && name == name' && value.equal value' && optional == optional'
  | _, _ => false

/-- Equality of lists of planned entries. -/
def PlanEntry.equalAll : List PlanEntry → List PlanEntry → Bool
  | [], [] => true
  | first :: rest, first' :: rest' => first.equal first' && PlanEntry.equalAll rest rest'
  | _, _ => false

end

end CelTree
