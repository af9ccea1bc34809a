/-
**Operations of a builder.**

* `NodeOperation`, `EntryOperation`: one step of a construction over parts that are given as trees,
  as plans or by reference.
* `NodeOperation.perform`, `EntryOperation.perform`: the step on trees. Only a refused literal
  fails, and it leaves the builder as it was.
-/

import CelTree.Builder.Expansion
import CelTree.Literal.Basic

namespace CelTree

/-- A construction that a refused literal can stop. What was built before stays built. -/
abbrev Attempt := ExceptT BuildError Build

/-- A step that results in a node. Its parts are nodes `ν` and entries `ε`. -/
inductive NodeOperation (ν ε : Type)
  | literal (source : Literal)
  | ident (name : String)
  | select (operand : ν) (field : String)
  | call (function : String) (args : List ν)
  | memberCall (target : ν) (function : String) (args : List ν)
  /-- The call of an operator between its operands. -/
  | operatorCall (operator : String) (args : List ν)
  | index (operand subscript : ν)
  | list (elements : List ν)
  | struct (message : String) (entries : List ε)

/-- A step that results in an entry. -/
inductive EntryOperation (ν : Type)
  | map (key value : ν) (optional : Bool)
  | field (name : String) (value : ν) (optional : Bool)

namespace Builder

/-- A member call; a macro is expanded. The call takes its id first. -/
def memberCall (offset : Offset) (target : Expr) (function : String) (args : List Expr) :
    Build Expr := do
  maybeExpand offset (← receiverCall offset target function args)

/-- The function of an operator: `@in` for membership, the operator between underscores
otherwise. -/
def operatorFunction (operator : String) : String :=
  if operator = "in" then "@in" else "_" ++ operator ++ "_"

/-- The function of an index expression. -/
def indexFunction : String := "_[_]"

end Builder

namespace NodeOperation

/-- Performs a step at an offset. -/
def perform (offset : Offset) : NodeOperation Expr Entry → Attempt Expr
  | .literal source =>
    match source.value with
    | .ok value => Builder.literal offset value
    | .error reason => throw ⟨offset, reason⟩
  | .ident name => Builder.ident offset name
  | .select operand field => Builder.select offset operand field
  | .call function args => Builder.call offset function args
  | .memberCall target function args => Builder.memberCall offset target function args
  | .operatorCall operator args => Builder.call offset (Builder.operatorFunction operator) args
  | .index operand subscript => Builder.call offset Builder.indexFunction [operand, subscript]
  | .list elements => Builder.list offset elements
  | .struct message entries => Builder.struct offset message entries

end NodeOperation

namespace EntryOperation

/-- Performs a step at an offset. -/
def perform (offset : Offset) : EntryOperation Expr → Build Entry
  | .map key value optional => Builder.mapEntry offset key value optional
  | .field name value optional => Builder.fieldEntry offset name value optional

end EntryOperation

end CelTree
