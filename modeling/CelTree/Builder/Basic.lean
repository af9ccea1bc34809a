/-
**Builders.**

A builder numbers the nodes and entries of one tree from one on and records where each was
allocated.

* `Build`: a construction, which reads and advances a builder.
* `Builder.allocate`: the next id, placed at an offset.
* `Builder.literal` to `Builder.entry`: one constructor per kind of node and entry. Each allocates
  one id, after those of its parts.
-/

import CelTree.Options
import CelTree.SourceInfo

namespace CelTree

/-- The state of a construction. -/
structure Builder where
  options : Options := {}
  /-- The last id that was allocated, zero at the start. -/
  lastId : Int := 0
  info : SourceInfo := {}

instance : Inhabited Builder := ⟨{}⟩

/-- A construction, which reads and advances a builder. -/
abbrev Build := StateM Builder

namespace Builder

/-- The builder after one more id has been placed at an offset. -/
def advance (builder : Builder) (offset : Offset) : Builder :=
  { builder with
    lastId := builder.lastId + 1
    info := builder.info.recordPosition (builder.lastId + 1) offset }

/-- Allocates the next id at an offset. -/
def allocate (offset : Offset) : Build Int :=
  modifyGet fun builder => (builder.lastId + 1, builder.advance offset)

/-- The builder with the written call of a node on record. -/
def withMacroCall (builder : Builder) (id : Int) (call : Expr) : Builder :=
  { builder with info := builder.info.recordMacroCall id call }

/-- Records the written call of a node, if the options ask for it. -/
def recordCall (id : Int) (call : Expr) : Build Unit :=
  modify fun builder => if builder.options.recordCalls then builder.withMacroCall id call else builder

/-! ### Nodes and entries -/

/-- A literal node. -/
def literal (offset : Offset) (value : Constant) : Build Expr := do
  return .literal (← allocate offset) value

/-- An identifier. -/
def ident (offset : Offset) (name : String) : Build Expr := do
  return .ident (← allocate offset) name

/-- A field selection. -/
def select (offset : Offset) (operand : Expr) (field : String) : Build Expr := do
  return .select (← allocate offset) operand field false

/-- A global call, no macro. -/
def globalCall (offset : Offset) (function : String) (args : List Expr) : Build Expr := do
  return .call (← allocate offset) function args

/-- A member call, not yet expanded. -/
def receiverCall (offset : Offset) (target : Expr) (function : String) (args : List Expr) :
    Build Expr := do
  return .memberCall (← allocate offset) target function args

/-- A list. -/
def list (offset : Offset) (elements : List Expr) : Build Expr := do
  return .list (← allocate offset) elements

/-- A message, or a map if the message name is empty. -/
def struct (offset : Offset) (message : String) (entries : List Entry) : Build Expr := do
  return .struct (← allocate offset) message entries

/-- A fold over a range, with one iteration variable. -/
def comprehension (offset : Offset) (iterVar : String) (range : Expr) (accuVar : String)
    (init condition step result : Expr) : Build Expr := do
  return .comprehension (← allocate offset) iterVar "" range accuVar init condition step result

/-- An entry with a key that is an expression. -/
def mapEntry (offset : Offset) (key value : Expr) (optional : Bool) : Build Entry := do
  return .map (← allocate offset) key value optional

/-- An entry with a field name for a key. -/
def fieldEntry (offset : Offset) (name : String) (value : Expr) (optional : Bool) :
    Build Entry := do
  return .field (← allocate offset) name value optional

end Builder

end CelTree
