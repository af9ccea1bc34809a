/-
**Literals as written.**

* `Literal`: a literal before its value is known.
* `Literal.value`: its constant, or why it has none.
-/

import CelTree.Constant
import CelTree.Double.Reader
import CelTree.Literal.Fragment
import CelTree.Literal.Integer

namespace CelTree

/-- A literal as it was written. -/
inductive Literal
  | null
  | bool (value : Bool)
  | int64 (digits : String)
  | uint64 (digits : String)
  | double (digits : String)
  | string (fragments : List Fragment)
  | bytes (fragments : List Fragment)
deriving DecidableEq, Repr

namespace Literal

/-- The boolean literal of a keyword: every word but `true` is false. -/
def ofKeyword (keyword : String) : Literal := .bool (keyword == "true")

/-- The value of a double literal. -/
def readDouble (literal : String) : Except LiteralError Double :=
  match Double.read literal.toList with
  | some value => .ok value
  | none => .error (.malformed literal)

/-- The constant that a literal stands for. -/
def value : Literal → Except LiteralError Constant
  | .null => .ok .null
  | .bool value => .ok (.bool value)
  | .int64 digits => (readInt64 digits).map .int64
  | .uint64 digits => (readUint64 digits).map .uint64
  | .double digits => (readDouble digits).map .double
  | .string fragments => (assembleString fragments).map .string
  | .bytes fragments => (assembleBytes fragments).map .bytes

end Literal

end CelTree
