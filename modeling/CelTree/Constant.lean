/-
**Constants.**

The values a literal node holds, and the tag that names the kind of each.
-/

import CelTree.Double.Basic

namespace CelTree

/-- The value of a literal node. -/
inductive Constant
  | null
  | bool (value : Bool)
  | int64 (value : Int64)
  | uint64 (value : UInt64)
  | double (value : Double)
  | string (value : String)
  | bytes (value : List UInt8)
deriving DecidableEq, Repr, Inhabited

namespace Constant

/-- The tag of a constant's kind. -/
def kind : Constant → String
  | .null => "*expr.Constant_NullValue"
  | .bool _ => "*expr.Constant_BoolValue"
  | .int64 _ => "*expr.Constant_Int64Value"
  | .uint64 _ => "*expr.Constant_Uint64Value"
  | .double _ => "*expr.Constant_DoubleValue"
  | .string _ => "*expr.Constant_StringValue"
  | .bytes _ => "*expr.Constant_BytesValue"

/-- Equality of constants, where doubles compare by value: a NaN differs from itself and the two
zeros agree. -/
def equal : Constant → Constant → Bool
  | .double x, .double y => x.equal y
  | x, y => x == y

end Constant

end CelTree
