/-
**Integer literals.**

A numeral is decimal, or hexadecimal after `0x` or `0X`. Signed literals may start with one minus
sign. Magnitudes of any length are computed in signed words of 128 bits; one that does not fit is out
of every range.

* `readMagnitude`: the word of a numeral without sign.
* `readInt64`, `readUint64`: the value if it is in range; the errors quote the whole literal.
-/

import CelTree.Literal.Error

namespace CelTree.Literal

open Text

/-! ### Wide words -/

/-- A signed word of 128 bits. -/
abbrev Wide := BitVec 128

namespace Wide

/-- The word of an integer, if it fits. -/
def ofInt? (value : Int) : Option Wide :=
  if -Nat.pow 2 127 ≤ value ∧ value < Nat.pow 2 127 then some (BitVec.ofInt 128 value) else none

/-- The word with one more digit at its end. Both the product and the sum have to fit. -/
def append (base : Nat) (word : Wide) (digit : Nat) : Option Wide := do
  let scaled ← ofInt? (word.toInt * base)
  ofInt? (scaled.toInt + digit)

/-- The word of a digit sequence, most significant first. -/
def ofDigits? (base : Nat) (digits : List Char) : Option Wide :=
  digits.foldlM (fun word c => append base word ((digitValue c).getD 0)) 0

end Wide

/-! ### Numerals -/

/-- The base of a numeral and its digits. -/
def splitBase : List Char → Nat × List Char
  | '0' :: 'x' :: digits => (16, digits)
  | '0' :: 'X' :: digits => (16, digits)
  | digits => (10, digits)

/-- The magnitude of a numeral that stands in the given literal. -/
def readMagnitude (literal : String) (numeral : List Char) : Except LiteralError Wide :=
  let (base, digits) := splitBase numeral
  if digits ≠ [] ∧ digits.all (isDigitOf base) then
    match Wide.ofDigits? base digits with
    | some magnitude => .ok magnitude
    | none => .error (.integerRange literal)
  else .error (.malformed literal)

/-- The sign of a literal and the numeral behind it. -/
def splitMinus : List Char → Bool × List Char
  | '-' :: numeral => (true, numeral)
  | numeral => (false, numeral)

/-- The value of a signed 64-bit literal. -/
def readInt64 (literal : String) : Except LiteralError Int64 := do
  let (negative, numeral) := splitMinus literal.toList
  let magnitude ← readMagnitude literal numeral
  let value := if negative then -magnitude else magnitude
  if -0x8000000000000000 ≤ value.toInt ∧ value.toInt < 0x8000000000000000 then
    return Int64.ofInt value.toInt
  else throw (.integerRange literal)

/-- The literal starts with a sign. -/
def isSigned : List Char → Bool
  | '-' :: _ => true
  | '+' :: _ => true
  | _ => false

/-- The value of an unsigned 64-bit literal. -/
def readUint64 (literal : String) : Except LiteralError UInt64 := do
  if isSigned literal.toList then throw (.malformed literal)
  let magnitude ← readMagnitude literal literal.toList
  if 0 ≤ magnitude.toInt ∧ magnitude.toInt < 0x10000000000000000 then
    return UInt64.ofNat magnitude.toInt.toNat
  else throw (.integerRange literal)

end CelTree.Literal
