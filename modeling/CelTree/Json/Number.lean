/-
**Numbers of a document.**

* `isNumber`: the spellings of JSON numbers.
* `readInteger`: the integer of a spelling without fraction and exponent. Minus zero is no
  integer, since it has a sign that an integer cannot keep.
* `readDouble`: the double of a spelling, by a significand of 64 bits that is rounded and then scaled
  by a power of ten, with a rounding each time. It need not be the nearest double.
* `toDouble`, `ofDouble`: doubles, for any way to read a spelling. Spellings beyond the largest double
  are refused; what is not finite is written as `null`.
-/

import CelTree.Double.Layout
import CelTree.Double.Reader
import CelTree.Json.Basic

namespace CelTree.Json

open CelTree.Text

/-! ### Spellings -/

/-- The whole part of a number: digits without a leading zero, or a single zero. -/
def isWhole : List Char → Bool
  | ['0'] => true
  | '0' :: _ => false
  | digits => digits != [] && digits.all (isDigitOf 10)

/-- The exponent of a number: a letter, an optional sign, and digits. -/
def isExponent : List Char → Bool
  | [] => true
  | mark :: rest =>
    (mark == 'e' || mark == 'E') &&
      match rest with
      | '+' :: digits => digits != [] && digits.all (isDigitOf 10)
      | '-' :: digits => digits != [] && digits.all (isDigitOf 10)
      | digits => digits != [] && digits.all (isDigitOf 10)

/-- What may follow the whole part: a point with digits, and an exponent. -/
def isTail : List Char → Bool
  | '.' :: rest =>
    rest.takeWhile (isDigitOf 10) != [] && isExponent (rest.dropWhile (isDigitOf 10))
  | rest => isExponent rest

/-- A number without its sign. -/
def isUnsigned (spelling : List Char) : Bool :=
  isWhole (spelling.takeWhile (isDigitOf 10)) && isTail (spelling.dropWhile (isDigitOf 10))

/-- The spelling of a number. -/
def isNumber : List Char → Bool
  | '-' :: rest => isUnsigned rest
  | spelling => isUnsigned spelling

/-! ### Integers -/

/-- The integer of a spelling. -/
def readInteger : List Char → Option Int
  | '-' :: digits =>
    if isWhole digits ∧ digits ≠ ['0'] then some (-(numeralValue 10 digits : Int)) else none
  | digits => if isWhole digits then some (numeralValue 10 digits : Int) else none

/-- The integer of a number. -/
def toInteger : Json → Option Int
  | .number spelling => readInteger spelling
  | _ => none

/-- The integer of a number, if it is at least `low` and below `high`. -/
def toIntegerWithin (low high : Int) (json : Json) : Option Int :=
  json.toInteger.filter fun value => low ≤ value && value < high

/-- A signed 64-bit integer. -/
def toInt64 (json : Json) : Option Int :=
  json.toIntegerWithin (-0x8000000000000000) 0x8000000000000000

/-- An unsigned 64-bit integer. -/
def toUInt64 (json : Json) : Option UInt64 :=
  (json.toIntegerWithin 0 0x10000000000000000).map fun value => UInt64.ofNat value.toNat

/-- A signed 32-bit integer. -/
def toInt32 (json : Json) : Option Int32 :=
  (json.toIntegerWithin (-0x80000000) 0x80000000).map Int32.ofInt

/-- A byte. -/
def toByte (json : Json) : Option UInt8 :=
  (json.toIntegerWithin 0 0x100).map fun value => UInt8.ofNat value.toNat

/-- A number with the given integer value. -/
def ofInteger (value : Int) : Json := .number (writeInteger value)

/-! ### Doubles -/

/-- The significand that digits extend as long as it stays below `2 ^ 64`, and the number of digits
taken. -/
def takeDigits (significand : Nat) : List Char → Nat × Nat
  | [] => (significand, 0)
  | c :: rest =>
    let longer := significand * 10 + (digitValue c).getD 0
    if longer < Nat.pow 2 64 then
      let (last, taken) := takeDigits longer rest
      (last, taken + 1)
    else (significand, 0)

/-- The greatest power of ten by which a double is scaled at once. -/
def greatestPower : Nat := 308

/-- The magnitude times a power of ten, rounded. -/
def timesPower (magnitude power : Nat) : Nat :=
  nearestMagnitude (Double.units magnitude * Double.units (Decimal.toMagnitude ⟨1, power⟩))
    (Nat.pow 2 1074)

/-- The magnitude over a power of ten, rounded. -/
def overPower (magnitude power : Nat) : Nat :=
  nearestMagnitude (Double.units magnitude * Nat.pow 2 1074)
    (Double.units (Decimal.toMagnitude ⟨1, power⟩))

/-- The magnitude over any power of ten, rounded after each division. -/
def scaleDown (magnitude power : Nat) : Nat :=
  if power ≤ greatestPower then overPower magnitude power
  else if magnitude = 0 then 0
  else scaleDown (overPower magnitude greatestPower) (power - greatestPower)
termination_by power
decreasing_by
  rw [greatestPower] at *
  omega

/-- The magnitude scaled by a power of ten. What is too great is refused. -/
def scale (magnitude : Nat) (exponent : Int) : Option Nat :=
  if exponent < 0 then some (scaleDown magnitude exponent.natAbs)
  else if exponent ≤ greatestPower then
    let scaled := timesPower magnitude exponent.natAbs
    if scaled < Double.infinity then some scaled else none
  else if magnitude = 0 then some 0
  else none

/-- The double of a spelling. The digits of the whole part and then those of the fraction go into
the significand; from the first one of a part that does not fit, the digits of that part count as
zeros. -/
def readDouble (spelling : List Char) : Option Double := do
  let (negative, body) := Double.splitSign spelling
  let whole := body.takeWhile (isDigitOf 10)
  let (fraction, rest) := Decimal.splitFraction (body.dropWhile (isDigitOf 10))
  let (leading, taken) := takeDigits 0 whole
  let (significand, places) := takeDigits leading fraction
  let exponent := (whole.length - taken : Int) - places + (← Decimal.readExponent rest)
  let magnitude ← scale (Decimal.toMagnitude ⟨significand, 0⟩) exponent
  return .ofMagnitude negative magnitude

/-- Doubles of a document are positional while the leading digit's exponent is between -5 and 15,
always with a fraction; beyond, the exponent is written bare. -/
def doubleLayout : DecimalLayout :=
  ⟨fun leading => -5 ≤ leading && leading < 16, ['.', '0'], writeInteger⟩

/-- A number with the value of a double. -/
def ofDouble (value : Double) : Json :=
  if value.isFinite then .number (value.writeFinite doubleLayout .even) else .null

/-- The double of a number, as its spelling is read. -/
def toDouble (read : List Char → Option Double) : Json → Option Double
  | .number spelling => (read spelling).filter Double.isFinite
  | _ => none

end CelTree.Json
