/-
**Numerals in base ten and sixteen.**

* `readNumeral`: the value of a non-empty digit sequence, `none` if a character is no digit.
* `writeDecimal`, `writeInteger`: the shortest decimal numeral of a number.
* `hexDigits`: hexadecimal digits of a fixed width, lower case.
-/

namespace CelTree.Text

/-! ### Reading -/

/-- The value of a digit: ASCII digits, then ASCII letters of either case from ten on. -/
def digitValue (c : Char) : Option Nat :=
  if '0' ≤ c ∧ c ≤ '9' then some (c.toNat - '0'.toNat)
  else if 'a' ≤ c ∧ c ≤ 'z' then some (c.toNat - 'a'.toNat + 10)
  else if 'A' ≤ c ∧ c ≤ 'Z' then some (c.toNat - 'A'.toNat + 10)
  else none

/-- A digit of the given base. -/
def isDigitOf (base : Nat) (c : Char) : Bool :=
  match digitValue c with
  | some value => value < base
  | none => false

/-- The value of a digit sequence, most significant first. -/
def numeralValue (base : Nat) (digits : List Char) : Nat :=
  digits.foldl (fun value c => value * base + (digitValue c).getD 0) 0

/-- The value of a non-empty sequence of digits of the base, and of nothing else. -/
def readNumeral (base : Nat) (digits : List Char) : Option Nat :=
  if digits ≠ [] ∧ digits.all (isDigitOf base) then some (numeralValue base digits) else none

/-! ### Writing -/

/-- The decimal digits of a natural number, without leading zeros. -/
def writeDecimal (value : Nat) : List Char := Nat.toDigits 10 value

/-- A decimal integer; only negative numbers carry a sign. -/
def writeInteger (value : Int) : List Char :=
  if value < 0 then '-' :: writeDecimal value.natAbs else writeDecimal value.natAbs

/-- The last `width` hexadecimal digits of a number, lower case, most significant first. -/
def hexDigits : (width : Nat) → (value : Nat) → List Char
  | 0, _ => []
  | width + 1, value => hexDigits width (value / 16) ++ [Nat.digitChar (value % 16)]

theorem hexDigits_length (width value : Nat) : (hexDigits width value).length = width := by
  induction width generalizing value with
  | zero => rfl
  | succ width ih => simp [hexDigits, ih]

/-- The hexadecimal digits of a number, lower case, without leading zeros. -/
def writeHex (value : Nat) : List Char := Nat.toDigits 16 value

end CelTree.Text
