/-
**Reading a double.**

A numeral is an optional sign and then a name of an infinity or of no number, in any letter case,
or ASCII digits with an optional point and an optional exponent. It is read as the nearest double.

* `readUnsigned`: digits, point and exponent as a decimal.
* `Double.read`: the whole grammar.
-/

import CelTree.Double.Rounding
import CelTree.Text.Numeral

namespace CelTree

open Text

namespace Decimal

/-- The exponent part of a numeral: nothing, or a letter `e`, an optional sign and digits. -/
def readExponent : List Char → Option Int
  | [] => some 0
  | mark :: rest =>
    if mark = 'e' ∨ mark = 'E' then
      match rest with
      | '-' :: digits => (readNumeral 10 digits).map fun value => -(value : Int)
      | '+' :: digits => (readNumeral 10 digits).map fun value => (value : Int)
      | digits => (readNumeral 10 digits).map fun value => (value : Int)
    else none

/-- The digits after a point, if there is a point, and the text that follows. -/
def splitFraction : List Char → List Char × List Char
  | '.' :: rest => (rest.takeWhile (isDigitOf 10), rest.dropWhile (isDigitOf 10))
  | text => ([], text)

/-- Digits with an optional point and an optional exponent; at least one digit in all. -/
def readUnsigned (text : List Char) : Option Decimal :=
  let whole := text.takeWhile (isDigitOf 10)
  let (fraction, rest) := splitFraction (text.dropWhile (isDigitOf 10))
  match readNumeral 10 (whole ++ fraction), readExponent rest with
  | some digits, some exponent => some ⟨digits, exponent - fraction.length⟩
  | _, _ => none

end Decimal

namespace Double

/-- The sign and the rest of a numeral. -/
def splitSign : List Char → Bool × List Char
  | '-' :: rest => (true, rest)
  | '+' :: rest => (false, rest)
  | text => (false, text)

/-- The double nearest to a signed decimal. -/
def ofDecimal (negative : Bool) (d : Decimal) : Double := ofMagnitude negative d.toMagnitude

/-- The double that a numeral denotes. -/
def read (text : List Char) : Option Double :=
  let (negative, body) := splitSign text
  let name := body.map Char.toLower
  if name = "inf".toList ∨ name = "infinity".toList then some (ofMagnitude negative infinity)
  else if name = "nan".toList then some nan
  else (Decimal.readUnsigned body).map (ofDecimal negative)

end Double

end CelTree
