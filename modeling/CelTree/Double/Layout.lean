/-
**Layouts of decimals.**

A decimal is written positionally or in scientific notation, as the format decides by the exponent of
its leading digit.

* `DecimalLayout`: the decisions of a format.
* `DecimalLayout.write`: a decimal in that format.
* `Double.text`: the notation of trees. Positional from one millionth to below one million, an
  exponent of at least two digits with its sign above, an unpadded one below.
-/

import CelTree.Double.Shortest
import CelTree.Text.Numeral

namespace CelTree

open Text

/-- The decisions of a number format. -/
structure DecimalLayout where
  /-- Numbers whose leading digit has this exponent are written positionally. -/
  isPositional : Int → Bool
  /-- What follows the digits of a whole number in positional notation. -/
  wholeEnd : List Char
  /-- The text of an exponent after the letter `e`. -/
  exponentText : Int → List Char

namespace DecimalLayout

/-- Digits with a point at the place that the exponent says. -/
def positional (wholeEnd digits : List Char) (exponent : Int) : List Char :=
  if 0 ≤ exponent then digits ++ List.replicate exponent.toNat '0' ++ wholeEnd
  else
    let places := (-exponent).toNat
    if places < digits.length then
      digits.take (digits.length - places) ++ '.' :: digits.drop (digits.length - places)
    else '0' :: '.' :: List.replicate (places - digits.length) '0' ++ digits

/-- One digit before the point, the others after it, then an exponent. -/
def scientific (exponentText digits : List Char) : List Char :=
  match digits with
  | first :: second :: others => first :: '.' :: second :: others ++ 'e' :: exponentText
  | _ => digits ++ 'e' :: exponentText

/-- A decimal in the given format. -/
def write (layout : DecimalLayout) (d : Decimal) : List Char :=
  let digits := writeDecimal d.digits
  let leading : Int := digits.length - 1 + d.exponent
  if layout.isPositional leading then positional layout.wholeEnd digits d.exponent
  else scientific (layout.exponentText leading) digits

end DecimalLayout

namespace Double

/-- A finite double: its sign and its shortest decimal. -/
def writeFinite (layout : DecimalLayout) (tie : Tie) (x : Double) : List Char :=
  (if x.isNegative then ['-'] else []) ++ layout.write (shortestDecimal tie x.magnitude)

/-- Positional notation throughout. -/
def plainLayout : DecimalLayout := ⟨fun _ => true, [], writeInteger⟩

/-- Scientific notation throughout, with bare exponents. -/
def scientificLayout : DecimalLayout := ⟨fun _ => false, [], writeInteger⟩

/-- Digits filled up to two with zeros. -/
def padTwo (digits : List Char) : List Char := List.replicate (2 - digits.length) '0' ++ digits

/-- A number in scientific notation with a sign and two digits at least in its exponent. -/
def padExponent (text : List Char) : List Char :=
  let mantissa := text.takeWhile (· != 'e')
  match text.dropWhile (· != 'e') with
  | 'e' :: '-' :: digits => mantissa ++ 'e' :: '-' :: padTwo digits
  | 'e' :: digits => mantissa ++ 'e' :: '+' :: padTwo digits
  | _ => text

/-- The double nearest to a power of ten. -/
def powerOfTen (negative : Bool) (exponent : Int) : Double :=
  ofMagnitude negative (Decimal.toMagnitude ⟨1, exponent⟩)

/-- A double in tree notation. -/
def text (x : Double) : List Char :=
  if x.isNaN then "NaN".toList
  else if x.isInfinite then (if less zero x then "+Inf".toList else "-Inf".toList)
  else if less (powerOfTen true 6) x && less x (powerOfTen false 6) then
    if !x.equal zero && less x.abs (powerOfTen false (-6)) then x.writeFinite scientificLayout .up
    else x.writeFinite plainLayout .up
  else padExponent (x.writeFinite scientificLayout .up)

end Double

end CelTree
