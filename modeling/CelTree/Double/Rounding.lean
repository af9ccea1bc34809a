/-
**From a decimal to the nearest double.**

* `Decimal`: a non-negative decimal `digits · 10 ^ exponent`.
* `divideToEven`: a quotient rounded to the nearest integer, a half to the even neighbour.
* `nearestMagnitude`: the magnitude nearest to a quotient, a half to the even magnitude. Within a
  binade the magnitudes are evenly spaced, so this is one rounded division; a carry out of the
  fraction lands on the next binade by itself.
* `Decimal.toMagnitude`: the magnitude nearest to a decimal, the infinite one on overflow.
-/

import CelTree.Double.Basic

namespace CelTree

/-- A non-negative decimal number, `digits · 10 ^ exponent`. -/
structure Decimal where
  digits : Nat
  exponent : Int
deriving DecidableEq, Repr, Inhabited

/-- The quotient rounded to the nearest integer, a half to the even one. -/
def divideToEven (numerator denominator : Nat) : Nat :=
  let quotient := numerator / denominator
  let remainder := numerator % denominator
  if 2 * remainder < denominator then quotient
  else if denominator < 2 * remainder then quotient + 1
  else quotient + quotient % 2

/-- The magnitude nearest to `numerator / denominator` units, a half to the even magnitude. -/
def nearestMagnitude (numerator denominator : Nat) : Nat :=
  let shift := Nat.log2 (numerator / denominator) - 52
  shift * Nat.pow 2 52 + divideToEven numerator (denominator * Nat.pow 2 shift)

namespace Decimal

/-- Decimals at or above `10 ^ 310` overflow. -/
def overflowExponent : Int := 310

/-- Decimals below `10 ^ -400` are nearest to zero. -/
def underflowExponent : Int := -400

/-- The exponent of the power of ten just above the decimal's leading digit. -/
def ceilingExponent (d : Decimal) : Int := (Nat.toDigits 10 d.digits).length + d.exponent

/-- The magnitude nearest to a decimal; the infinite one for decimals beyond the largest double.
The first three cases spare the powers of ten of numbers far out of range. -/
def toMagnitude (d : Decimal) : Nat :=
  if d.digits = 0 then 0
  else if d.ceilingExponent < underflowExponent then 0
  else if overflowExponent < d.ceilingExponent then Double.infinity
  else
    min Double.infinity
      (nearestMagnitude (d.digits * Nat.pow 10 d.exponent.toNat * Nat.pow 2 1074)
        (Nat.pow 10 (-d.exponent).toNat))

end Decimal

end CelTree
