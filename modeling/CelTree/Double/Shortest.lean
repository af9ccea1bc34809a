/-
**The shortest decimal of a double.**

Of the decimals that read back as a given double, the ones with fewest digits, and of these the
nearest to its value.

* `gridNeighbours`: the two decimals with a given number of digits next to a value.
* `shortestDecimal`: the first grid with a neighbour that reads back. An exact tie between two such
  neighbours is decided by `Tie`.
-/

import CelTree.Double.Rounding

namespace CelTree

/-- Which of two equally near neighbours is taken: the larger, or the one with the even last
digit. -/
inductive Tie
  | up
  | even
deriving DecidableEq, Repr

namespace Decimal

/-- The same decimal without trailing zeros among its digits. -/
def trim (d : Decimal) : Decimal :=
  if 0 < d.digits ∧ d.digits % 10 = 0 then trim ⟨d.digits / 10, d.exponent + 1⟩ else d
termination_by d.digits
decreasing_by omega

/-- The exponent of the leading digit of a positive quotient. -/
def leadingExponent (numerator denominator : Nat) : Int :=
  let guess : Int :=
    (Nat.toDigits 10 numerator).length - (Nat.toDigits 10 denominator).length
  if denominator * Nat.pow 10 guess.toNat ≤ numerator * Nat.pow 10 (-guess).toNat then guess
  else guess - 1

end Decimal

namespace Double

/-- The decimal whose digits are the value of a magnitude in full. -/
def exactDecimal (magnitude : Nat) : Decimal := ⟨units magnitude * Nat.pow 5 1074, -1074⟩

/-- The neighbours below and above a value on the grid of the given exponent, and how the value
compares with their midpoint. -/
def gridNeighbours (magnitude : Nat) (exponent : Int) : Decimal × Decimal × Ordering :=
  let numerator := units magnitude * Nat.pow 10 (-exponent).toNat
  let denominator := Nat.pow 2 1074 * Nat.pow 10 exponent.toNat
  let digits := numerator / denominator
  (⟨digits, exponent⟩, ⟨digits + 1, exponent⟩, compare (2 * (numerator % denominator)) denominator)

/-- The nearest decimal on a grid that reads back as the magnitude, if one does. -/
def gridDecimal (tie : Tie) (magnitude : Nat) (exponent : Int) : Option Decimal :=
  let (below, above, side) := gridNeighbours magnitude exponent
  match below.toMagnitude == magnitude, above.toMagnitude == magnitude with
  | true, true =>
    match side, tie with
    | .lt, _ => some below
    | .gt, _ => some above
    | .eq, .up => some above
    | .eq, .even => if below.digits % 2 = 0 then some below else some above
  | true, false => some below
  | false, true => some above
  | false, false => none

/-- The fewest digits that read back as a finite magnitude, and the nearest to its value among
those. Seventeen digits always suffice; the exact expansion closes the search. -/
def shortestDecimal (tie : Tie) (magnitude : Nat) : Decimal :=
  if magnitude = 0 then ⟨0, 0⟩
  else
    let leading := Decimal.leadingExponent (units magnitude) (Nat.pow 2 1074)
    let found := (List.range 17).findSome? fun (places : Nat) =>
      gridDecimal tie magnitude (leading - places)
    (found.getD (exactDecimal magnitude)).trim

end Double

end CelTree
