/-
**Double-precision numbers.**

A double is its 64-bit pattern: a sign and a magnitude of 63 bits. Magnitudes are ordered as the
values they stand for, which makes them the grid that rounding works on.

* `units`: the value of a magnitude, counted in the least positive double.
* `infinity`: the magnitude of the infinities; the magnitudes beyond it are not numbers.
* `Double.equal`, `Double.less`: comparison of values, where the zeros agree and a NaN compares with
  nothing.
-/

namespace CelTree

/-- A double-precision number, given by its bit pattern. -/
structure Double where
  /-- Sign, exponent and fraction, most significant bit first. -/
  bits : UInt64
deriving DecidableEq, Repr, Inhabited

namespace Double

/-- The magnitude of the infinities. -/
def infinity : Nat := 2047 * Nat.pow 2 52

/-- The value of a finite magnitude in units of the least positive double, `2 ^ -1074`. -/
def units (magnitude : Nat) : Nat :=
  let exponent := magnitude / Nat.pow 2 52
  let fraction := magnitude % Nat.pow 2 52
  if exponent = 0 then fraction else (Nat.pow 2 52 + fraction) * Nat.pow 2 (exponent - 1)

/-- The double with the given sign and magnitude. -/
def ofMagnitude (negative : Bool) (magnitude : Nat) : Double :=
  ⟨UInt64.ofNat (if negative then Nat.pow 2 63 + magnitude else magnitude)⟩

/-- The double that stands for every result that is not a number. -/
def nan : Double := ⟨0x7ff8000000000000⟩

/-- The sign bit is set. -/
def isNegative (x : Double) : Bool := Nat.pow 2 63 ≤ x.bits.toNat

/-- The bits below the sign. -/
def magnitude (x : Double) : Nat := x.bits.toNat % Nat.pow 2 63

/-- Not a number. -/
def isNaN (x : Double) : Bool := infinity < x.magnitude

/-- An infinity of either sign. -/
def isInfinite (x : Double) : Bool := x.magnitude = infinity

/-- A number other than the infinities. -/
def isFinite (x : Double) : Bool := x.magnitude < infinity

/-- Equality of values: the two zeros are equal, and a NaN equals nothing, itself included. -/
def equal (x y : Double) : Bool :=
  !x.isNaN && !y.isNaN && (x.bits == y.bits || (x.magnitude == 0 && y.magnitude == 0))

/-- The place of a number among all numbers. -/
def rank (x : Double) : Int := if x.isNegative then -x.magnitude else x.magnitude

/-- The strict order of values; a NaN is neither below nor above anything. -/
def less (x y : Double) : Bool := !x.isNaN && !y.isNaN && x.rank < y.rank

/-- Zero, without a sign. -/
def zero : Double := ofMagnitude false 0

/-- The number without its sign. -/
def abs (x : Double) : Double := ofMagnitude false x.magnitude

end Double

end CelTree
