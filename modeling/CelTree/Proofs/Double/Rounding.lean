/-
**Rounding depends on the value alone, and the shortest decimal rounds back.**

* `divideToEven_mul_right`, `nearestMagnitude_mul_right`: a quotient is rounded alike in every form.
* `nearestMagnitude_units`: the value of a magnitude is nearest to that magnitude.
* `Decimal.toMagnitude_scale`, `Decimal.toMagnitude_trim`: zeros at the end of the digits play no
  part.
* **`Double.toMagnitude_shortestDecimal`** — the shortest decimal of a finite magnitude is nearest
  to it.
-/

import CelTree.Double.Shortest
import CelTree.Proofs.Text.Numeral

namespace CelTree

open Text

/-! ### Quotients -/

/-- Rounding a quotient does not depend on how the fraction is reduced. -/
theorem divideToEven_mul_right {factor : Nat} (positive : 0 < factor)
    (numerator denominator : Nat) :
    divideToEven (numerator * factor) (denominator * factor) =
      divideToEven numerator denominator := by
  have below (x y : Nat) : 2 * (x * factor) < y * factor ↔ 2 * x < y := by
    rw [← Nat.mul_assoc, Nat.mul_lt_mul_right positive]
  have above (x y : Nat) : y * factor < 2 * (x * factor) ↔ y < 2 * x := by
    rw [← Nat.mul_assoc, Nat.mul_lt_mul_right positive]
  unfold divideToEven
  simp only [Nat.mul_div_mul_right _ _ positive, Nat.mul_mod_mul_right, below, above]

/-- A whole quotient is not rounded. -/
theorem divideToEven_mul_self {denominator : Nat} (positive : 0 < denominator) (quotient : Nat) :
    divideToEven (quotient * denominator) denominator = quotient := by
  unfold divideToEven
  simp only [Nat.mul_div_cancel _ positive, Nat.mul_mod_left, Nat.mul_zero, positive, if_true]

theorem nearestMagnitude_mul_right {factor : Nat} (positive : 0 < factor)
    (numerator denominator : Nat) :
    nearestMagnitude (numerator * factor) (denominator * factor) =
      nearestMagnitude numerator denominator := by
  unfold nearestMagnitude
  simp only [Nat.mul_div_mul_right _ _ positive, Nat.mul_right_comm denominator factor,
    divideToEven_mul_right positive]

/-- A number of 53 binary digits, shifted. -/
theorem log2_mul_pow {significand : Nat} (low : Nat.pow 2 52 ≤ significand)
    (high : significand < Nat.pow 2 53) (shift : Nat) :
    (significand * Nat.pow 2 shift).log2 = 52 + shift := by
  have positive : 0 < 2 ^ shift := Nat.two_pow_pos shift
  have first : 0 < significand := Nat.lt_of_lt_of_le (by decide) low
  refine (Nat.log2_eq_iff (Nat.mul_pos first positive).ne').mpr ⟨?_, ?_⟩
  · rw [pow_add]
    exact Nat.mul_le_mul_right _ low
  · rw [Nat.add_right_comm, pow_add]
    exact Nat.mul_lt_mul_of_pos_right high positive

/-- The value of a magnitude is nearest to that magnitude. -/
theorem nearestMagnitude_units (magnitude : Nat) :
    nearestMagnitude (Double.units magnitude) 1 = magnitude := by
  have whole := Nat.div_add_mod magnitude (Nat.pow 2 52)
  have small : magnitude % Nat.pow 2 52 < Nat.pow 2 52 := Nat.mod_lt _ (by decide)
  unfold nearestMagnitude Double.units
  generalize magnitude / Nat.pow 2 52 = exponent at whole ⊢
  generalize magnitude % Nat.pow 2 52 = fraction at whole small ⊢
  by_cases subnormal : exponent = 0
  · -- below the first binade, a magnitude is its own value
    have low : fraction.log2 < 52 ∨ fraction = 0 := by
      by_cases zero : fraction = 0
      · exact .inr zero
      · exact .inl ((Nat.log2_lt zero).mpr small)
    have unshifted : fraction.log2 - 52 = 0 := by
      rcases low with less | rfl
      · omega
      · rfl
    have exact' := divideToEven_mul_self Nat.one_pos fraction
    rw [Nat.mul_one] at exact'
    simp only [subnormal, if_true, Nat.div_one, unshifted, Nat.pow_eq, pow_zero, Nat.mul_one,
      exact', Nat.zero_mul, Nat.zero_add]
    rw [subnormal] at whole
    omega
  · have shifted : ((Nat.pow 2 52 + fraction) * Nat.pow 2 (exponent - 1)).log2 - 52 =
        exponent - 1 := by
      rw [log2_mul_pow (Nat.le_add_right _ fraction)]
      · omega
      · have : Nat.pow 2 53 = Nat.pow 2 52 + Nat.pow 2 52 := by decide
        omega
    have positive : 0 < Nat.pow 2 (exponent - 1) := Nat.two_pow_pos _
    simp only [subnormal, if_false, Nat.div_one, shifted, Nat.one_mul,
      divideToEven_mul_self positive]
    obtain ⟨lower, rfl⟩ : ∃ lower, exponent = lower + 1 := ⟨exponent - 1, by omega⟩
    rw [Nat.add_sub_cancel, ← whole, Nat.mul_comm (Nat.pow 2 52) (lower + 1), Nat.add_mul]
    omega

/-! ### Decimals -/

theorem writeDecimal_mul_ten {value : Nat} (positive : 0 < value) :
    writeDecimal (value * 10) = writeDecimal value ++ ['0'] := by
  have longer := Nat.toDigits_append_toDigits (by decide : 1 < 10) positive (by decide : 0 < 10)
  rw [Nat.add_zero, Nat.mul_comm] at longer
  exact longer.symm

theorem length_writeDecimal_le {value places : Nat} (positive : 0 < places)
    (small : value < Nat.pow 10 places) : (writeDecimal value).length ≤ places :=
  (Nat.length_toDigits_le_iff (by decide) positive).mpr small

theorem lt_length_writeDecimal {value places : Nat} (positive : 0 < places)
    (large : Nat.pow 10 places ≤ value) : places < (writeDecimal value).length := by
  rw [← Nat.not_le]
  intro short
  have small : value < Nat.pow 10 places :=
    (Nat.length_toDigits_le_iff (by decide) positive).mp short
  omega

namespace Decimal

/-- One more zero at the end, at one place less, changes nothing. -/
theorem toMagnitude_mul_ten (digits : Nat) (exponent : Int) :
    toMagnitude ⟨digits * 10, exponent - 1⟩ = toMagnitude ⟨digits, exponent⟩ := by
  by_cases zero : digits = 0
  · rw [zero, toMagnitude, toMagnitude, if_pos (Nat.zero_mul 10), if_pos rfl]
  have positive : 0 < digits := Nat.pos_of_ne_zero zero
  have nonzero : digits * 10 ≠ 0 := by omega
  have ceiling : ceilingExponent ⟨digits * 10, exponent - 1⟩ = ceilingExponent ⟨digits, exponent⟩ := by
    show ((writeDecimal (digits * 10)).length : Int) + (exponent - 1) =
      (writeDecimal digits).length + exponent
    rw [writeDecimal_mul_ten positive, List.length_append, List.length_singleton]
    omega
  have nearest : ∀ unit : Nat, nearestMagnitude
      (digits * 10 * Nat.pow 10 (exponent - 1).toNat * unit)
      (Nat.pow 10 (-(exponent - 1)).toNat) =
        nearestMagnitude (digits * Nat.pow 10 exponent.toNat * unit)
          (Nat.pow 10 (-exponent).toNat) := by
    intro unit
    simp only [Nat.pow_eq]
    by_cases above : 1 ≤ exponent
    · obtain ⟨places, rfl⟩ : ∃ places : Nat, exponent = places + 1 :=
        ⟨(exponent - 1).toNat, by omega⟩
      have one : ((places : Int) + 1 - 1).toNat = places := by omega
      have two : ((places : Int) + 1).toNat = places + 1 := by omega
      have three : (-((places : Int) + 1 - 1)).toNat = (-((places : Int) + 1)).toNat := by omega
      rw [one, two, three, pow_succ', Nat.mul_assoc digits]
    · obtain ⟨places, rfl⟩ : ∃ places : Nat, exponent = -(places : Int) :=
        ⟨(-exponent).toNat, by omega⟩
      have one : (-(places : Int) - 1).toNat = (-(places : Int)).toNat := by omega
      have two : (-(-(places : Int))).toNat = places := by omega
      have three : (-(-(places : Int) - 1)).toNat = places + 1 := by omega
      rw [one, two, three, pow_succ, ← nearestMagnitude_mul_right (by decide : 0 < 10)
        (digits * 10 ^ (-(places : Int)).toNat * unit)]
      congr 1
      ring
  unfold toMagnitude
  simp only [zero, nonzero, ceiling, nearest, if_false]

/-- Zeros at the end of the digits play no part. -/
theorem toMagnitude_scale (digits : Nat) (exponent : Int) (places : Nat) :
    toMagnitude ⟨digits * 10 ^ places, exponent - places⟩ = toMagnitude ⟨digits, exponent⟩ := by
  induction places with
  | zero =>
    rw [pow_zero, Nat.mul_one]
    congr 2
    omega
  | succ places ih =>
    rw [pow_succ, ← Nat.mul_assoc, ← ih, ← toMagnitude_mul_ten (digits * 10 ^ places)]
    congr 2
    omega

/-- Trailing zeros do not change the value. -/
theorem toMagnitude_trim (d : Decimal) : d.trim.toMagnitude = d.toMagnitude := by
  fun_induction trim d with
  | case1 d more ih =>
    rw [ih, ← toMagnitude_mul_ten]
    congr 1
    obtain ⟨digits, exponent⟩ := d
    show Decimal.mk (digits / 10 * 10) (exponent + 1 - 1) = ⟨digits, exponent⟩
    have tens : digits % 10 = 0 := more.2
    congr 1 <;> omega
  | case2 d less => rfl

end Decimal

/-! ### The shortest decimal -/

namespace Double

/-- A finite double is less than `2 ^ 2098` times the least positive one. -/
theorem units_lt {magnitude : Nat} (finite : magnitude < infinity) :
    units magnitude < Nat.pow 2 2098 := by
  have whole := Nat.div_add_mod magnitude (Nat.pow 2 52)
  have small : magnitude % Nat.pow 2 52 < Nat.pow 2 52 := Nat.mod_lt _ (by decide)
  have bounded : magnitude / Nat.pow 2 52 < 2047 := Nat.div_lt_of_lt_mul (by
    rw [Nat.mul_comm]
    exact finite)
  unfold units
  generalize magnitude / Nat.pow 2 52 = exponent at bounded ⊢
  generalize magnitude % Nat.pow 2 52 = fraction at small ⊢
  have double : Nat.pow 2 53 = Nat.pow 2 52 + Nat.pow 2 52 := by decide
  simp only
  split
  · have less : Nat.pow 2 52 ≤ Nat.pow 2 2098 := by decide +kernel
    exact Nat.lt_of_lt_of_le small less
  · have last : exponent - 1 ≤ 2045 := by omega
    have significand : Nat.pow 2 52 + fraction < Nat.pow 2 53 := by omega
    have product : ∀ last bound, exponent - 1 ≤ last →
        Nat.pow 2 53 * Nat.pow 2 last = bound →
          (Nat.pow 2 52 + fraction) * Nat.pow 2 (exponent - 1) < bound := by
      intro last bound below most
      have less : Nat.pow 2 (exponent - 1) ≤ Nat.pow 2 last :=
        Nat.pow_le_pow_right (by decide) below
      rw [← most]
      exact Nat.mul_lt_mul_of_lt_of_le significand less (Nat.two_pow_pos last)
    exact product 2045 (Nat.pow 2 2098) last (by decide +kernel)

theorem units_pos {magnitude : Nat} (positive : 0 < magnitude) : 0 < units magnitude := by
  have whole := Nat.div_add_mod magnitude (Nat.pow 2 52)
  unfold units
  simp only
  split
  · rename_i subnormal
    rw [subnormal, Nat.mul_zero] at whole
    omega
  · have first : 0 < Nat.pow 2 52 + magnitude % Nat.pow 2 52 :=
      Nat.add_pos_left (by decide) _
    exact Nat.mul_pos first (Nat.two_pow_pos _)

/-- The full expansion of a finite magnitude is nearest to it. -/
theorem toMagnitude_exactDecimal {magnitude : Nat} (positive : 0 < magnitude)
    (finite : magnitude < infinity) : (exactDecimal magnitude).toMagnitude = magnitude := by
  have value := units_pos positive
  have bounded := units_lt finite
  have nearest := nearestMagnitude_units magnitude
  have five : 0 < Nat.pow 5 1074 := by decide +kernel
  have low : Nat.pow 10 750 ≤ Nat.pow 5 1074 := by decide +kernel
  have high : Nat.pow 2 2098 * Nat.pow 5 1074 ≤ Nat.pow 10 1384 := by decide +kernel
  have tens : Nat.pow 5 1074 * Nat.pow 10 (-1074 : Int).toNat * Nat.pow 2 1074 =
      Nat.pow 10 (-(-1074) : Int).toNat := by decide +kernel
  have scale : 0 < Nat.pow 10 (-(-1074) : Int).toNat := by decide +kernel
  unfold exactDecimal
  generalize units magnitude = value' at value bounded nearest ⊢
  generalize Nat.pow 5 1074 = power at five low high tens ⊢
  generalize Nat.pow 2 2098 = bound at bounded high
  -- between 10 ^ 750 and 10 ^ 1384 units of 10 ^ -1074, so far from both ends of the range
  have small : value' * power < Nat.pow 10 1384 :=
    Nat.lt_of_lt_of_le (Nat.mul_lt_mul_of_pos_right bounded five) high
  have short := length_writeDecimal_le (by decide) small
  have large : Nat.pow 10 750 ≤ value' * power :=
    Nat.le_trans low (Nat.le_mul_of_pos_left _ value)
  have long := lt_length_writeDecimal (by decide) large
  have ceiling : Decimal.ceilingExponent ⟨value' * power, -1074⟩ =
      (writeDecimal (value' * power)).length - 1074 := rfl
  have scaled : nearestMagnitude
      (value' * power * Nat.pow 10 (-1074 : Int).toNat * Nat.pow 2 1074)
      (Nat.pow 10 (-(-1074) : Int).toNat) = magnitude := by
    rw [Nat.mul_assoc value', Nat.mul_assoc value', tens, ← nearest]
    generalize Nat.pow 10 (-(-1074) : Int).toNat = places at scale ⊢
    calc nearestMagnitude (value' * places) places
        = nearestMagnitude (value' * places) (1 * places) := by rw [Nat.one_mul]
      _ = nearestMagnitude value' 1 := nearestMagnitude_mul_right scale value' 1
  unfold Decimal.toMagnitude
  rw [ceiling, if_neg (Nat.mul_pos value five).ne', if_neg, if_neg, scaled]
  · exact Nat.min_eq_right finite.le
  · show ¬ ((310 : Int) < _)
    omega
  · show ¬ (_ < (-400 : Int))
    omega

/-- A decimal that is found on a grid reads back. -/
theorem toMagnitude_of_gridDecimal {tie : Tie} {magnitude : Nat} {exponent : Int} {d : Decimal}
    (found : gridDecimal tie magnitude exponent = some d) : d.toMagnitude = magnitude := by
  unfold gridDecimal at found
  generalize gridNeighbours magnitude exponent = neighbours at found
  obtain ⟨below, above, side⟩ := neighbours
  simp only at found
  split at found
  · rename_i belowReads aboveReads
    have both : d = below ∨ d = above := by
      split at found
      · exact .inl (Option.some.inj found).symm
      · exact .inr (Option.some.inj found).symm
      · exact .inr (Option.some.inj found).symm
      · split at found
        · exact .inl (Option.some.inj found).symm
        · exact .inr (Option.some.inj found).symm
    rcases both with rfl | rfl
    · exact beq_iff_eq.mp belowReads
    · exact beq_iff_eq.mp aboveReads
  · rename_i belowReads _
    exact Option.some.inj found ▸ beq_iff_eq.mp belowReads
  · rename_i _ aboveReads
    exact Option.some.inj found ▸ beq_iff_eq.mp aboveReads
  · cases found

/-- **The shortest decimal of a finite magnitude is nearest to it.** -/
theorem toMagnitude_shortestDecimal (tie : Tie) {magnitude : Nat} (finite : magnitude < infinity) :
    (shortestDecimal tie magnitude).toMagnitude = magnitude := by
  unfold shortestDecimal
  split
  · rename_i zero
    rw [zero]
    rfl
  · rename_i nonzero
    simp only
    rw [Decimal.toMagnitude_trim]
    cases found : (List.range 17).findSome? fun (places : Nat) =>
        gridDecimal tie magnitude
          (Decimal.leadingExponent (units magnitude) (Nat.pow 2 1074) - places) with
    | none => exact toMagnitude_exactDecimal (Nat.pos_of_ne_zero nonzero) finite
    | some d =>
      obtain ⟨places, -, here⟩ := List.exists_of_findSome?_eq_some found
      exact toMagnitude_of_gridDecimal here

end Double

end CelTree
