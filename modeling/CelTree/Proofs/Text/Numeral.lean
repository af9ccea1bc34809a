/-
**Written numerals can be read.**

* `readNumeral_writeDecimal`, `readNumeral_pad`: a decimal numeral reads back as its number, also
  with zeros before it.
* `writeDecimal_injective`, `writeInteger_injective`: different numbers have different numerals.
* `readNumeral_hexDigits`: hexadecimal digits read back as the number, if the width is enough.
-/

import CelTree.Text.Numeral
import Mathlib.Algebra.Order.Ring.Nat
import Mathlib.Data.Bool.AllAny
import Mathlib.Tactic.IntervalCases
import Mathlib.Tactic.Ring

namespace CelTree.Text

/-! ### Digits -/

theorem digitValue_digitChar {digit : Nat} (small : digit < 16) :
    digitValue digit.digitChar = some digit := by
  have each : ∀ digit < 16, digitValue (Nat.digitChar digit) = some digit := by decide
  exact each digit small

/-- The decimal digits. -/
theorem mem_digits_of_isDigitOf {c : Char} (digit : isDigitOf 10 c = true) :
    c ∈ ['0', '1', '2', '3', '4', '5', '6', '7', '8', '9'] := by
  unfold isDigitOf digitValue at digit
  by_cases decimal : '0' ≤ c ∧ c ≤ '9'
  · have low : 48 ≤ c.toNat := decimal.1
    have high : c.toNat ≤ 57 := decimal.2
    rw [← Char.ofNat_toNat c]
    generalize c.toNat = code at low high ⊢
    interval_cases code <;> decide
  · rw [if_neg decimal] at digit
    split at digit
    · rename_i value read
      split at read
      · cases read
        simp at digit
      · split at read
        · cases read
          simp at digit
        · cases read
    · cases digit

/-- What is checked for the ten digits holds of every digit. -/
@[elab_as_elim]
theorem of_isDigitOf {P : Char → Prop} [DecidablePred P] {c : Char} (digit : isDigitOf 10 c = true)
    (each : ['0', '1', '2', '3', '4', '5', '6', '7', '8', '9'].all (fun c => decide (P c)) = true) :
    P c :=
  List.all_iff_forall_prop.mp each c (mem_digits_of_isDigitOf digit)

theorem isDigitOf_digitChar {base digit : Nat} (small : digit < 16) (inside : digit < base) :
    isDigitOf base digit.digitChar = true := by
  rw [isDigitOf, digitValue_digitChar small]
  exact decide_eq_true inside

/-- Digits before others count for as many places more. -/
theorem numeralValue_append (base : Nat) (first second : List Char) :
    numeralValue base (first ++ second) =
      numeralValue base first * base ^ second.length + numeralValue base second := by
  unfold numeralValue
  rw [List.foldl_append]
  generalize first.foldl (fun value c => value * base + (digitValue c).getD 0) 0 = start
  -- a fold from a start is the fold from zero, with the start that many places higher
  have shifted : ∀ (digits : List Char) (start : Nat),
      digits.foldl (fun value c => value * base + (digitValue c).getD 0) start =
        start * base ^ digits.length +
          digits.foldl (fun value c => value * base + (digitValue c).getD 0) 0 := by
    intro digits
    induction digits with
    | nil =>
      intro start
      simp
    | cons head rest ih =>
      intro start
      rw [List.foldl_cons, List.foldl_cons, ih, ih (0 * base + _), List.length_cons, pow_succ]
      ring
  exact shifted second start

theorem numeralValue_singleton (base : Nat) {digit : Nat} (small : digit < 16) :
    numeralValue base [digit.digitChar] = digit := by
  simp [numeralValue, digitValue_digitChar small]

theorem numeralValue_replicate_zero (base count : Nat) :
    numeralValue base (List.replicate count '0') = 0 := by
  induction count with
  | zero => rfl
  | succ count ih =>
    rw [List.replicate_succ', numeralValue_append, ih]
    simp [numeralValue, show digitValue '0' = some 0 from rfl]

/-! ### Decimal numerals -/

theorem numeralValue_writeDecimal (value : Nat) : numeralValue 10 (writeDecimal value) = value := by
  unfold writeDecimal
  induction value using Nat.base_induction 10 (by decide) with
  | single digit small =>
    rw [Nat.toDigits_of_lt_base small, numeralValue_singleton 10 (by omega)]
  | digit rest digit small positive ih =>
    rw [← Nat.toDigits_append_toDigits (by decide) positive small, numeralValue_append, ih,
      Nat.toDigits_of_lt_base small, numeralValue_singleton 10 (by omega), List.length_singleton,
      pow_one]
    omega

theorem isDigitOf_of_mem_writeDecimal {value : Nat} {c : Char} (member : c ∈ writeDecimal value) :
    isDigitOf 10 c = true := by
  unfold writeDecimal at member
  induction value using Nat.base_induction 10 (by decide) with
  | single digit small =>
    rw [Nat.toDigits_of_lt_base small, List.mem_singleton] at member
    rw [member]
    exact isDigitOf_digitChar (by omega) small
  | digit rest digit small positive ih =>
    rw [← Nat.toDigits_append_toDigits (by decide) positive small, List.mem_append,
      Nat.toDigits_of_lt_base small, List.mem_singleton] at member
    rcases member with inside | last
    · exact ih inside
    · rw [last]
      exact isDigitOf_digitChar (by omega) small

theorem writeDecimal_ne_nil (value : Nat) : writeDecimal value ≠ [] := Nat.toDigits_ne_nil

theorem readNumeral_writeDecimal (value : Nat) : readNumeral 10 (writeDecimal value) = some value := by
  have digits : (writeDecimal value).all (isDigitOf 10) = true :=
    List.all_eq_true.mpr fun _ member => isDigitOf_of_mem_writeDecimal member
  rw [readNumeral, if_pos ⟨writeDecimal_ne_nil value, digits⟩, numeralValue_writeDecimal]

/-- Zeros before a numeral change nothing. -/
theorem numeralValue_pad (zeros : Nat) (digits : List Char) :
    numeralValue 10 (List.replicate zeros '0' ++ digits) = numeralValue 10 digits := by
  rw [numeralValue_append, numeralValue_replicate_zero, Nat.zero_mul, Nat.zero_add]

theorem isDigitOf_of_mem_replicate_zero {zeros : Nat} {c : Char}
    (member : c ∈ List.replicate zeros '0') : isDigitOf 10 c = true := by
  rw [List.eq_of_mem_replicate member]
  rfl

/-- Leading zeros do not change what is read. -/
theorem readNumeral_pad (zeros value : Nat) :
    readNumeral 10 (List.replicate zeros '0' ++ writeDecimal value) = some value := by
  have digits : (List.replicate zeros '0' ++ writeDecimal value).all (isDigitOf 10) = true := by
    refine List.all_eq_true.mpr fun c member => ?_
    rcases List.mem_append.mp member with zero | digit
    · exact isDigitOf_of_mem_replicate_zero zero
    · exact isDigitOf_of_mem_writeDecimal digit
  have nonempty : List.replicate zeros '0' ++ writeDecimal value ≠ [] :=
    List.append_ne_nil_of_right_ne_nil _ (writeDecimal_ne_nil value)
  rw [readNumeral, if_pos ⟨nonempty, digits⟩, numeralValue_pad, numeralValue_writeDecimal]

theorem writeDecimal_injective {value value' : Nat}
    (same : writeDecimal value = writeDecimal value') : value = value' := by
  rw [← numeralValue_writeDecimal value, same, numeralValue_writeDecimal]

/-- A numeral starts with a digit, and so not with anything else. -/
theorem writeDecimal_ne_cons {c : Char} (notDigit : isDigitOf 10 c = false) (value : Nat)
    (rest : List Char) : writeDecimal value ≠ c :: rest := by
  intro same
  have digit : isDigitOf 10 c = true :=
    isDigitOf_of_mem_writeDecimal (by rw [same]; exact List.mem_cons_self)
  rw [notDigit] at digit
  cases digit

theorem writeDecimal_ne_minus (value : Nat) (rest : List Char) :
    writeDecimal value ≠ '-' :: rest := writeDecimal_ne_cons (by decide) value rest

theorem writeDecimal_ne_plus (value : Nat) (rest : List Char) :
    writeDecimal value ≠ '+' :: rest := writeDecimal_ne_cons (by decide) value rest

/-- An integer is written with digits and perhaps a sign. -/
theorem mem_writeInteger {value : Int} {c : Char} (member : c ∈ writeInteger value) :
    isDigitOf 10 c = true ∨ c = '-' := by
  unfold writeInteger at member
  split at member
  · rcases List.mem_cons.mp member with sign | digit
    · exact .inr sign
    · exact .inl (isDigitOf_of_mem_writeDecimal digit)
  · exact .inl (isDigitOf_of_mem_writeDecimal member)

theorem not_mem_writeInteger {c : Char} (digit : isDigitOf 10 c = false) (sign : c ≠ '-')
    (value : Int) : c ∉ writeInteger value := by
  intro member
  rcases mem_writeInteger member with isDigit | isSign
  · rw [digit] at isDigit
    cases isDigit
  · exact sign isSign

theorem writeInteger_injective {value value' : Int}
    (same : writeInteger value = writeInteger value') : value = value' := by
  unfold writeInteger at same
  split at same <;> split at same
  · have := writeDecimal_injective (List.cons.inj same).2
    omega
  · exact absurd same.symm (writeDecimal_ne_minus _ _)
  · exact absurd same (writeDecimal_ne_minus _ _)
  · have := writeDecimal_injective same
    omega

/-! ### Hexadecimal digits -/

/-- Digits of a fixed width keep what fits into the width. -/
theorem numeralValue_hexDigits (width value : Nat) :
    numeralValue 16 (hexDigits width value) = value % 16 ^ width := by
  induction width generalizing value with
  | zero => simp [hexDigits, numeralValue, Nat.mod_one]
  | succ width ih =>
    rw [hexDigits, numeralValue_append, ih, numeralValue_singleton 16 (Nat.mod_lt _ (by decide)),
      List.length_singleton, pow_one, pow_succ', Nat.mod_mul]
    omega

theorem isDigitOf_of_mem_hexDigits {width value : Nat} {c : Char}
    (member : c ∈ hexDigits width value) : isDigitOf 16 c = true := by
  induction width generalizing value with
  | zero => cases member
  | succ width ih =>
    rw [hexDigits, List.mem_append, List.mem_singleton] at member
    rcases member with inside | last
    · exact ih inside
    · rw [last]
      have small : value % 16 < 16 := Nat.mod_lt _ (by decide)
      exact isDigitOf_digitChar small small

/-- Hexadecimal digits read back as the number if there are enough of them. -/
theorem readNumeral_hexDigits {width value : Nat} (wide : value < 16 ^ (width + 1)) :
    readNumeral 16 (hexDigits (width + 1) value) = some value := by
  have digits : (hexDigits (width + 1) value).all (isDigitOf 16) = true :=
    List.all_eq_true.mpr fun _ member => isDigitOf_of_mem_hexDigits member
  have nonempty : hexDigits (width + 1) value ≠ [] := by
    rw [hexDigits]
    exact List.append_ne_nil_of_right_ne_nil _ (by simp)
  rw [readNumeral, if_pos ⟨nonempty, digits⟩, numeralValue_hexDigits, Nat.mod_eq_of_lt wide]

end CelTree.Text
