/-
**Doubles survive writing.**

* `Decimal.readUnsigned_whole`, `Decimal.readUnsigned_point`: what a text of digits, a point and an
  exponent reads as.
* `DecimalLayout.Legible`: the formats whose exponents read back. `DecimalLayout.read_write`: a
  decimal written in such a format reads back as the same decimal, perhaps with zeros at its end.
* `Double.read_writeFinite`: a finite double reads back from every legible format.
* **`Double.read_text`** — a double reads back from tree notation, and what is not a number reads
  back as no number. `Double.identifyNaN_eq_of_text_eq`: so the notation tells all numbers apart.
* **`Literal.readDouble_text`** — as a literal, the notation of a double has the bits of that double.
-/

import CelTree.Literal.Basic
import CelTree.Proofs.Double.Characters
import CelTree.Proofs.Double.Rounding

namespace CelTree

open Text

/-! ### Digits, point and exponent -/

namespace Decimal

/-- What may follow the digits of a numeral: nothing, or the letter of an exponent. -/
def EndsDigits (rest : List Char) : Prop := rest = [] ∨ ∃ exponent, rest = 'e' :: exponent

section Numerals

variable {whole rest : List Char} {exponent : Int}

theorem EndsDigits.takeWhile_append (ends : EndsDigits rest)
    (digits : ∀ c ∈ whole, isDigitOf 10 c = true) :
    (whole ++ rest).takeWhile (isDigitOf 10) = whole := by
  rw [List.takeWhile_append_of_pos digits]
  rcases ends with rfl | ⟨exponent, rfl⟩
  · exact List.append_nil whole
  · exact List.append_nil whole

theorem EndsDigits.dropWhile_append (ends : EndsDigits rest)
    (digits : ∀ c ∈ whole, isDigitOf 10 c = true) :
    (whole ++ rest).dropWhile (isDigitOf 10) = rest := by
  rw [List.dropWhile_append_of_pos digits]
  rcases ends with rfl | ⟨exponent, rfl⟩ <;> rfl

/-- Where no point follows, there is no fraction. -/
theorem EndsDigits.splitFraction (ends : EndsDigits rest) :
    Decimal.splitFraction rest = ([], rest) := by
  rcases ends with rfl | ⟨exponent, rfl⟩ <;> rfl

theorem readNumeral_of_digits {digits : List Char} (nonempty : digits ≠ [])
    (all : ∀ c ∈ digits, isDigitOf 10 c = true) :
    readNumeral 10 digits = some (numeralValue 10 digits) := by
  rw [readNumeral, if_pos ⟨nonempty, List.all_eq_true.mpr all⟩]

/-- Digits without a point. -/
theorem readUnsigned_whole (nonempty : whole ≠ [])
    (digits : ∀ c ∈ whole, isDigitOf 10 c = true) (ends : EndsDigits rest)
    (reads : readExponent rest = some exponent) :
    readUnsigned (whole ++ rest) = some ⟨numeralValue 10 whole, exponent⟩ := by
  unfold readUnsigned
  simp only [ends.takeWhile_append digits, ends.dropWhile_append digits, ends.splitFraction, reads,
    List.append_nil, readNumeral_of_digits nonempty digits, List.length_nil, Nat.cast_zero,
    Int.sub_zero]

/-- Digits around a point. -/
theorem readUnsigned_point (fraction : List Char) (nonempty : whole ≠ [])
    (digits : ∀ c ∈ whole ++ fraction, isDigitOf 10 c = true) (ends : EndsDigits rest)
    (reads : readExponent rest = some exponent) :
    readUnsigned (whole ++ '.' :: (fraction ++ rest)) =
      some ⟨numeralValue 10 (whole ++ fraction), exponent - fraction.length⟩ := by
  have before : ∀ c ∈ whole, isDigitOf 10 c = true :=
    fun c member => digits c (List.mem_append_left _ member)
  have after : ∀ c ∈ fraction, isDigitOf 10 c = true :=
    fun c member => digits c (List.mem_append_right _ member)
  have taken : (whole ++ '.' :: (fraction ++ rest)).takeWhile (isDigitOf 10) = whole := by
    rw [List.takeWhile_append_of_pos before]
    exact List.append_nil whole
  have dropped : (whole ++ '.' :: (fraction ++ rest)).dropWhile (isDigitOf 10) =
      '.' :: (fraction ++ rest) := by
    rw [List.dropWhile_append_of_pos before]
    rfl
  have number := readNumeral_of_digits (List.append_ne_nil_of_left_ne_nil nonempty fraction) digits
  unfold readUnsigned
  simp only [taken, dropped, Decimal.splitFraction, ends.takeWhile_append after,
    ends.dropWhile_append after, number, reads]

end Numerals

end Decimal

/-! ### Formats -/

namespace DecimalLayout

open Decimal

/-- A format whose exponents read back, and whose whole numbers end in nothing or in a zero behind
a point. -/
structure Legible (layout : DecimalLayout) : Prop where
  wholeEnd : layout.wholeEnd = [] ∨ layout.wholeEnd = ['.', '0']
  exponentText : ∀ exponent, readExponent ('e' :: layout.exponentText exponent) = some exponent

section Texts

variable {digits : List Char} (exponent : Int)

/-- Digits in positional notation read back, perhaps with zeros at their end. -/
theorem read_positional {wholeEnd : List Char} (ending : wholeEnd = [] ∨ wholeEnd = ['.', '0'])
    (nonempty : digits ≠ []) (all : ∀ c ∈ digits, isDigitOf 10 c = true) :
    ∃ places : Nat, readUnsigned (positional wholeEnd digits exponent) =
      some ⟨numeralValue 10 digits * 10 ^ places, exponent - places⟩ := by
  have zeros (count : Nat) : ∀ c ∈ digits ++ List.replicate count '0', isDigitOf 10 c = true := by
    intro c member
    rcases List.mem_append.mp member with digit | zero
    · exact all c digit
    · exact isDigitOf_of_mem_replicate_zero zero
  have shifted (count : Nat) : numeralValue 10 (digits ++ List.replicate count '0') =
      numeralValue 10 digits * 10 ^ count := by
    rw [numeralValue_append, numeralValue_replicate_zero, List.length_replicate, Nat.add_zero]
  unfold positional
  split
  · rename_i whole
    have nonempty' : digits ++ List.replicate exponent.toNat '0' ≠ [] :=
      List.append_ne_nil_of_left_ne_nil nonempty _
    rcases ending with rfl | rfl
    · refine ⟨exponent.toNat, ?_⟩
      rw [readUnsigned_whole nonempty' (zeros _) (.inl rfl) rfl, shifted]
      congr 2
      omega
    · refine ⟨exponent.toNat + 1, ?_⟩
      have oneMore : digits ++ List.replicate exponent.toNat '0' ++ ['0'] =
          digits ++ List.replicate (exponent.toNat + 1) '0' := by
        rw [List.append_assoc, List.replicate_succ']
      have read := readUnsigned_point ['0'] nonempty' (oneMore ▸ zeros _)
        (.inl rfl) rfl
      rw [oneMore, shifted] at read
      rw [← List.append_nil ['0'], read]
      congr 2
      simp only [List.length_singleton]
      omega
  · rename_i negative
    refine ⟨0, ?_⟩
    rw [pow_zero, Nat.mul_one]
    simp only
    split
    · rename_i inside
      have split' := List.take_append_drop (digits.length - (-exponent).toNat) digits
      have nonempty' : digits.take (digits.length - (-exponent).toNat) ≠ [] := by
        intro empty
        have length := congrArg List.length empty
        rw [List.length_take, List.length_nil] at length
        omega
      have read := readUnsigned_point (digits.drop (digits.length - (-exponent).toNat)) nonempty'
        (split'.symm ▸ all) (.inl rfl) rfl
      rw [split', List.append_nil, List.length_drop] at read
      rw [read]
      congr 2
      omega
    · rename_i outside
      have padded : ∀ c ∈ ['0'] ++ (List.replicate ((-exponent).toNat - digits.length) '0' ++ digits),
          isDigitOf 10 c = true := by
        intro c member
        rcases List.mem_append.mp member with first | later
        · rw [List.mem_singleton.mp first]
          rfl
        · rcases List.mem_append.mp later with zero | digit
          · exact isDigitOf_of_mem_replicate_zero zero
          · exact all c digit
      have read := readUnsigned_point _ (List.cons_ne_nil '0' []) padded (.inl rfl) rfl
      have value := numeralValue_pad 1
        (List.replicate ((-exponent).toNat - digits.length) '0' ++ digits)
      rw [List.replicate_one, numeralValue_pad] at value
      rw [value, List.append_nil] at read
      refine Eq.trans read ?_
      congr 2
      rw [List.length_append, List.length_replicate]
      omega

/-- Digits in scientific notation read back. -/
theorem read_scientific {exponentText : List Char}
    (exponents : readExponent ('e' :: exponentText) = some (digits.length - 1 + exponent))
    (nonempty : digits ≠ []) (all : ∀ c ∈ digits, isDigitOf 10 c = true) :
    readUnsigned (scientific exponentText digits) = some ⟨numeralValue 10 digits, exponent⟩ := by
  unfold scientific
  split
  · rename_i first second others
    have read := readUnsigned_point (second :: others) (List.cons_ne_nil first [])
      all (.inr ⟨exponentText, rfl⟩) exponents
    refine Eq.trans read ?_
    congr 2
    simp only [List.length_cons, Nat.cast_add, Nat.cast_one]
    omega
  · rename_i several
    have single : digits.length = 1 := by
      match digits, nonempty, several with
      | [_], _, _ => rfl
      | first :: second :: others, _, several => exact absurd rfl (several first second others)
    rw [readUnsigned_whole nonempty all (.inr ⟨exponentText, rfl⟩) exponents, single]
    congr 2
    omega

end Texts

/-- A decimal written in a legible format reads back, perhaps with zeros at its end. -/
theorem read_write {layout : DecimalLayout} (legible : layout.Legible) (d : Decimal) :
    ∃ places : Nat, readUnsigned (layout.write d) =
      some ⟨d.digits * 10 ^ places, d.exponent - places⟩ := by
  have nonempty := writeDecimal_ne_nil d.digits
  have all : ∀ c ∈ writeDecimal d.digits, isDigitOf 10 c = true :=
    fun c member => isDigitOf_of_mem_writeDecimal member
  unfold write
  simp only
  split
  · obtain ⟨places, read⟩ := read_positional d.exponent legible.wholeEnd nonempty all
    rw [numeralValue_writeDecimal] at read
    exact ⟨places, read⟩
  · refine ⟨0, ?_⟩
    have read := read_scientific d.exponent (legible.exponentText _) nonempty all
    rw [numeralValue_writeDecimal] at read
    rw [read, pow_zero, Nat.mul_one, Nat.cast_zero, Int.sub_zero]

/-- A decimal in any format starts with a digit. -/
theorem write_starts (layout : DecimalLayout) (d : Decimal) :
    ∃ c rest, layout.write d = c :: rest ∧ isDigitOf 10 c = true := by
  have all : ∀ c ∈ writeDecimal d.digits, isDigitOf 10 c = true :=
    fun c member => isDigitOf_of_mem_writeDecimal member
  obtain ⟨first, more, digits⟩ := List.exists_cons_of_ne_nil (writeDecimal_ne_nil d.digits)
  have digit : isDigitOf 10 first = true := all first (digits ▸ List.mem_cons_self)
  unfold write
  simp only [digits]
  split
  · unfold positional
    simp only
    split
    · exact ⟨first, _, rfl, digit⟩
    · split
      · rename_i inside
        obtain ⟨before, length⟩ : ∃ before,
            (first :: more).length - (-d.exponent).toNat = before + 1 :=
          ⟨(first :: more).length - (-d.exponent).toNat - 1, by omega⟩
        rw [length]
        exact ⟨first, _, rfl, digit⟩
      · exact ⟨'0', _, rfl, rfl⟩
  · unfold scientific
    split
    · rename_i first' second others same
      cases same
      exact ⟨first, _, rfl, digit⟩
    · exact ⟨first, _, rfl, digit⟩

end DecimalLayout

/-! ### Doubles -/

namespace Double

open DecimalLayout

/-- A double is its sign and its magnitude. -/
theorem ofMagnitude_isNegative_magnitude (x : Double) : ofMagnitude x.isNegative x.magnitude = x := by
  obtain ⟨bits⟩ := x
  have bounded : bits.toNat < Nat.pow 2 64 := bits.toNat_lt
  have double : Nat.pow 2 64 = Nat.pow 2 63 + Nat.pow 2 63 := by decide
  unfold ofMagnitude isNegative magnitude
  congr 1
  apply UInt64.toNat_inj.mp
  rw [UInt64.toNat_ofNat']
  split
  · rename_i negative
    have high : Nat.pow 2 63 ≤ bits.toNat := of_decide_eq_true negative
    have low : bits.toNat % Nat.pow 2 63 = bits.toNat - Nat.pow 2 63 := by
      rw [Nat.mod_eq_sub_mod high, Nat.mod_eq_of_lt (by omega)]
    rw [low, Nat.add_sub_cancel' high]
    exact Nat.mod_eq_of_lt bounded
  · rename_i positive
    have low : bits.toNat < Nat.pow 2 63 := by
      rw [← Nat.not_le]
      exact fun high => positive (decide_eq_true high)
    rw [Nat.mod_eq_of_lt low]
    exact Nat.mod_eq_of_lt bounded

theorem splitSign_minus (body : List Char) : splitSign ('-' :: body) = (true, body) := rfl

/-- Digits carry no sign. -/
theorem splitSign_digit {c : Char} (digit : isDigitOf 10 c = true) (rest : List Char) :
    splitSign (c :: rest) = (false, c :: rest) := by
  obtain ⟨notMinus, notPlus⟩ : c ≠ '-' ∧ c ≠ '+' := of_isDigitOf digit (by decide)
  unfold splitSign
  split
  · rename_i same
    exact absurd (List.cons.inj same).1 notMinus
  · rename_i same
    exact absurd (List.cons.inj same).1 notPlus
  · rfl

/-- What starts with a digit is not the name of a special value. -/
theorem map_toLower_ne {c : Char} (digit : isDigitOf 10 c = true) (rest : List Char)
    {name : List Char} (letter : name.head? = some 'i' ∨ name.head? = some 'n') :
    (c :: rest).map Char.toLower ≠ name := by
  obtain ⟨notI, notN⟩ : c.toLower ≠ 'i' ∧ c.toLower ≠ 'n' := of_isDigitOf digit (by decide)
  rintro rfl
  rcases letter with i | n
  · exact notI (Option.some.inj i)
  · exact notN (Option.some.inj n)

/-- An unsigned numeral after a sign. -/
theorem read_of_splitSign {text body : List Char} {negative : Bool} {c : Char} {rest : List Char}
    {d : Decimal} (sign : splitSign text = (negative, body)) (starts : body = c :: rest)
    (digit : isDigitOf 10 c = true) (reads : Decimal.readUnsigned body = some d) :
    read text = some (ofDecimal negative d) := by
  have notInf := map_toLower_ne digit rest (.inl (by decide : "inf".toList.head? = some 'i'))
  have notInfinity :=
    map_toLower_ne digit rest (.inl (by decide : "infinity".toList.head? = some 'i'))
  have notNan := map_toLower_ne digit rest (.inr (by decide : "nan".toList.head? = some 'n'))
  unfold read
  rw [starts] at sign reads
  simp only [sign]
  rw [if_neg (not_or.mpr ⟨notInf, notInfinity⟩), if_neg notNan, reads]
  rfl

/-- A finite double reads back from every legible format. -/
theorem read_writeFinite {layout : DecimalLayout} (legible : layout.Legible) (tie : Tie)
    {x : Double} (finite : x.isFinite = true) : read (x.writeFinite layout tie) = some x := by
  obtain ⟨places, reads⟩ := read_write legible (shortestDecimal tie x.magnitude)
  obtain ⟨c, rest, starts, digit⟩ := layout.write_starts (shortestDecimal tie x.magnitude)
  have magnitude := toMagnitude_shortestDecimal tie (of_decide_eq_true finite)
  rw [← Decimal.toMagnitude_scale _ _ places] at magnitude
  have sign : splitSign (x.writeFinite layout tie) =
      (x.isNegative, layout.write (shortestDecimal tie x.magnitude)) := by
    unfold writeFinite
    cases x.isNegative with
    | false =>
      show splitSign (layout.write (shortestDecimal tie x.magnitude)) = _
      rw [starts, splitSign_digit digit]
    | true => exact splitSign_minus _
  rw [read_of_splitSign sign starts digit reads, ofDecimal, magnitude,
    ofMagnitude_isNegative_magnitude]

theorem readExponent_minus (digits : List Char) :
    Decimal.readExponent ('e' :: '-' :: digits) =
      (readNumeral 10 digits).map fun (value : Nat) => -(value : Int) := by
  rw [Decimal.readExponent, if_pos (.inl rfl)]
  cases readNumeral 10 digits <;> rfl

theorem readExponent_plus (digits : List Char) :
    Decimal.readExponent ('e' :: '+' :: digits) =
      (readNumeral 10 digits).map fun (value : Nat) => (value : Int) := by
  rw [Decimal.readExponent, if_pos (.inl rfl)]
  cases readNumeral 10 digits <;> rfl

/-- A bare exponent reads back. -/
theorem readExponent_writeInteger (exponent : Int) :
    Decimal.readExponent ('e' :: writeInteger exponent) = some exponent := by
  unfold writeInteger
  by_cases negative : exponent < 0
  · rw [if_pos negative, readExponent_minus, readNumeral_writeDecimal, Option.map_some]
    congr 1
    omega
  · have magnitude : (exponent.natAbs : Int) = exponent := by omega
    have reads := readNumeral_writeDecimal exponent.natAbs
    rw [if_neg negative]
    unfold Decimal.readExponent
    simp only [true_or, if_true]
    split
    · rename_i same
      exact absurd same (writeDecimal_ne_minus _ _)
    · rename_i same
      exact absurd same (writeDecimal_ne_plus _ _)
    · rw [reads]
      exact congrArg some magnitude

/-- A padded exponent reads back. -/
theorem readExponent_paddedExponent (exponent : Int) :
    Decimal.readExponent ('e' :: paddedExponent exponent) = some exponent := by
  unfold paddedExponent padTwo
  by_cases negative : exponent < 0
  · rw [if_pos negative, readExponent_minus, readNumeral_pad, Option.map_some]
    congr 1
    omega
  · rw [if_neg negative, readExponent_plus, readNumeral_pad, Option.map_some]
    congr 1
    omega

/-- The layouts of tree notation can be read. -/
theorem legible_of_mem_treeLayouts {layout : DecimalLayout} (tree : layout ∈ treeLayouts) :
    layout.Legible := by
  refine ⟨.inl (wholeEnd_of_mem_treeLayouts tree), ?_⟩
  simp only [treeLayouts, List.mem_cons, List.not_mem_nil, or_false] at tree
  rcases tree with rfl | rfl | rfl
  · exact readExponent_writeInteger
  · exact readExponent_writeInteger
  · exact readExponent_paddedExponent

/-- The same double, but one and the same value for all that is not a number. -/
def identifyNaN (x : Double) : Double := if x.isNaN then nan else x

/-- **A double reads back from tree notation**, and what is not a number reads back as no
number. -/
theorem read_text (x : Double) : read x.text = some x.identifyNaN := by
  unfold identifyNaN
  by_cases notNumber : x.isNaN = true
  · rw [text, if_pos notNumber, if_pos notNumber]
    decide
  · rw [if_neg notNumber]
    by_cases infinite : x.isInfinite = true
    · have magnitude : x.magnitude = infinity := of_decide_eq_true infinite
      have whole := ofMagnitude_isNegative_magnitude x
      rw [text, if_neg notNumber, if_pos infinite, ← whole, magnitude]
      cases x.isNegative <;> decide
    · have finite : x.isFinite = true := by
        simp only [isNaN, isInfinite, isFinite, decide_eq_true_eq] at *
        omega
      obtain ⟨layout, tree, written⟩ := exists_treeLayout finite
      rw [written]
      exact read_writeFinite (legible_of_mem_treeLayouts tree) .up finite

/-- Tree notation tells all numbers apart. -/
theorem identifyNaN_eq_of_text_eq {x y : Double} (same : x.text = y.text) :
    x.identifyNaN = y.identifyNaN := by
  have read := read_text x
  rw [same, read_text y] at read
  exact (Option.some.inj read).symm

theorem isNaN_identifyNaN (x : Double) : x.identifyNaN.isNaN = x.isNaN := by
  unfold identifyNaN
  split
  · rename_i notNumber
    rw [notNumber]
    decide
  · rfl

/-- What is not a number has one notation. -/
theorem text_identifyNaN (x : Double) : x.identifyNaN.text = x.text := by
  by_cases notNumber : x.isNaN = true
  · rw [text, isNaN_identifyNaN, if_pos notNumber, text, if_pos notNumber]
  · rw [identifyNaN, if_neg notNumber]

end Double

/-- **Doubles survive rendering.** The notation of a double, given as a literal, is accepted, and
its value has the same bits, or is no number if the double is none. So no two numbers share a
notation, the zeros and the infinities included. -/
theorem Literal.readDouble_text (x : Double) :
    (∃ y, Literal.readDouble (String.ofList x.text) = .ok y ∧
      if x.isNaN then y.isNaN = true else y.bits = x.bits) ∧
    ∀ y : Double, x.text = y.text ↔ x.bits = y.bits ∨ (x.isNaN = true ∧ y.isNaN = true) := by
  constructor
  · refine ⟨x.identifyNaN, ?_, ?_⟩
    · rw [Literal.readDouble, String.toList_ofList, Double.read_text]
    · rw [Double.isNaN_identifyNaN]
      split
      · assumption
      · rename_i number
        rw [Double.identifyNaN, if_neg number]
  · intro y
    constructor
    · intro same
      have identified := Double.identifyNaN_eq_of_text_eq same
      have both : x.isNaN = y.isNaN := by
        rw [← Double.isNaN_identifyNaN x, identified, Double.isNaN_identifyNaN]
      by_cases number : x.isNaN = true
      · exact .inr ⟨number, both ▸ number⟩
      · rw [Double.identifyNaN, if_neg number, Double.identifyNaN, if_neg (both ▸ number)]
          at identified
        exact .inl (congrArg Double.bits identified)
    · rintro (bits | ⟨noNumber, noNumber'⟩)
      · rw [show x = y from congrArg Double.mk bits]
      · rw [Double.text, if_pos noNumber, Double.text, if_pos noNumber']

end CelTree
