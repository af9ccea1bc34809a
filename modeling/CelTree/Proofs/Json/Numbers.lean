/-
**Numbers of a document read back.**

* `isWhole_writeDecimal`: a numeral has no leading zero, and so is the whole part of a number.
* `isNumber_writeInteger`, `readInteger_writeInteger`: integers are written as numbers and read back.
* `isNumber_writeFinite`: so are the finite doubles, positional or not.
* `ReadsBack`: a way to read spellings under which doubles read back (`toDouble_ofDouble`). Reading
  the nearest double is one (`readsBack_read`), reading by scaling is not.
* `isScalarChar_of_isNumber`: a number is one run of characters between separators.
-/

import CelTree.Json.Token
import CelTree.Proofs.Double.ReadBack
import Mathlib.Data.List.Basic
import Mathlib.Data.List.TakeWhile

namespace CelTree.Json

open CelTree.Text

/-! ### Whole parts -/

/-- A numeral of a positive number has no leading zero. -/
theorem head?_writeDecimal {value : Nat} (positive : 0 < value) :
    (writeDecimal value).head? ≠ some '0' := by
  unfold writeDecimal
  induction value using Nat.base_induction 10 (by decide) with
  | single digit small =>
    rw [Nat.toDigits_of_lt_base small]
    have each : ∀ digit < 10, 0 < digit → [digit.digitChar].head? ≠ some '0' := by decide
    exact each digit small positive
  | digit rest digit small nonzero ih =>
    rw [← Nat.toDigits_append_toDigits (by decide) nonzero small,
      List.head?_append_of_ne_nil _ Nat.toDigits_ne_nil]
    exact ih nonzero

/-- Digits without a leading zero are a whole part. -/
theorem isWhole_of_digits {digits : List Char} (nonempty : digits ≠ [])
    (all : ∀ c ∈ digits, isDigitOf 10 c = true) (noZero : digits.head? ≠ some '0') :
    isWhole digits = true := by
  unfold isWhole
  split
  · rfl
  · exact absurd rfl noZero
  · rw [Bool.and_eq_true]
    exact ⟨bne_iff_ne.mpr nonempty, List.all_eq_true.mpr all⟩

/-- A decimal is written as a single zero or without a leading zero. -/
theorem isWhole_writeDecimal (value : Nat) : isWhole (writeDecimal value) = true := by
  rcases Nat.eq_zero_or_pos value with rfl | positive
  · rfl
  · exact isWhole_of_digits (writeDecimal_ne_nil value)
      (fun _ member => isDigitOf_of_mem_writeDecimal member) (head?_writeDecimal positive)

/-! ### Numbers by their parts -/

/-- What may follow digits: nothing, a point or an exponent. -/
def EndsWhole (tail : List Char) : Prop := ∀ c rest, tail = c :: rest → isDigitOf 10 c = false

theorem endsWhole_nil : EndsWhole [] := by
  intro c rest same
  cases same

theorem endsWhole_cons {c : Char} (notDigit : isDigitOf 10 c = false) (rest : List Char) :
    EndsWhole (c :: rest) := by
  rintro _ _ ⟨⟩
  exact notDigit

section Parts

variable {digits tail : List Char}

/-- Digits are split from what ends them. -/
theorem takeWhile_digits (all : ∀ c ∈ digits, isDigitOf 10 c = true) (ends : EndsWhole tail) :
    (digits ++ tail).takeWhile (isDigitOf 10) = digits := by
  rw [List.takeWhile_append_of_pos all]
  cases tail with
  | nil => exact List.append_nil digits
  | cons c rest =>
    rw [List.takeWhile_cons, ends c rest rfl, if_neg Bool.false_ne_true, List.append_nil]

theorem dropWhile_digits (all : ∀ c ∈ digits, isDigitOf 10 c = true) (ends : EndsWhole tail) :
    (digits ++ tail).dropWhile (isDigitOf 10) = tail := by
  rw [List.dropWhile_append_of_pos all]
  cases tail with
  | nil => rfl
  | cons c rest => rw [List.dropWhile_cons, ends c rest rfl, if_neg Bool.false_ne_true]

/-- A whole part and what may follow it make up a number. -/
theorem isUnsigned_append (whole : isWhole digits = true)
    (all : ∀ c ∈ digits, isDigitOf 10 c = true) (ends : EndsWhole tail)
    (follows : isTail tail = true) : isUnsigned (digits ++ tail) = true := by
  rw [isUnsigned, takeWhile_digits all ends, dropWhile_digits all ends, whole, follows]
  rfl

/-- A point with digits, and an exponent. -/
theorem isTail_point (nonempty : digits ≠ []) (all : ∀ c ∈ digits, isDigitOf 10 c = true)
    (ends : EndsWhole tail) (follows : isExponent tail = true) :
    isTail ('.' :: (digits ++ tail)) = true := by
  rw [isTail, takeWhile_digits all ends, dropWhile_digits all ends, follows, Bool.and_true]
  exact bne_iff_ne.mpr nonempty

end Parts

/-- A written integer behind a letter is an exponent, with its sign or without one. -/
theorem isExponent_writeInteger (exponent : Int) :
    isExponent ('e' :: writeInteger exponent) = true := by
  have all : (writeDecimal exponent.natAbs).all (isDigitOf 10) = true :=
    List.all_eq_true.mpr fun _ member => isDigitOf_of_mem_writeDecimal member
  have nonempty : (writeDecimal exponent.natAbs != []) = true :=
    bne_iff_ne.mpr (writeDecimal_ne_nil _)
  unfold writeInteger
  split
  · show (writeDecimal exponent.natAbs != [] && (writeDecimal exponent.natAbs).all _) = true
    rw [nonempty, all]
    rfl
  · unfold isExponent
    simp only
    split
    · rename_i same
      exact absurd same (writeDecimal_ne_plus _ _)
    · rename_i same
      exact absurd same (writeDecimal_ne_minus _ _)
    · rw [nonempty, all]
      rfl

/-- Digits do not start with a sign. -/
theorem isNumber_of_isUnsigned {spelling : List Char} (unsigned : isUnsigned spelling = true) :
    isNumber spelling = true := by
  unfold isNumber
  split
  · rename_i rest
    have sign : isUnsigned ('-' :: rest) = false := rfl
    rw [sign] at unsigned
    cases unsigned
  · exact unsigned

/-! ### Integers -/

theorem isUnsigned_writeDecimal (value : Nat) : isUnsigned (writeDecimal value) = true := by
  have unsigned := isUnsigned_append (isWhole_writeDecimal value)
    (fun _ member => isDigitOf_of_mem_writeDecimal member) endsWhole_nil rfl
  rwa [List.append_nil] at unsigned

theorem isNumber_writeInteger (value : Int) : isNumber (writeInteger value) = true := by
  unfold writeInteger
  split
  · exact isUnsigned_writeDecimal _
  · exact isNumber_of_isUnsigned (isUnsigned_writeDecimal _)

/-- An integer reads back. It is never written as minus zero. -/
theorem readInteger_writeInteger (value : Int) : readInteger (writeInteger value) = some value := by
  unfold writeInteger
  split
  · rename_i negative
    have nonzero : writeDecimal value.natAbs ≠ ['0'] := by
      intro zero
      exact head?_writeDecimal (Int.natAbs_pos.mpr (Int.ne_of_lt negative)) (by rw [zero]; rfl)
    rw [readInteger, if_pos ⟨isWhole_writeDecimal _, nonzero⟩, numeralValue_writeDecimal]
    congr 1
    omega
  · unfold readInteger
    split
    · rename_i same
      exact absurd same (writeDecimal_ne_minus _ _)
    · rw [if_pos (isWhole_writeDecimal _), numeralValue_writeDecimal]
      congr 1
      omega

/-- An integer within its bounds reads back. -/
theorem toIntegerWithin_ofInteger {low high value : Int} (inside : low ≤ value ∧ value < high) :
    (ofInteger value).toIntegerWithin low high = some value := by
  rw [toIntegerWithin, ofInteger, toInteger, readInteger_writeInteger, Option.filter_some]
  simp [inside]

/-- An integer that is read lies within its bounds. -/
theorem bounds_of_toIntegerWithin {low high value : Int} {json : Json}
    (read : json.toIntegerWithin low high = some value) : low ≤ value ∧ value < high := by
  have inside := (Option.filter_eq_some_iff.mp read).2
  simpa using inside

/-- The integers of 64 bits with a sign. -/
def IsInt64 (value : Int) : Prop := -0x8000000000000000 ≤ value ∧ value < 0x8000000000000000

instance (value : Int) : Decidable (IsInt64 value) := inferInstanceAs (Decidable (_ ∧ _))

theorem toInt64_ofInteger {value : Int} (inside : IsInt64 value) :
    (ofInteger value).toInt64 = some value := toIntegerWithin_ofInteger inside

theorem isInt64_of_toInt64 {json : Json} {value : Int} (read : json.toInt64 = some value) :
    IsInt64 value := bounds_of_toIntegerWithin read

theorem isInt64_toInt (value : Int64) : IsInt64 value.toInt :=
  ⟨value.le_toInt, value.toInt_lt⟩

/-- Unsigned integers of 64 bits read back, the greatest one included. -/
theorem toUInt64_ofInteger (value : UInt64) : (ofInteger value.toNat).toUInt64 = some value := by
  have inside : (0 : Int) ≤ value.toNat ∧ (value.toNat : Int) < 0x10000000000000000 := by
    have := value.toNat_lt
    omega
  rw [toUInt64, toIntegerWithin_ofInteger inside, Option.map_some, Int.toNat_natCast,
    UInt64.ofNat_toNat]

theorem toInt32_ofInteger (value : Int32) : (ofInteger value.toInt).toInt32 = some value := by
  have inside : -0x80000000 ≤ value.toInt ∧ value.toInt < 0x80000000 :=
    ⟨value.le_toInt, value.toInt_lt⟩
  rw [toInt32, toIntegerWithin_ofInteger inside, Option.map_some, Int32.ofInt_toInt]

theorem toByte_ofInteger (value : UInt8) : (ofInteger value.toNat).toByte = some value := by
  have inside : (0 : Int) ≤ value.toNat ∧ (value.toNat : Int) < 0x100 := by
    have := value.toNat_lt
    omega
  rw [toByte, toIntegerWithin_ofInteger inside, Option.map_some, Int.toNat_natCast,
    UInt8.ofNat_toNat]

/-! ### Doubles -/

/-- Whole numbers end in a fraction of zero and exponents are bare, so both can be read. -/
theorem legible_doubleLayout : doubleLayout.Legible :=
  ⟨.inr rfl, Double.readExponent_writeInteger⟩

/-- The digits of a decimal that is not zero have no leading zero, and zero is written as one digit
without an exponent. -/
theorem leads_shortestDecimal {magnitude : Nat} (tie : Tie) (finite : magnitude < Double.infinity) :
    (writeDecimal (Double.shortestDecimal tie magnitude).digits).head? ≠ some '0' ∨
      Double.shortestDecimal tie magnitude = ⟨0, 0⟩ := by
  rcases Nat.eq_zero_or_pos (Double.shortestDecimal tie magnitude).digits with zero | positive
  · have value := Double.toMagnitude_shortestDecimal tie finite
    rw [Decimal.toMagnitude, if_pos zero] at value
    right
    rw [Double.shortestDecimal, if_pos value.symm]
  · exact .inl (head?_writeDecimal positive)

section Layouts

variable {digits : List Char} (all : ∀ c ∈ digits, isDigitOf 10 c = true)

include all

/-- Positional notation is a number, if there is no leading zero. -/
theorem isUnsigned_positional (nonempty : digits ≠ []) {exponent : Int}
    (leads : digits.head? ≠ some '0' ∨ digits = ['0'] ∧ exponent = 0) :
    isUnsigned (DecimalLayout.positional ['.', '0'] digits exponent) = true := by
  have point : isDigitOf 10 '.' = false := rfl
  unfold DecimalLayout.positional
  split
  · have inside : ∀ c ∈ digits ++ List.replicate exponent.toNat '0', isDigitOf 10 c = true :=
      List.forall_mem_append.mpr ⟨all, fun _ member => isDigitOf_of_mem_replicate_zero member⟩
    refine isUnsigned_append ?_ inside (endsWhole_cons point _) rfl
    rcases leads with noZero | ⟨rfl, rfl⟩
    · refine isWhole_of_digits (List.append_ne_nil_of_left_ne_nil nonempty _) inside ?_
      rwa [List.head?_append_of_ne_nil _ nonempty]
    · rfl
  · rename_i negative
    simp only
    split
    · rename_i several
      have noZero : digits.head? ≠ some '0' := by
        rcases leads with noZero | ⟨rfl, rfl⟩
        · exact noZero
        · omega
      have kept : digits.take (digits.length - (-exponent).toNat) ≠ [] := by
        rw [Ne, List.take_eq_nil_iff, not_or]
        exact ⟨by omega, nonempty⟩
      have others : digits.drop (digits.length - (-exponent).toNat) ≠ [] := by
        rw [Ne, List.drop_eq_nil_iff]
        omega
      have before : ∀ c ∈ digits.take (digits.length - (-exponent).toNat),
          isDigitOf 10 c = true := fun c member => all c (List.mem_of_mem_take member)
      have after : ∀ c ∈ digits.drop (digits.length - (-exponent).toNat),
          isDigitOf 10 c = true := fun c member => all c (List.mem_of_mem_drop member)
      refine isUnsigned_append (isWhole_of_digits kept before ?_) before
        (endsWhole_cons point _) ?_
      · rw [List.head?_take, if_neg (by omega)]
        exact noZero
      · have tail := isTail_point others after endsWhole_nil rfl
        rwa [List.append_nil] at tail
    · have padded : ∀ c ∈ List.replicate ((-exponent).toNat - digits.length) '0' ++ digits,
          isDigitOf 10 c = true :=
        List.forall_mem_append.mpr ⟨fun _ member => isDigitOf_of_mem_replicate_zero member, all⟩
      have tail := isTail_point (List.append_ne_nil_of_right_ne_nil _ nonempty) padded
        endsWhole_nil rfl
      rw [List.append_nil] at tail
      show isUnsigned (['0'] ++ '.' :: (List.replicate _ '0' ++ digits)) = true
      exact isUnsigned_append rfl (List.forall_mem_singleton.mpr rfl) (endsWhole_cons point _) tail

/-- Scientific notation is a number. -/
theorem isUnsigned_scientific (nonempty : digits ≠ []) (exponent : Int) :
    isUnsigned (DecimalLayout.scientific (writeInteger exponent) digits) = true := by
  have letter : EndsWhole ('e' :: writeInteger exponent) := endsWhole_cons rfl _
  have single {c : Char} (digit : isDigitOf 10 c = true) : isWhole [c] = true :=
    of_isDigitOf digit (by decide)
  obtain ⟨first, others, rfl⟩ := List.exists_cons_of_ne_nil nonempty
  obtain ⟨one, more⟩ := List.forall_mem_cons.mp all
  cases others with
  | nil => exact isUnsigned_append (single one) all letter (isExponent_writeInteger exponent)
  | cons second others =>
    show isUnsigned ([first] ++ '.' :: ((second :: others) ++ 'e' :: writeInteger exponent)) = true
    exact isUnsigned_append (single one) (List.forall_mem_singleton.mpr one)
      (endsWhole_cons rfl _)
      (isTail_point (List.cons_ne_nil second others) more letter (isExponent_writeInteger exponent))

end Layouts

/-- A finite double is written as a number. -/
theorem isNumber_writeFinite {x : Double} (finite : x.isFinite = true) :
    isNumber (x.writeFinite doubleLayout .even) = true := by
  have all : ∀ c ∈ writeDecimal (Double.shortestDecimal .even x.magnitude).digits,
      isDigitOf 10 c = true := fun _ member => isDigitOf_of_mem_writeDecimal member
  have nonempty := writeDecimal_ne_nil (Double.shortestDecimal .even x.magnitude).digits
  have unsigned :
      isUnsigned (doubleLayout.write (Double.shortestDecimal .even x.magnitude)) = true := by
    unfold DecimalLayout.write
    simp only
    split
    · refine isUnsigned_positional all nonempty ?_
      rcases leads_shortestDecimal .even (of_decide_eq_true finite) with noZero | zero
      · exact .inl noZero
      · exact .inr (by rw [zero]; exact ⟨rfl, rfl⟩)
    · exact isUnsigned_scientific all nonempty _
  unfold Double.writeFinite
  split
  · exact unsigned
  · exact isNumber_of_isUnsigned unsigned

/-- A finite double, written with its shortest digits, is read as the same double. -/
def ReadsBack (read : List Char → Option Double) : Prop :=
  ∀ x : Double, x.isFinite = true → read (x.writeFinite doubleLayout .even) = some x

/-- The nearest double reads back. -/
theorem readsBack_read : ReadsBack Double.read :=
  fun _ finite => Double.read_writeFinite legible_doubleLayout .even finite

/-- A significand over a power of ten is rounded twice, so it may miss the nearest double. -/
example : readDouble "31.245270191439438".toList ≠ Double.read "31.245270191439438".toList := by
  decide +kernel

section ReadDouble

variable {read : List Char → Option Double}

/-- A finite double reads back as a number of a document. -/
theorem toDouble_ofDouble (readsBack : ReadsBack read) {x : Double} (finite : x.isFinite = true) :
    (ofDouble x).toDouble read = some x := by
  rw [ofDouble, if_pos finite, toDouble, readsBack x finite, Option.filter_some, finite]
  rfl

/-- A double that is read is finite. -/
theorem isFinite_of_toDouble {json : Json} {x : Double} (found : json.toDouble read = some x) :
    x.isFinite = true := by
  unfold toDouble at found
  split at found
  · exact (Option.filter_eq_some_iff.mp found).2
  · cases found

end ReadDouble

/-! ### Characters of numbers -/

theorem isScalarChar_of_isDigitOf {c : Char} (digit : isDigitOf 10 c = true) :
    isScalarChar c = true := of_isDigitOf digit (by decide)

section Characters

variable {text : List Char}

theorem isScalarChar_of_all (digits : text.all (isDigitOf 10) = true) :
    ∀ c ∈ text, isScalarChar c = true :=
  fun c member => isScalarChar_of_isDigitOf (List.all_eq_true.mp digits c member)

theorem isScalarChar_of_isExponent (exponent : isExponent text = true) :
    ∀ c ∈ text, isScalarChar c = true := by
  unfold isExponent at exponent
  split at exponent
  · exact List.forall_mem_nil _
  · rename_i mark rest
    obtain ⟨letter, digits⟩ := Bool.and_eq_true_iff.mp exponent
    refine List.forall_mem_cons.mpr ⟨?_, ?_⟩
    · rcases Bool.or_eq_true_iff.mp letter with same | same
      · rw [beq_iff_eq.mp same]
        rfl
      · rw [beq_iff_eq.mp same]
        rfl
    · split at digits
      · exact List.forall_mem_cons.mpr
          ⟨rfl, isScalarChar_of_all (Bool.and_eq_true_iff.mp digits).2⟩
      · exact List.forall_mem_cons.mpr
          ⟨rfl, isScalarChar_of_all (Bool.and_eq_true_iff.mp digits).2⟩
      · exact isScalarChar_of_all (Bool.and_eq_true_iff.mp digits).2

/-- A text is a run of such characters if what follows its digits is one. -/
theorem isScalarChar_of_split {rest : List Char} (text : List Char)
    (split : text.dropWhile (isDigitOf 10) = rest) (others : ∀ c ∈ rest, isScalarChar c = true) :
    ∀ c ∈ text, isScalarChar c = true := by
  rw [← List.takeWhile_append_dropWhile (p := isDigitOf 10) (l := text), split]
  refine List.forall_mem_append.mpr ⟨fun c member => ?_, others⟩
  exact isScalarChar_of_isDigitOf (List.mem_takeWhile_imp member)

/-- What may follow the whole part is a run of such characters. -/
theorem isScalarChar_of_isTail (tail : isTail text = true) :
    ∀ c ∈ text, isScalarChar c = true := by
  unfold isTail at tail
  split at tail
  · refine List.forall_mem_cons.mpr ⟨rfl, isScalarChar_of_split _ rfl ?_⟩
    exact isScalarChar_of_isExponent (Bool.and_eq_true_iff.mp tail).2
  · exact isScalarChar_of_isExponent tail

/-- A number is one run of characters between separators. -/
theorem isScalarChar_of_isNumber (number : isNumber text = true) :
    ∀ c ∈ text, isScalarChar c = true := by
  have unsigned {text : List Char} (number : isUnsigned text = true) :
      ∀ c ∈ text, isScalarChar c = true :=
    isScalarChar_of_split _ rfl (isScalarChar_of_isTail (Bool.and_eq_true_iff.mp number).2)
  unfold isNumber at number
  split at number
  · exact List.forall_mem_cons.mpr ⟨rfl, unsigned number⟩
  · exact unsigned number

end Characters

end CelTree.Json
