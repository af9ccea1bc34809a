/-
**Integer literals are read exactly.**

A literal is refused as malformed exactly if it is no word of the grammar, and out of range exactly
if the integer that the word denotes is. The words of 128 bits in between do not show: a magnitude
that they cannot hold is out of every range, whatever zeros it starts with, and the opposite of one
that they can hold is one that they can hold.

* `Digits`, `Numeral`, `SignedNumeral`: the grammar, and what its words denote.
* `digits_iff`, `numeral_iff`: recognising a word and computing its value is reading it.
* `Wide.ofDigits?_spec`: the word of a digit sequence is its value, and there is none exactly if the
  value takes more than 128 bits.
* `readMagnitude_cases`: so for numerals.
* **`readInteger_exact`** — signed and unsigned literals.
-/

import CelTree.Literal.Integer
import CelTree.Proofs.Text.Numeral
import Mathlib.Data.List.Induction

namespace CelTree.Literal

open Text

/-! ### The grammar -/

/-- The digits of the bases up to sixteen, in lower case. -/
def lowerDigits : List Char := "0123456789abcdef".toList

/-- The digits of the bases up to sixteen, in upper case. -/
def upperDigits : List Char := "0123456789ABCDEF".toList

/-- A digit of a base, with its value. -/
def IsDigit (base : Nat) (c : Char) (value : Nat) : Prop :=
  value < base ∧ (lowerDigits[value]? = some c ∨ upperDigits[value]? = some c)

/-- A sequence of one or more digits, with the number that it denotes. -/
inductive Digits (base : Nat) : List Char → Nat → Prop
  | one {c : Char} {value : Nat} (digit : IsDigit base c value) : Digits base [c] value
  | more {word : List Char} {number value : Nat} {c : Char} (front : Digits base word number)
    (digit : IsDigit base c value) : Digits base (word ++ [c]) (number * base + value)

/-- A decimal or hexadecimal numeral, with the number that it denotes. -/
inductive Numeral : List Char → Nat → Prop
  | decimal {word : List Char} {number : Nat} (digits : Digits 10 word number) :
    Numeral word number
  | hexadecimal {mark : Char} {word : List Char} {number : Nat} (marked : mark = 'x' ∨ mark = 'X')
    (digits : Digits 16 word number) : Numeral ('0' :: mark :: word) number

/-- A numeral behind at most one minus sign, with the integer that it denotes. -/
inductive SignedNumeral : List Char → Int → Prop
  | bare {word : List Char} {number : Nat} (numeral : Numeral word number) :
    SignedNumeral word number
  | minus {word : List Char} {number : Nat} (numeral : Numeral word number) :
    SignedNumeral ('-' :: word) (-(number : Int))

/-! ### Digits -/

/-- A digit of the grammar has the value that reading gives it. -/
theorem digitValue_of_isDigit {base value : Nat} {c : Char} (small : base ≤ 16)
    (digit : IsDigit base c value) : digitValue c = some value := by
  obtain ⟨below, place⟩ := digit
  have each : ∀ value < 16, (lowerDigits[value]?.toList ++ upperDigits[value]?.toList).all
      (fun c => digitValue c == some value) = true := by decide
  refine beq_iff_eq.mp (List.all_eq_true.mp (each value (by omega)) c ?_)
  rcases place with lower | upper
  · exact List.mem_append_left _ (Option.mem_toList.mpr lower)
  · exact List.mem_append_right _ (Option.mem_toList.mpr upper)

/-- What reading takes for a digit is one of the grammar. -/
theorem isDigit_of_digitValue {base value : Nat} {c : Char} (small : base ≤ 16)
    (below : value < base) (found : digitValue c = some value) : IsDigit base c value := by
  have ascii : c.toNat < 128 := by
    unfold digitValue at found
    split at found
    · rename_i decimal
      have : c.toNat ≤ 57 := decimal.2
      omega
    · split at found
      · rename_i lower
        have : c.toNat ≤ 122 := lower.2
        omega
      · split at found
        · rename_i upper
          have : c.toNat ≤ 90 := upper.2
          omega
        · cases found
  have each : ∀ code < 128, ∀ value ∈ (digitValue (Char.ofNat code)).toList, value < 16 →
      lowerDigits[value]? = some (Char.ofNat code) ∨
        upperDigits[value]? = some (Char.ofNat code) := by decide
  have place := each c.toNat ascii value
  rw [Char.ofNat_toNat] at place
  exact ⟨below, place (Option.mem_toList.mpr found) (by omega)⟩

theorem isDigitOf_of_isDigit {base value : Nat} {c : Char} (small : base ≤ 16)
    (digit : IsDigit base c value) : isDigitOf base c = true := by
  rw [isDigitOf, digitValue_of_isDigit small digit]
  exact decide_eq_true digit.1

theorem exists_isDigit {base : Nat} {c : Char} (small : base ≤ 16)
    (digit : isDigitOf base c = true) : ∃ value, IsDigit base c value := by
  unfold isDigitOf at digit
  split at digit
  · rename_i value found
    exact ⟨value, isDigit_of_digitValue small (of_decide_eq_true digit) found⟩
  · cases digit

/-- One more digit multiplies the value by the base and adds to it. -/
theorem numeralValue_concat {base value : Nat} {c : Char} (small : base ≤ 16)
    (digit : IsDigit base c value) (word : List Char) :
    numeralValue base (word ++ [c]) = numeralValue base word * base + value := by
  rw [numeralValue, List.foldl_append, ← numeralValue, List.foldl_cons, List.foldl_nil,
    digitValue_of_isDigit small digit, Option.getD_some]

/-- A numeral is read exactly if it consists of digits, as their value. -/
theorem readNumeral_eq_some {base number : Nat} {word : List Char} :
    readNumeral base word = some number ↔
      (word ≠ [] ∧ word.all (isDigitOf base) = true) ∧ numeralValue base word = number := by
  unfold readNumeral
  split
  · rename_i all
    simp [all]
  · rename_i none
    simp only [reduceCtorEq, false_iff]
    exact fun both => none both.1

/-- A digit sequence denotes the number as which it is read. -/
theorem digits_iff {base : Nat} (small : base ≤ 16) {word : List Char} {number : Nat} :
    Digits base word number ↔ readNumeral base word = some number := by
  rw [readNumeral_eq_some]
  constructor
  · intro digits
    induction digits with
    | @one c value digit =>
      have value := numeralValue_concat small digit []
      rw [List.nil_append] at value
      refine ⟨⟨List.cons_ne_nil c [], ?_⟩, ?_⟩
      · rw [List.all_cons, isDigitOf_of_isDigit small digit]
        rfl
      · rw [value]
        exact Nat.zero_mul base ▸ Nat.zero_add _
    | @more word number value c front digit ih =>
      obtain ⟨⟨-, all⟩, same⟩ := ih
      refine ⟨⟨List.append_ne_nil_of_right_ne_nil _ (List.cons_ne_nil c []), ?_⟩, ?_⟩
      · rw [List.all_append, all, List.all_cons, isDigitOf_of_isDigit small digit]
        rfl
      · rw [numeralValue_concat small digit, same]
  · rintro ⟨⟨nonempty, all⟩, rfl⟩
    -- A number grows by a digit at its end, so the digits are taken off from there.
    induction word using List.reverseRecOn with
    | nil => exact absurd rfl nonempty
    | append_singleton front c ih =>
      rw [List.all_append, Bool.and_eq_true, List.all_cons, Bool.and_eq_true] at all
      obtain ⟨value, digit⟩ := exists_isDigit small all.2.1
      rw [numeralValue_concat small digit]
      by_cases empty : front = []
      · subst empty
        show Digits base [c] (0 * base + value)
        rw [Nat.zero_mul, Nat.zero_add]
        exact .one digit
      · exact .more (ih empty all.1) digit

/-- A numeral denotes the number as which its digits are read in its base. -/
theorem numeral_iff {numeral : List Char} {number : Nat} :
    Numeral numeral number ↔
      readNumeral (splitBase numeral).1 (splitBase numeral).2 = some number := by
  constructor
  · rintro (digits | ⟨rfl | rfl, digits⟩)
    · have read := (digits_iff (by decide)).mp digits
      unfold splitBase
      split
      · exact absurd read (by simp [readNumeral, show isDigitOf 10 'x' = false by decide])
      · exact absurd read (by simp [readNumeral, show isDigitOf 10 'X' = false by decide])
      · exact read
    · exact (digits_iff (by decide : 16 ≤ 16)).mp digits
    · exact (digits_iff (by decide : 16 ≤ 16)).mp digits
  · intro read
    unfold splitBase at read
    split at read
    · exact .hexadecimal (.inl rfl) ((digits_iff (by decide)).mpr read)
    · exact .hexadecimal (.inr rfl) ((digits_iff (by decide)).mpr read)
    · exact .decimal ((digits_iff (by decide)).mpr read)

/-! ### Wide words -/

namespace Wide

/-- An integer that fits is kept. -/
theorem toInt_ofInt? {value : Int} {word : Wide} (fits : ofInt? value = some word) :
    word.toInt = value := by
  unfold ofInt? at fits
  split at fits
  · rename_i range
    cases fits
    exact BitVec.toInt_ofInt_eq_self (by decide) range.1 range.2
  · cases fits

/-- A number that is not negative fits unless it takes more than 127 bits. -/
theorem le_of_ofInt?_eq_none {value : Int} (positive : 0 ≤ value) (wide : ofInt? value = none) :
    (Nat.pow 2 127 : Int) ≤ value := by
  unfold ofInt? at wide
  split at wide
  · cases wide
  · rename_i range
    have low : -(Nat.pow 2 127 : Int) ≤ 0 := by decide
    omega

/-- One more digit goes to the end of the number, or makes it too large. -/
theorem append_spec (base digit : Nat) {word : Wide} (positive : 0 ≤ word.toInt) :
    match append base word digit with
    | some longer => longer.toInt = word.toInt * base + digit
    | none => (Nat.pow 2 127 : Int) ≤ word.toInt * base + digit := by
  have product : 0 ≤ word.toInt * base := Int.mul_nonneg positive (Int.natCast_nonneg base)
  unfold append
  cases scaled : ofInt? (word.toInt * base) with
  | none =>
    have large := le_of_ofInt?_eq_none product scaled
    show (Nat.pow 2 127 : Int) ≤ word.toInt * base + digit
    omega
  | some shifted =>
    have value := toInt_ofInt? scaled
    show match ofInt? (shifted.toInt + digit) with
      | some longer => longer.toInt = word.toInt * base + digit
      | none => (Nat.pow 2 127 : Int) ≤ word.toInt * base + digit
    rw [value]
    cases sum : ofInt? (word.toInt * base + digit) with
    | none => exact le_of_ofInt?_eq_none (by omega) sum
    | some longer => exact toInt_ofInt? sum

/-- Further digits count for their places, or make the number too large. -/
theorem foldlM_append_spec {base : Nat} (proper : 1 ≤ base) (digits : List Char) (start : Wide)
    (positive : 0 ≤ start.toInt) :
    match digits.foldlM (fun word c => append base word ((digitValue c).getD 0)) start with
    | some word => word.toInt = start.toInt * (base ^ digits.length : Nat) + numeralValue base digits
    | none => (Nat.pow 2 127 : Int) ≤
      start.toInt * (base ^ digits.length : Nat) + numeralValue base digits := by
  induction digits generalizing start with
  | nil =>
    show start.toInt = start.toInt * (base ^ 0 : Nat) + (0 : Nat)
    rw [pow_zero]
    omega
  | cons c rest ih =>
    have first := append_spec base ((digitValue c).getD 0) positive
    have places := numeralValue_append base [c] rest
    have here : numeralValue base [c] = (digitValue c).getD 0 := by
      show 0 * base + (digitValue c).getD 0 = _
      rw [Nat.zero_mul, Nat.zero_add]
    rw [List.singleton_append, here] at places
    have total : start.toInt * (base ^ (c :: rest).length : Nat) + numeralValue base (c :: rest) =
        (start.toInt * base + (digitValue c).getD 0) * (base ^ rest.length : Nat) +
          numeralValue base rest := by
      rw [places, List.length_cons, pow_succ]
      push_cast
      ring
    have scale : 1 ≤ base ^ rest.length := Nat.one_le_pow _ _ proper
    rw [total, List.foldlM_cons]
    cases appended : append base start ((digitValue c).getD 0) with
    | none =>
      rw [appended] at first
      show (Nat.pow 2 127 : Int) ≤ _
      have grown : start.toInt * base + (digitValue c).getD 0 ≤
          (start.toInt * base + (digitValue c).getD 0) * (base ^ rest.length : Nat) :=
        le_mul_of_one_le_right (by positivity) (by exact_mod_cast scale)
      omega
    | some longer =>
      rw [appended] at first
      have value : longer.toInt = start.toInt * base + (digitValue c).getD 0 := first
      have onwards := ih longer (by rw [value]; positivity)
      rw [value] at onwards
      exact onwards

/-- **The word of a digit sequence is its value**; there is none exactly if that is too large. -/
theorem ofDigits?_spec {base : Nat} (proper : 1 ≤ base) (digits : List Char) :
    (∀ word, ofDigits? base digits = some word →
      word.toInt = numeralValue base digits ∧ numeralValue base digits < Nat.pow 2 127) ∧
    (ofDigits? base digits = none → Nat.pow 2 127 ≤ numeralValue base digits) := by
  have folded := foldlM_append_spec proper digits 0 (Int.le_refl 0)
  have zero : (0 : Wide).toInt * (base ^ digits.length : Nat) + (numeralValue base digits : Int) =
      numeralValue base digits := by
    show (0 : Int) * _ + _ = _
    rw [Int.zero_mul, Int.zero_add]
  rw [zero] at folded
  constructor
  · intro word found
    rw [← ofDigits?, found] at folded
    have value : word.toInt = numeralValue base digits := folded
    have bounded : word.toInt < (Nat.pow 2 127 : Nat) := BitVec.toInt_lt
    exact ⟨value, by omega⟩
  · intro none
    rw [← ofDigits?, none] at folded
    exact Int.ofNat_le.mp folded

/-- The opposite of a word that is not negative fits too. -/
theorem toInt_neg {word : Wide} (positive : 0 ≤ word.toInt) : (-word).toInt = -word.toInt := by
  have bounded : word.toInt < 2 ^ 127 := BitVec.toInt_lt
  rw [BitVec.toInt_neg]
  exact Int.bmod_eq_of_le (by omega) (by omega)

end Wide

/-! ### Magnitudes -/

theorem Numeral.unique {numeral : List Char} {number number' : Nat}
    (first : Numeral numeral number) (second : Numeral numeral number') : number = number' := by
  have read := numeral_iff.mp first
  rw [numeral_iff.mp second] at read
  exact (Option.some.inj read).symm

/-- A numeral has a sign neither before it nor in it. -/
theorem Numeral.not_signed {numeral : List Char} {number : Nat} (found : Numeral numeral number) :
    isSigned numeral = false := by
  unfold isSigned
  split
  · have read := numeral_iff.mp found
    exact absurd read (by simp [splitBase, readNumeral, show isDigitOf 10 '-' = false by decide])
  · have read := numeral_iff.mp found
    exact absurd read (by simp [splitBase, readNumeral, show isDigitOf 10 '+' = false by decide])
  · rfl

theorem one_le_base (numeral : List Char) : 1 ≤ (splitBase numeral).1 := by
  unfold splitBase
  split
  · exact (by decide : 1 ≤ 16)
  · exact (by decide : 1 ≤ 16)
  · exact (by decide : 1 ≤ 10)

/-- The magnitude of a numeral: its base, its digits, and whether they fit. -/
theorem readMagnitude_eq (literal : String) (numeral : List Char) :
    readMagnitude literal numeral =
      if (splitBase numeral).2 ≠ [] ∧
          (splitBase numeral).2.all (isDigitOf (splitBase numeral).1) = true then
        match Wide.ofDigits? (splitBase numeral).1 (splitBase numeral).2 with
        | some magnitude => .ok magnitude
        | none => .error (.integerRange literal)
      else .error (.malformed literal) := rfl

/-- A numeral has a word, or it denotes a number beyond all words; anything else is malformed. -/
theorem readMagnitude_cases (literal : String) (numeral : List Char) :
    (∃ number word, Numeral numeral number ∧ readMagnitude literal numeral = .ok word ∧
      word.toInt = (number : Int)) ∨
    (∃ number, Numeral numeral number ∧ Nat.pow 2 127 ≤ number ∧
      readMagnitude literal numeral = .error (.integerRange literal)) ∨
    ((∀ number, ¬ Numeral numeral number) ∧
      readMagnitude literal numeral = .error (.malformed literal)) := by
  have spec := Wide.ofDigits?_spec (one_le_base numeral) (splitBase numeral).2
  by_cases word : (splitBase numeral).2 ≠ [] ∧
      (splitBase numeral).2.all (isDigitOf (splitBase numeral).1) = true
  · have denotes : Numeral numeral (numeralValue (splitBase numeral).1 (splitBase numeral).2) :=
      numeral_iff.mpr (readNumeral_eq_some.mpr ⟨word, rfl⟩)
    rw [readMagnitude_eq, if_pos word]
    cases found : Wide.ofDigits? (splitBase numeral).1 (splitBase numeral).2 with
    | some magnitude => exact .inl ⟨_, magnitude, denotes, rfl, (spec.1 magnitude found).1⟩
    | none => exact .inr (.inl ⟨_, denotes, spec.2 found, rfl⟩)
  · refine .inr (.inr ⟨fun number denotes => ?_, ?_⟩)
    · exact word (readNumeral_eq_some.mp (numeral_iff.mp denotes)).1
    · rw [readMagnitude_eq, if_neg word]

theorem nonneg_of_readMagnitude {literal : String} {numeral : List Char} {word : Wide}
    (read : readMagnitude literal numeral = .ok word) : 0 ≤ word.toInt := by
  rcases readMagnitude_cases literal numeral with
    ⟨number, word', -, read', value⟩ | ⟨-, -, -, read'⟩ | ⟨-, read'⟩
  · rw [read'] at read
    cases read
    omega
  · rw [read'] at read
    cases read
  · rw [read'] at read
    cases read

/-! ### Literals -/

/-- The integer of a magnitude behind a sign. -/
def signed (negative : Bool) (number : Nat) : Int := if negative then -number else number

/-- A signed numeral denotes the number behind its sign. -/
theorem signedNumeral_iff {text : List Char} {value : Int} :
    SignedNumeral text value ↔
      ∃ number, Numeral (splitMinus text).2 number ∧ value = signed (splitMinus text).1 number := by
  constructor
  · rintro (numeral | numeral)
    · have bare := numeral.not_signed
      have split : splitMinus text = (false, text) := by
        unfold splitMinus
        split
        · cases bare
        · rfl
      rw [split]
      exact ⟨_, numeral, rfl⟩
    · exact ⟨_, numeral, rfl⟩
  · rintro ⟨number, numeral, rfl⟩
    unfold splitMinus at numeral ⊢
    split at numeral
    · exact .minus numeral
    · exact .bare numeral

theorem SignedNumeral.unique {text : List Char} {value value' : Int}
    (first : SignedNumeral text value) (second : SignedNumeral text value') : value = value' := by
  obtain ⟨number, numeral, rfl⟩ := signedNumeral_iff.mp first
  obtain ⟨number', numeral', rfl⟩ := signedNumeral_iff.mp second
  rw [numeral.unique numeral']

/-- A signed literal has its value if that is in range. -/
theorem readInt64_eq (literal : String) :
    readInt64 literal =
      match readMagnitude literal (splitMinus literal.toList).2 with
      | .error error => .error error
      | .ok magnitude =>
        let value := (if (splitMinus literal.toList).1 then -magnitude else magnitude).toInt
        if -0x8000000000000000 ≤ value ∧ value < 0x8000000000000000 then .ok (Int64.ofInt value)
        else .error (.integerRange literal) := by
  unfold readInt64
  generalize splitMinus literal.toList = parts
  obtain ⟨negative, numeral⟩ := parts
  show (readMagnitude literal numeral >>= _) = _
  cases readMagnitude literal numeral <;> rfl

theorem readUint64_eq {literal : String} (bare : isSigned literal.toList = false) :
    readUint64 literal =
      match readMagnitude literal literal.toList with
      | .error error => .error error
      | .ok magnitude =>
        if 0 ≤ magnitude.toInt ∧ magnitude.toInt < 0x10000000000000000 then
          .ok (UInt64.ofNat magnitude.toInt.toNat)
        else .error (.integerRange literal) := by
  unfold readUint64
  rw [bare]
  cases readMagnitude literal literal.toList <;> rfl

/-- A signed literal is its value in range, out of range, or malformed. -/
theorem readInt64_cases (literal : String) :
    (∃ value, SignedNumeral literal.toList value ∧ (-2 ^ 63 ≤ value ∧ value ≤ 2 ^ 63 - 1) ∧
      ∃ result : Int64, readInt64 literal = .ok result ∧ result.toInt = value) ∨
    (∃ value, SignedNumeral literal.toList value ∧ ¬ (-2 ^ 63 ≤ value ∧ value ≤ 2 ^ 63 - 1) ∧
      readInt64 literal = .error (.integerRange literal)) ∨
    ((∀ value, ¬ SignedNumeral literal.toList value) ∧
      readInt64 literal = .error (.malformed literal)) := by
  rw [readInt64_eq]
  rcases split : splitMinus literal.toList with ⟨negative, numeral⟩
  have denotes {number : Nat} (found : Numeral numeral number) :
      SignedNumeral literal.toList (signed negative number) :=
    signedNumeral_iff.mpr ⟨number, by rw [split]; exact found, by rw [split]⟩
  rcases readMagnitude_cases literal numeral with
    ⟨number, word, found, read, value⟩ | ⟨number, found, large, read⟩ | ⟨none, read⟩
  · have same : (if negative then -word else word).toInt = signed negative number := by
      unfold signed
      cases negative
      · exact value
      · show (-word).toInt = -(number : Int)
        rw [Wide.toInt_neg (nonneg_of_readMagnitude read), value]
    simp only [read, same]
    by_cases range : -0x8000000000000000 ≤ signed negative number ∧
        signed negative number < 0x8000000000000000
    · rw [if_pos range]
      exact .inl ⟨_, denotes found, by omega, _, rfl,
        Int64.toInt_ofInt_of_le (by omega) (by omega)⟩
    · rw [if_neg range]
      exact .inr (.inl ⟨_, denotes found, by omega, rfl⟩)
  · have wide : (Nat.pow 2 127 : Int) ≤ number := by exact_mod_cast large
    have beyond : ¬ (-2 ^ 63 ≤ signed negative number ∧ signed negative number ≤ 2 ^ 63 - 1) := by
      have power : (Nat.pow 2 127 : Int) = 2 ^ 127 := rfl
      unfold signed
      cases negative <;> simp only [Bool.false_eq_true, if_false, if_true] <;> omega
    rw [read]
    exact .inr (.inl ⟨_, denotes found, beyond, rfl⟩)
  · rw [read]
    refine .inr (.inr ⟨fun value found => ?_, rfl⟩)
    obtain ⟨number, numeral', -⟩ := signedNumeral_iff.mp found
    rw [split] at numeral'
    exact none number numeral'

/-- An unsigned literal is its value in range, out of range, or malformed. -/
theorem readUint64_cases (literal : String) :
    (∃ number, Numeral literal.toList number ∧ number ≤ 2 ^ 64 - 1 ∧
      ∃ result : UInt64, readUint64 literal = .ok result ∧ result.toNat = number) ∨
    (∃ number, Numeral literal.toList number ∧ ¬ number ≤ 2 ^ 64 - 1 ∧
      readUint64 literal = .error (.integerRange literal)) ∨
    ((∀ number, ¬ Numeral literal.toList number) ∧
      readUint64 literal = .error (.malformed literal)) := by
  by_cases bare : isSigned literal.toList = false
  · rw [readUint64_eq bare]
    rcases readMagnitude_cases literal literal.toList with
      ⟨number, word, found, read, value⟩ | ⟨number, found, large, read⟩ | ⟨none, read⟩
    · simp only [read, value, Int.toNat_natCast]
      by_cases range : (0 : Int) ≤ number ∧ (number : Int) < 0x10000000000000000
      · rw [if_pos range]
        have below : number < 2 ^ 64 := by omega
        exact .inl ⟨number, found, by omega, _, rfl, Nat.mod_eq_of_lt below⟩
      · rw [if_neg range]
        exact .inr (.inl ⟨number, found, by omega, rfl⟩)
    · have power : Nat.pow 2 127 = 2 ^ 127 := rfl
      rw [read]
      exact .inr (.inl ⟨number, found, by omega, rfl⟩)
    · rw [read]
      exact .inr (.inr ⟨none, rfl⟩)
  · refine .inr (.inr ⟨fun number found => bare found.not_signed, ?_⟩)
    unfold readUint64
    rw [Bool.eq_true_of_not_eq_false bare]
    rfl

/-- Of a result that is in one of the three cases, each case is told by what the literal denotes. -/
theorem exact_of_cases {ν ρ : Type} {Denotes InRange : ν → Prop} {valueOf : ρ → ν}
    {outcome : Except LiteralError ρ} {literal : String}
    (unique : ∀ value value', Denotes value → Denotes value' → value = value')
    (cases : (∃ value, Denotes value ∧ InRange value ∧
        ∃ result, outcome = .ok result ∧ valueOf result = value) ∨
      (∃ value, Denotes value ∧ ¬ InRange value ∧ outcome = .error (.integerRange literal)) ∨
      ((∀ value, ¬ Denotes value) ∧ outcome = .error (.malformed literal))) :
    (outcome = .error (.malformed literal) ↔ ¬ ∃ value, Denotes value) ∧
      ∀ value, Denotes value →
        ((∃ result, outcome = .ok result ∧ valueOf result = value) ↔ InRange value) ∧
        (outcome = .error (.integerRange literal) ↔ ¬ InRange value) := by
  rcases cases with
    ⟨value, found, range, result, rfl, same⟩ | ⟨value, found, range, rfl⟩ | ⟨none, rfl⟩
  · refine ⟨by simp [Exists.intro value found], fun value' denotes => ?_⟩
    obtain rfl := unique value value' found denotes
    simp [same, range]
  · refine ⟨by simp [Exists.intro value found], fun value' denotes => ?_⟩
    obtain rfl := unique value value' found denotes
    simp [range]
  · exact ⟨by simp [none], fun value denotes => absurd denotes (none value)⟩

/-- **Integer literals are read exactly.** A signed literal is malformed exactly if it is no signed
numeral. Otherwise it denotes an integer, and it is read as that integer exactly if it is in range,
and out of range exactly if it is not. The same holds of unsigned literals and numerals. The errors
quote the literal as it is given. No magnitude is lost when its sign is put to it. -/
theorem readInteger_exact (literal : String) :
    ((readInt64 literal = .error (.malformed literal) ↔
        ¬ ∃ value, SignedNumeral literal.toList value) ∧
      ∀ value, SignedNumeral literal.toList value →
        ((∃ result : Int64, readInt64 literal = .ok result ∧ result.toInt = value) ↔
          -2 ^ 63 ≤ value ∧ value ≤ 2 ^ 63 - 1) ∧
        (readInt64 literal = .error (.integerRange literal) ↔
          ¬ (-2 ^ 63 ≤ value ∧ value ≤ 2 ^ 63 - 1))) ∧
    ((readUint64 literal = .error (.malformed literal) ↔
        ¬ ∃ number, Numeral literal.toList number) ∧
      ∀ number, Numeral literal.toList number →
        ((∃ result : UInt64, readUint64 literal = .ok result ∧ result.toNat = number) ↔
          number ≤ 2 ^ 64 - 1) ∧
        (readUint64 literal = .error (.integerRange literal) ↔ ¬ number ≤ 2 ^ 64 - 1)) ∧
    ∀ numeral magnitude, readMagnitude literal numeral = .ok magnitude →
      (-magnitude).toInt = -magnitude.toInt := by
  refine ⟨?_, ?_, fun numeral magnitude read => Wide.toInt_neg (nonneg_of_readMagnitude read)⟩
  · exact exact_of_cases (fun _ _ => SignedNumeral.unique) (readInt64_cases literal)
  · exact exact_of_cases (fun _ _ => Numeral.unique) (readUint64_cases literal)

/-- The least signed integer, written with zeros before its hexadecimal digits, and the first number
that no word holds. -/
theorem readInteger_exact_limits :
    (SignedNumeral "-0x0008000000000000000".toList (-2 ^ 63) ∧
      ∃ result : Int64, readInt64 "-0x0008000000000000000" = .ok result ∧
        result.toInt = -2 ^ 63) ∧
    Numeral "0X80000000000000000000000000000000".toList (2 ^ 127) ∧
      readUint64 "0X80000000000000000000000000000000" =
        .error (.integerRange "0X80000000000000000000000000000000") := by
  have least : SignedNumeral "-0x0008000000000000000".toList (-2 ^ 63) :=
    signedNumeral_iff.mpr ⟨2 ^ 63, numeral_iff.mpr (by decide), by decide⟩
  have beyond : Numeral "0X80000000000000000000000000000000".toList (2 ^ 127) :=
    numeral_iff.mpr (by decide)
  obtain ⟨⟨-, signed⟩, -⟩ := readInteger_exact "-0x0008000000000000000"
  obtain ⟨-, ⟨-, unsigned⟩, -⟩ := readInteger_exact "0X80000000000000000000000000000000"
  exact ⟨⟨least, (signed _ least).1.mpr (by decide)⟩, beyond,
    (unsigned _ beyond).2.mpr (by decide)⟩

end CelTree.Literal
