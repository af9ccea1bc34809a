/-
**The formats of tree notation, and their characters.**

* `DecimalLayout.writes_of_mem`: a format writes digits, a point, an exponent and its own endings.
* `Double.padExponent_write`: to cut the exponent out of a text and to write it anew with its sign and
  two digits is to write the number in a third format.
* **`Double.exists_treeLayout`** — every finite double is written in one of three formats.
* `Double.mem_text`: the characters of tree notation.
-/

import CelTree.Double.Layout
import CelTree.Proofs.Text.Numeral

namespace CelTree

open Text

namespace DecimalLayout

/-- The characters that a format writes. -/
def Writes (layout : DecimalLayout) (c : Char) : Prop :=
  isDigitOf 10 c = true ∨ c = '.' ∨ c = 'e' ∨ c ∈ layout.wholeEnd ∨
    ∃ exponent, c ∈ layout.exponentText exponent

theorem writes_of_mem {layout : DecimalLayout} {d : Decimal} {c : Char}
    (member : c ∈ layout.write d) : layout.Writes c := by
  have digit {c : Char} (member : c ∈ writeDecimal d.digits) : layout.Writes c :=
    .inl (isDigitOf_of_mem_writeDecimal member)
  have zero {zeros : Nat} {c : Char} (member : c ∈ List.replicate zeros '0') : layout.Writes c :=
    .inl (isDigitOf_of_mem_replicate_zero member)
  unfold write at member
  simp only at member
  split at member
  · unfold positional at member
    split at member
    · rcases List.mem_append.mp member with number | ending
      · rcases List.mem_append.mp number with inside | added
        · exact digit inside
        · exact zero added
      · exact .inr (.inr (.inr (.inl ending)))
    · simp only at member
      split at member
      · rcases List.mem_append.mp member with before | after
        · exact digit (List.mem_of_mem_take before)
        · rcases List.mem_cons.mp after with point | fraction
          · exact .inr (.inl point)
          · exact digit (List.mem_of_mem_drop fraction)
      · rcases List.mem_cons.mp member with rfl | after
        · exact .inl rfl
        · rcases List.mem_cons.mp after with point | fraction
          · exact .inr (.inl point)
          · rcases List.mem_append.mp fraction with added | inside
            · exact zero added
            · exact digit inside
  · have tail {c : Char} {exponent : Int}
        (member : c ∈ 'e' :: layout.exponentText exponent) : layout.Writes c := by
      rcases List.mem_cons.mp member with letter | inside
      · exact .inr (.inr (.inl letter))
      · exact .inr (.inr (.inr (.inr ⟨exponent, inside⟩)))
    unfold scientific at member
    split at member
    · rename_i first second others same
      rcases List.mem_append.mp member with mantissa | exponent
      · rcases List.mem_cons.mp mantissa with rfl | after
        · exact digit (same ▸ List.mem_cons_self)
        · rcases List.mem_cons.mp after with point | inside
          · exact .inr (.inl point)
          · exact digit (same ▸ List.mem_cons_of_mem first inside)
      · exact tail exponent
    · rcases List.mem_append.mp member with inside | exponent
      · exact digit inside
      · exact tail exponent

end DecimalLayout

namespace Double

open DecimalLayout

/-! ### The formats of tree notation -/

/-- An exponent with its sign and two digits at least. -/
def paddedExponent (exponent : Int) : List Char :=
  if exponent < 0 then '-' :: padTwo (writeDecimal exponent.natAbs)
  else '+' :: padTwo (writeDecimal exponent.natAbs)

/-- Scientific notation throughout, with padded exponents. -/
def paddedLayout : DecimalLayout := ⟨fun _ => false, [], paddedExponent⟩

/-- The formats in which tree notation writes finite doubles. -/
def treeLayouts : List DecimalLayout := [plainLayout, scientificLayout, paddedLayout]

/-- The exponent is found behind the first letter `e`. -/
theorem padExponent_append {mantissa : List Char} (bare : ∀ c ∈ mantissa, c ≠ 'e')
    (exponent : Int) :
    padExponent (mantissa ++ 'e' :: writeInteger exponent) =
      mantissa ++ 'e' :: paddedExponent exponent := by
  have inside : ∀ c ∈ mantissa, (c != 'e') = true := fun c member => bne_iff_ne.mpr (bare c member)
  have taken : (mantissa ++ 'e' :: writeInteger exponent).takeWhile (· != 'e') = mantissa := by
    rw [List.takeWhile_append_of_pos inside]
    exact List.append_nil mantissa
  have dropped : (mantissa ++ 'e' :: writeInteger exponent).dropWhile (· != 'e') =
      'e' :: writeInteger exponent := by
    rw [List.dropWhile_append_of_pos inside]
    rfl
  unfold padExponent
  simp only [taken, dropped]
  unfold writeInteger paddedExponent
  by_cases negative : exponent < 0
  · rw [if_pos negative, if_pos negative]
    rfl
  · rw [if_neg negative, if_neg negative]
    split
    · rename_i digits same
      exact absurd (List.cons.inj same).2 (writeDecimal_ne_minus _ _)
    · rename_i digits _ same
      rw [(List.cons.inj same).2]
    · rename_i _ none
      exact (none _ rfl).elim

/-- Scientific notation is a mantissa without the letter `e`, and the exponent behind it. -/
theorem exists_mantissa {digits : List Char} (all : ∀ c ∈ digits, isDigitOf 10 c = true) :
    ∃ mantissa, (∀ c ∈ mantissa, c ≠ 'e') ∧
      ∀ exponentText, scientific exponentText digits = mantissa ++ 'e' :: exponentText := by
  have bare : ∀ c ∈ digits, c ≠ 'e' := by
    rintro c member rfl
    exact absurd (all 'e' member) (by decide)
  match digits, bare with
  | [], bare => exact ⟨[], bare, fun _ => rfl⟩
  | [only], bare => exact ⟨[only], bare, fun _ => rfl⟩
  | first :: second :: others, bare =>
    refine ⟨first :: '.' :: second :: others, ?_, fun _ => rfl⟩
    obtain ⟨one, more⟩ := List.forall_mem_cons.mp bare
    exact List.forall_mem_cons.mpr ⟨one, List.forall_mem_cons.mpr ⟨by decide, more⟩⟩

/-- To pad the exponent of a written number is to write it with a padded exponent. -/
theorem padExponent_write (x : Double) (tie : Tie) :
    padExponent (x.writeFinite scientificLayout tie) = x.writeFinite paddedLayout tie := by
  obtain ⟨mantissa, bare, written⟩ := exists_mantissa
    fun c (member : c ∈ writeDecimal (shortestDecimal tie x.magnitude).digits) =>
      isDigitOf_of_mem_writeDecimal member
  have signed : ∀ c ∈ (if x.isNegative then ['-'] else []) ++ mantissa, c ≠ 'e' := by
    refine List.forall_mem_append.mpr ⟨fun c member => ?_, bare⟩
    split at member
    · rw [List.mem_singleton.mp member]
      decide
    · cases member
  unfold writeFinite write scientificLayout paddedLayout
  simp only [Bool.false_eq_true, if_false, written]
  rw [← List.append_assoc, padExponent_append signed, List.append_assoc]

theorem not_special_of_isFinite {x : Double} (finite : x.isFinite = true) :
    x.isNaN = false ∧ x.isInfinite = false := by
  simp only [isNaN, isInfinite, isFinite, decide_eq_true_eq, decide_eq_false_iff_not] at *
  omega

/-- **Every finite double is written in one of three formats.** -/
theorem exists_treeLayout {x : Double} (finite : x.isFinite = true) :
    ∃ layout ∈ treeLayouts, x.text = x.writeFinite layout .up := by
  obtain ⟨number, bounded⟩ := not_special_of_isFinite finite
  unfold text
  rw [number, bounded, if_neg Bool.false_ne_true, if_neg Bool.false_ne_true]
  split
  · split
    · exact ⟨scientificLayout, .tail _ (.head _), rfl⟩
    · exact ⟨plainLayout, .head _, rfl⟩
  · exact ⟨paddedLayout, .tail _ (.tail _ (.head _)), padExponent_write x .up⟩

/-! ### Characters -/

theorem isDigitOf_of_mem_padTwo {value : Nat} {c : Char} (member : c ∈ padTwo (writeDecimal value)) :
    isDigitOf 10 c = true := by
  rcases List.mem_append.mp member with zero | digit
  · exact isDigitOf_of_mem_replicate_zero zero
  · exact isDigitOf_of_mem_writeDecimal digit

/-- The characters of exponents in tree notation. -/
theorem mem_exponentText {layout : DecimalLayout} (tree : layout ∈ treeLayouts) {exponent : Int}
    {c : Char} (member : c ∈ layout.exponentText exponent) :
    isDigitOf 10 c = true ∨ c = '+' ∨ c = '-' := by
  have bare (member : c ∈ writeInteger exponent) : isDigitOf 10 c = true ∨ c = '+' ∨ c = '-' := by
    unfold writeInteger at member
    split at member
    · rcases List.mem_cons.mp member with sign | digit
      · exact .inr (.inr sign)
      · exact .inl (isDigitOf_of_mem_writeDecimal digit)
    · exact .inl (isDigitOf_of_mem_writeDecimal member)
  have padded (member : c ∈ paddedExponent exponent) :
      isDigitOf 10 c = true ∨ c = '+' ∨ c = '-' := by
    unfold paddedExponent at member
    split at member <;> rcases List.mem_cons.mp member with sign | digit
    · exact .inr (.inr sign)
    · exact .inl (isDigitOf_of_mem_padTwo digit)
    · exact .inr (.inl sign)
    · exact .inl (isDigitOf_of_mem_padTwo digit)
  simp only [treeLayouts, List.mem_cons, List.not_mem_nil, or_false] at tree
  rcases tree with rfl | rfl | rfl
  · exact bare member
  · exact bare member
  · exact padded member

theorem wholeEnd_of_mem_treeLayouts {layout : DecimalLayout} (tree : layout ∈ treeLayouts) :
    layout.wholeEnd = [] := by
  simp only [treeLayouts, List.mem_cons, List.not_mem_nil, or_false] at tree
  rcases tree with rfl | rfl | rfl <;> rfl

/-- The characters of tree notation. -/
theorem mem_text {x : Double} {c : Char} (member : c ∈ x.text) :
    isDigitOf 10 c = true ∨ c ∈ ['.', '+', '-', 'e', 'I', 'n', 'f', 'N', 'a'] := by
  have letters (name : List Char)
      (all : name.all fun c => c ∈ ['.', '+', '-', 'e', 'I', 'n', 'f', 'N', 'a']) :
      ∀ c ∈ name, c ∈ ['.', '+', '-', 'e', 'I', 'n', 'f', 'N', 'a'] :=
    List.all_iff_forall_prop.mp all
  by_cases finite : x.isFinite = true
  · obtain ⟨layout, tree, written⟩ := exists_treeLayout finite
    rw [written, writeFinite] at member
    rcases List.mem_append.mp member with sign | number
    · have minus : c = '-' := by
        split at sign
        · exact List.mem_singleton.mp sign
        · cases sign
      exact .inr (by rw [minus]; decide)
    · rcases DecimalLayout.writes_of_mem number with
        digit | point | letter | ending | ⟨exponent, inside⟩
      · exact .inl digit
      · exact .inr (by rw [point]; decide)
      · exact .inr (by rw [letter]; decide)
      · rw [wholeEnd_of_mem_treeLayouts tree] at ending
        cases ending
      · rcases mem_exponentText tree inside with digit | plus | minus
        · exact .inl digit
        · exact .inr (by rw [plus]; decide)
        · exact .inr (by rw [minus]; decide)
  · have special : x.isNaN = true ∨ x.isInfinite = true := by
      simp only [isNaN, isInfinite, isFinite, decide_eq_true_eq] at *
      omega
    unfold text at member
    rcases special with notNumber | infinite
    · rw [if_pos notNumber] at member
      exact .inr (letters "NaN".toList (by decide) c member)
    · rw [infinite, if_pos rfl] at member
      split at member
      · exact .inr (letters "NaN".toList (by decide) c member)
      · split at member
        · exact .inr (letters "+Inf".toList (by decide) c member)
        · exact .inr (letters "-Inf".toList (by decide) c member)

end Double

end CelTree
