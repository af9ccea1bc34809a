/-
**Normalising a second time.**

Ids are cleared before blanks are removed. So an id adornment that blanks break, such as `^ #12:`,
is overlooked while ids are cleared and is whole afterwards: to normalise the result clears its id
too.

* `Cleared`: every id adornment of a text has the id zero; `clearIds_eq_self_iff`.
* `HoldsBroken`: a text holds an id adornment with some blanks between its characters.
* `normalize_normalize`: a second normalisation clears ids and does no more.
* **`normalize_normalize_eq_iff`** — it changes nothing exactly if every adornment that blanks break
  has the id zero, and a third one never changes anything.
-/

import CelTree.Proofs.Render.Normalized
import Mathlib.Data.List.Basic

namespace CelTree.Render

open Text

/-! ### Cleared texts -/

/-- The numeral that stands for every cleared id. -/
theorem isNumeral_zero : IsNumeral ['0'] :=
  ⟨List.cons_ne_nil _ _, List.forall_mem_singleton.mpr (by decide)⟩

theorem IsNumeral.not_mem {digits : List Char} (numeral : IsNumeral digits) {c : Char}
    (other : isDecimalDigit c = false) : c ∉ digits := by
  intro member
  rw [numeral.2 c member] at other
  cases other

/-- The first colon ends the part before it. -/
theorem eq_of_append_colon {part part' after after' : List Char} (free : ':' ∉ part)
    (free' : ':' ∉ part') (same : part ++ ':' :: after = part' ++ ':' :: after') :
    part = part' := by
  rcases List.append_eq_append_iff.mp same with ⟨others, rfl, later⟩ | ⟨others, rfl, later⟩
  · rcases List.cons_eq_append_iff.mp later with ⟨rfl, -⟩ | ⟨others, rfl, -⟩
    · rw [List.append_nil]
    · exact absurd (by simp) free'
  · rcases List.cons_eq_append_iff.mp later with ⟨rfl, -⟩ | ⟨others, rfl, -⟩
    · rw [List.append_nil]
    · exact absurd (by simp) free

/-- Every id adornment of the text has the id zero. -/
def Cleared (text : List Char) : Prop :=
  ∀ before digits after, IsNumeral digits →
    text = before ++ '^' :: '#' :: (digits ++ ':' :: after) → digits = ['0']

/-- A text is cleared if an adornment at its start has the id zero and its rest is cleared. -/
theorem cleared_cons_iff {c : Char} {rest : List Char} :
    Cleared (c :: rest) ↔
      (∀ digits after, IsNumeral digits →
        c :: rest = '^' :: '#' :: (digits ++ ':' :: after) → digits = ['0']) ∧ Cleared rest := by
  constructor
  · intro cleared
    refine ⟨cleared [], fun before digits after numeral same => ?_⟩
    exact cleared (c :: before) digits after numeral (by rw [same, List.cons_append])
  · rintro ⟨here, behind⟩ before digits after numeral same
    rcases List.cons_eq_append_iff.mp same with ⟨rfl, start⟩ | ⟨others, rfl, later⟩
    · exact here digits after numeral start.symm
    · exact behind others digits after numeral later

/-- No id adornment starts at a character other than its first. -/
theorem cleared_cons_of_ne_caret {c : Char} (other : c ≠ '^') {rest : List Char}
    (cleared : Cleared rest) : Cleared (c :: rest) := by
  refine cleared_cons_iff.mpr ⟨fun digits after _ same => ?_, cleared⟩
  exact absurd (List.cons.inj same).1 other

/-- A text differs in ids only from the one with ids cleared. -/
theorem sameButIds_clearIds (text : List Char) : SameButIds text (clearIds text) := by
  induction text using clearIds.induct with
  | case1 =>
    rw [clearIds]
    exact .nil
  | case2 c rest after found ih =>
    rw [clearIds_of_some found]
    obtain ⟨digits, numeral, same⟩ := exists_numeral_of_idAdornment found
    rw [same]
    exact .id numeral isNumeral_zero ih
  | case3 c rest missing ih =>
    rw [clearIds_of_none missing]
    exact .character c ih

/-- Cleared ids stay as they are. -/
theorem clearIds_clearIds (text : List Char) : clearIds (clearIds text) = clearIds text :=
  (sameButIds_clearIds text).clearIds_eq.symm

theorem cleared_clearIds (text : List Char) : Cleared (clearIds text) := by
  induction text using clearIds.induct with
  | case1 =>
    intro before digits after numeral same
    rw [clearIds] at same
    cases before <;> cases same
  | case2 c rest after found ih =>
    rw [clearIds_of_some found]
    refine cleared_cons_iff.mpr ⟨fun digits after' numeral same => ?_, ?_⟩
    · have numerals : digits ++ ':' :: after' = ['0'] ++ ':' :: clearIds after :=
        (List.cons.inj (List.cons.inj same).2).2.symm
      exact eq_of_append_colon (numeral.not_mem not_isDecimalDigit_colon)
        (isNumeral_zero.not_mem not_isDecimalDigit_colon) numerals
    · exact cleared_cons_of_ne_caret (by decide) (cleared_cons_of_ne_caret (by decide)
        (cleared_cons_of_ne_caret (by decide) ih))
  | case3 c rest missing ih =>
    rw [clearIds_of_none missing]
    refine cleared_cons_iff.mpr ⟨fun digits after numeral same => ?_, ih⟩
    -- an adornment of the result would have been one of the text
    have cleared := (SameButIds.character c (sameButIds_clearIds rest)).symm
    obtain ⟨after', found, -⟩ :=
      cleared.idAdornment (by rw [same]; exact idAdornment_numeral numeral after)
    rw [missing] at found
    cases found

/-- **Clearing ids changes nothing exactly in a cleared text.** -/
theorem clearIds_eq_self_iff {text : List Char} : clearIds text = text ↔ Cleared text := by
  refine ⟨fun same => same ▸ cleared_clearIds text, fun cleared => ?_⟩
  induction text using clearIds.induct with
  | case1 => rw [clearIds]
  | case2 c rest after found ih =>
    obtain ⟨digits, numeral, same⟩ := exists_numeral_of_idAdornment found
    rw [clearIds_of_some found, same, cleared [] digits after numeral same, ih]
    · rfl
    · intro before digits' after' numeral' later
      refine cleared ('^' :: '#' :: (digits ++ ':' :: before)) digits' after' numeral' ?_
      rw [same, later]
      simp
  | case3 c rest missing ih =>
    rw [clearIds_of_none missing, ih (cleared_cons_iff.mp cleared).2]

/-! ### Broken adornments -/

/-- A text without its blanks and line ends. -/
def withoutBlanks (text : List Char) : List Char := text.filter (!isBlank ·)

/-- Ids are cleared first, and blanks removed from the result. -/
theorem normalize_eq_withoutBlanks (text : List Char) :
    normalize text = withoutBlanks (clearIds text) := rfl

theorem withoutBlanks_append (first second : List Char) :
    withoutBlanks (first ++ second) = withoutBlanks first ++ withoutBlanks second :=
  List.filter_append ..

theorem withoutBlanks_cons {c : Char} (visible : isBlank c = false) (rest : List Char) :
    withoutBlanks (c :: rest) = c :: withoutBlanks rest :=
  List.filter_cons_of_pos (by rw [visible]; rfl)

/-- A text that is left without blanks around some character has blanks around it at most. -/
theorem exists_of_withoutBlanks_eq {text before after : List Char} {c : Char}
    (same : withoutBlanks text = before ++ c :: after) :
    ∃ front behind, text = front ++ c :: behind ∧ withoutBlanks front = before ∧
      withoutBlanks behind = after := by
  obtain ⟨front, others, rfl, kept, same⟩ := List.filter_eq_append_iff.mp same
  obtain ⟨gap, behind, rfl, dropped, -, kept'⟩ := List.filter_eq_cons_iff.mp same
  refine ⟨front ++ gap, behind, (List.append_assoc ..).symm, ?_, kept'⟩
  have gone : withoutBlanks gap = [] := List.filter_eq_nil_iff.mpr dropped
  rw [withoutBlanks_append, gone, List.append_nil]
  exact kept

theorem IsNumeral.isBlank_eq_false {digits : List Char} (numeral : IsNumeral digits) :
    ∀ c ∈ digits, isBlank c = false := by
  intro c member
  have digit := numeral.2 c member
  unfold isBlank
  simp only [Bool.or_eq_false_iff, beq_eq_false_iff_ne]
  refine ⟨⟨⟨?_, ?_⟩, ?_⟩, ?_⟩ <;> rintro rfl <;> exact absurd digit (by decide)

/-- The text holds an id adornment with these digits that blanks break: it is one as soon as they
are removed. -/
def HoldsBroken (digits text : List Char) : Prop :=
  ∃ before inside after, text = before ++ '^' :: (inside ++ ':' :: after) ∧
    withoutBlanks inside = '#' :: digits ∧ ∃ c ∈ inside, isBlank c = true

section Broken

variable {digits text text' : List Char}

/-- A broken adornment does not start inside a part without a caret. -/
theorem HoldsBroken.behind {part : List Char} (free : '^' ∉ part)
    (broken : HoldsBroken digits (part ++ text)) : HoldsBroken digits text := by
  obtain ⟨before, inside, after, same, shape⟩ := broken
  rcases List.append_eq_append_iff.mp same with ⟨others, rfl, later⟩ | ⟨others, split, later⟩
  · exact ⟨others, inside, after, later, shape⟩
  · rcases List.cons_eq_append_iff.mp later with ⟨rfl, start⟩ | ⟨others', rfl, -⟩
    · exact ⟨[], inside, after, start, shape⟩
    · exact absurd (by rw [split]; simp) free

/-- What goes before a broken adornment does not mend it. -/
theorem HoldsBroken.append (front : List Char) (broken : HoldsBroken digits text) :
    HoldsBroken digits (front ++ text) := by
  obtain ⟨before, inside, after, rfl, shape⟩ := broken
  exact ⟨front ++ before, inside, after, by rw [List.append_assoc], shape⟩

/-- Between the caret and the colon of a broken adornment stands neither. -/
theorem not_mem_of_withoutBlanks {inside : List Char} {c : Char} (numeral : IsNumeral digits)
    (shape : withoutBlanks inside = '#' :: digits) (visible : isBlank c = false) (sign : c ≠ '#')
    (other : isDecimalDigit c = false) : c ∉ inside := by
  intro member
  have kept : c ∈ withoutBlanks inside :=
    List.mem_filter.mpr ⟨member, by rw [visible]; rfl⟩
  rw [shape] at kept
  rcases List.mem_cons.mp kept with same | digit
  · exact sign same
  · exact numeral.not_mem other digit

/-- **Texts that differ in ids only hold the same broken adornments.** -/
theorem SameButIds.holdsBroken (same : SameButIds text text') (numeral : IsNumeral digits)
    (broken : HoldsBroken digits text) : HoldsBroken digits text' := by
  induction same with
  | nil =>
    obtain ⟨before, inside, after, split, -⟩ := broken
    cases before <;> cases split
  | @character c rest rest' others ih =>
    obtain ⟨before, inside, after, split, shape, blank⟩ := broken
    rcases List.cons_eq_append_iff.mp split with ⟨rfl, start⟩ | ⟨before, rfl, later⟩
    · -- the adornment starts here, and nothing in it starts a whole one
      obtain ⟨rfl, rfl⟩ := List.cons.inj start
      have free : '^' ∉ inside :=
        not_mem_of_withoutBlanks numeral shape (by decide) (by decide) (by decide)
      obtain ⟨behind, rfl, others'⟩ := others.exists_behind free
      obtain ⟨after', rfl, -⟩ := others'.exists_of_ne_caret (by decide)
      exact ⟨[], inside, after', rfl, shape, blank⟩
    · exact (ih ⟨before, inside, after, later, shape, blank⟩).append [c]
  | @id digits₁ digits₂ rest rest' numeral₁ numeral₂ others ih =>
    obtain ⟨before, inside, after, split, shape, blank⟩ := broken
    rcases List.cons_eq_append_iff.mp split with ⟨rfl, start⟩ | ⟨before, rfl, later⟩
    · -- a whole adornment has no blanks in it
      have colon : ':' ∉ inside :=
        not_mem_of_withoutBlanks numeral shape (by decide) (by decide) (by decide)
      have colon₁ : ':' ∉ '#' :: digits₁ :=
        List.not_mem_cons_of_ne_of_not_mem (by decide) (numeral₁.not_mem not_isDecimalDigit_colon)
      obtain rfl := eq_of_append_colon colon colon₁ (List.cons.inj start).2
      obtain ⟨c, member, blank⟩ := blank
      have visible : ∀ c ∈ '#' :: digits₁, isBlank c = false :=
        List.forall_mem_cons.mpr ⟨by decide, numeral₁.isBlank_eq_false⟩
      rw [visible c member] at blank
      cases blank
    · have whole : '#' :: (digits₁ ++ ':' :: rest) = '#' :: (digits₁ ++ [':']) ++ rest := by simp
      have free : '^' ∉ '#' :: (digits₁ ++ [':']) := by
        simp [numeral₁.not_mem (c := '^') (by decide)]
      have behind : HoldsBroken digits rest :=
        .behind free (whole ▸ ⟨before, inside, after, later, shape, blank⟩)
      have there := (ih behind).append ('^' :: '#' :: (digits₂ ++ [':']))
      simpa using there

end Broken

/-- The adornments of a text without its blanks are those of the text and its broken ones. -/
theorem cleared_withoutBlanks_iff {text : List Char} (cleared : Cleared text) :
    Cleared (withoutBlanks text) ↔
      ∀ digits, IsNumeral digits → HoldsBroken digits text → digits = ['0'] := by
  constructor
  · rintro bare digits numeral ⟨before, inside, after, rfl, shape, -⟩
    refine bare (withoutBlanks before) digits (withoutBlanks after) numeral ?_
    rw [withoutBlanks_append, withoutBlanks_cons (by decide), withoutBlanks_append,
      withoutBlanks_cons (by decide), shape, List.cons_append]
  · intro broken before digits after numeral same
    obtain ⟨front, others, rfl, -, same⟩ := exists_of_withoutBlanks_eq same
    rw [← List.cons_append] at same
    obtain ⟨inside, behind, rfl, shape, -⟩ := exists_of_withoutBlanks_eq same
    by_cases blank : ∃ c ∈ inside, isBlank c = true
    · exact broken digits numeral ⟨front, inside, behind, rfl, shape, blank⟩
    · -- without blanks in it, the adornment is one of the text
      have visible : ∀ c ∈ inside, (!isBlank c) = true := by
        intro c member
        simpa using fun here => blank ⟨c, member, here⟩
      obtain rfl : inside = '#' :: digits := (List.filter_eq_self.mpr visible).symm.trans shape
      exact cleared front digits behind numeral rfl

/-! ### Two passes -/

/-- Other ids bring no blanks. -/
theorem SameButIds.forall_visible {text text' : List Char} (same : SameButIds text text')
    (visible : ∀ c ∈ text, isBlank c = false) : ∀ c ∈ text', isBlank c = false := by
  induction same with
  | nil => exact visible
  | character c _ ih =>
    obtain ⟨here, behind⟩ := List.forall_mem_cons.mp visible
    exact List.forall_mem_cons.mpr ⟨here, ih behind⟩
  | id numeral numeral' _ ih =>
    simp only [List.forall_mem_cons, List.forall_mem_append] at visible ⊢
    obtain ⟨caret, sign, -, colon, behind⟩ := visible
    exact ⟨caret, sign, numeral'.isBlank_eq_false, colon, ih behind⟩

/-- **A second normalisation clears ids and does no more.** -/
theorem normalize_normalize (text : List Char) :
    normalize (normalize text) = clearIds (normalize text) := by
  have visible : ∀ c ∈ normalize text, isBlank c = false := by
    intro c member
    simpa using (List.mem_filter.mp member).2
  refine List.filter_eq_self.mpr fun c member => ?_
  rw [(sameButIds_clearIds (normalize text)).forall_visible visible c member]
  rfl

/-- **When normalising twice is normalising once.** A second normalisation changes nothing exactly
if every id adornment of the text that blanks break has the id zero. A third one never changes
anything. -/
theorem normalize_normalize_eq_iff (text : List Char) :
    (normalize (normalize text) = normalize text ↔
      ∀ digits, IsNumeral digits → HoldsBroken digits text → digits = ['0']) ∧
    normalize (normalize (normalize text)) = normalize (normalize text) := by
  have same := sameButIds_clearIds text
  constructor
  · rw [normalize_normalize, clearIds_eq_self_iff, normalize_eq_withoutBlanks,
      cleared_withoutBlanks_iff (cleared_clearIds text)]
    refine forall₂_congr fun digits numeral => imp_congr_left ?_
    exact ⟨same.symm.holdsBroken numeral, same.holdsBroken numeral⟩
  · rw [normalize_normalize (normalize text), normalize_normalize text, clearIds_clearIds]

/-- A string literal that holds a broken adornment: the second normalisation of its rendering clears
an id that the first one left. -/
theorem normalize_brokenId_changes :
    let text := (render Adorner.kindsAndIds (.literal 1 (.string "^ #12:"))).toList
    text = "\"^ #12:\"^#1:*expr.Constant_StringValue#".toList ∧
      normalize text = "\"^#12:\"^#0:*expr.Constant_StringValue#".toList ∧
      normalize (normalize text) = "\"^#0:\"^#0:*expr.Constant_StringValue#".toList ∧
      normalize (normalize text) ≠ normalize text := by
  decide +kernel

end CelTree.Render
