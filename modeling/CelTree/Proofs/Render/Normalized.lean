/-
**Normalised renderings depend on structure only.**

The normaliser knows nothing of trees: it looks for `^#<digits>:` from left to right, and names and
literals may hold such texts, or the beginnings of them. Two renderings of one structure can be read
in step all the same. Where one has an id adornment at some place, the other has one at the same
place, whether it was written for an element or stands in a name.

* `SameButIds`: texts with other digits in some id adornments; `SameButIds.append`.
* `SameButIds.idAdornment`: such texts start with id adornments both or neither.
* `SameButIds.clearIds_eq`: so they are the same with ids cleared.
* `Expr.layout_sameButIds`: a tree is laid out as such texts whatever its ids, none of them negative.
* **`renderNormalized_eq_of_eraseIds_eq`** — trees of one structure are the same normalised.
-/

import CelTree.Proofs.Expr.Elements
import CelTree.Proofs.Expr.MapIds
import CelTree.Proofs.Render.Layout
import CelTree.Proofs.Text.Numeral

set_option linter.unusedSectionVars false

namespace CelTree

namespace Render

open Text

/-! ### Id adornments in a text -/

/-- The digits of an id adornment: one or more, of any script. -/
def IsNumeral (digits : List Char) : Prop :=
  digits ≠ [] ∧ ∀ c ∈ digits, isDecimalDigit c = true

theorem not_isDecimalDigit_colon : isDecimalDigit ':' = false := by decide

/-- The digits of a numeral end at the colon. -/
theorem idAdornment_numeral {digits : List Char} (numeral : IsNumeral digits) (after : List Char) :
    idAdornment ('^' :: '#' :: (digits ++ ':' :: after)) = some after := by
  obtain ⟨nonempty, decimal⟩ := numeral
  obtain ⟨first, others, rfl⟩ := List.exists_cons_of_ne_nil nonempty
  have taken : (first :: others ++ ':' :: after).takeWhile isDecimalDigit = first :: others := by
    rw [List.takeWhile_append_of_pos decimal,
      List.takeWhile_cons_of_neg (Bool.eq_false_iff.mp not_isDecimalDigit_colon), List.append_nil]
  have left : (first :: others ++ ':' :: after).dropWhile isDecimalDigit = ':' :: after := by
    rw [List.dropWhile_append_of_pos decimal,
      List.dropWhile_cons_of_neg (Bool.eq_false_iff.mp not_isDecimalDigit_colon)]
  unfold idAdornment
  simp only [taken, left]

/-- An id adornment consists of its opening, a numeral and a colon. -/
theorem exists_numeral_of_idAdornment {text after : List Char}
    (found : idAdornment text = some after) :
    ∃ digits, IsNumeral digits ∧ text = '^' :: '#' :: (digits ++ ':' :: after) := by
  unfold idAdornment at found
  split at found
  · rename_i rest
    split at found
    · rename_i first others after' digits left
      obtain rfl : after' = after := Option.some.inj found
      refine ⟨first :: others, ⟨List.cons_ne_nil _ _, fun c member => ?_⟩, ?_⟩
      · rw [← digits] at member
        exact List.all_eq_true.mp List.all_takeWhile c member
      · rw [← digits, ← left, List.takeWhile_append_dropWhile]
    · cases found
  · cases found

theorem clearIds_of_some {text after : List Char} (found : idAdornment text = some after) :
    clearIds text = '^' :: '#' :: '0' :: ':' :: clearIds after := by
  obtain ⟨digits, -, rfl⟩ := exists_numeral_of_idAdornment found
  rw [clearIds]
  split
  · rename_i after' found'
    rw [found] at found'
    rw [Option.some.inj found']
  · rename_i missing
    rw [found] at missing
    cases missing

theorem clearIds_of_none {c : Char} {rest : List Char} (missing : idAdornment (c :: rest) = none) :
    clearIds (c :: rest) = c :: clearIds rest := by
  rw [clearIds]
  split
  · rename_i found
    rw [missing] at found
    cases found
  · rfl

/-! ### Texts that differ in ids only -/

/-- Texts that are the same up to the digits of some id adornments. -/
inductive SameButIds : List Char → List Char → Prop
  | nil : SameButIds [] []
  | character (c : Char) {text text' : List Char} (rest : SameButIds text text') :
    SameButIds (c :: text) (c :: text')
  | id {digits digits' text text' : List Char} (numeral : IsNumeral digits)
    (numeral' : IsNumeral digits') (rest : SameButIds text text') :
    SameButIds ('^' :: '#' :: (digits ++ ':' :: text)) ('^' :: '#' :: (digits' ++ ':' :: text'))

namespace SameButIds

variable {text text' other other' : List Char}

theorem refl : (text : List Char) → SameButIds text text
  | [] => .nil
  | c :: rest => .character c (refl rest)

theorem symm (same : SameButIds text text') : SameButIds text' text := by
  induction same with
  | nil => exact .nil
  | character c _ ih => exact .character c ih
  | id numeral numeral' _ ih => exact .id numeral' numeral ih

/-- Texts one after the other differ in their ids only if each of them does. -/
theorem append (first : SameButIds text text') (second : SameButIds other other') :
    SameButIds (text ++ other) (text' ++ other') := by
  induction first with
  | nil => exact second
  | character c _ ih => exact .character c ih
  | id numeral numeral' _ ih =>
    simp only [List.cons_append, List.append_assoc]
    exact .id numeral numeral' ih

/-- No id adornment starts at a character other than its first, so that this one is the same. -/
theorem exists_of_ne_caret {c : Char} (other : c ≠ '^') (same : SameButIds (c :: text) text') :
    ∃ rest, text' = c :: rest ∧ SameButIds text rest := by
  cases same with
  | character c rest => exact ⟨_, rfl, rest⟩
  | id => exact absurd rfl other

/-- Nor does one start inside a part without such a character. -/
theorem exists_behind {part : List Char} (free : '^' ∉ part)
    (same : SameButIds (part ++ text) text') :
    ∃ after, text' = part ++ after ∧ SameButIds text after := by
  induction part generalizing text' with
  | nil => exact ⟨text', rfl, same⟩
  | cons c part ih =>
    have other : c ≠ '^' := (List.ne_of_not_mem_cons free).symm
    obtain ⟨rest, rfl, others⟩ := same.exists_of_ne_caret other
    obtain ⟨after, rfl, behind⟩ := ih (List.not_mem_of_not_mem_cons free) others
    exact ⟨after, rfl, behind⟩

/-- Digits that do not belong to an adornment of both texts are the same in both. -/
theorem exists_behind_digits {digits : List Char}
    (decimal : ∀ c ∈ digits, isDecimalDigit c = true)
    (same : SameButIds (digits ++ ':' :: text) text') :
    ∃ after, text' = digits ++ ':' :: after ∧ SameButIds text after := by
  have free : '^' ∉ digits := fun member => absurd (decimal '^' member) (by decide)
  obtain ⟨rest, rfl, others⟩ := same.exists_behind free
  obtain ⟨after, rfl, behind⟩ := others.exists_of_ne_caret (by decide)
  exact ⟨after, rfl, behind⟩

/-- **Texts that differ in ids only have their id adornments at the same places.** -/
theorem idAdornment (same : SameButIds text text') {after : List Char}
    (found : Render.idAdornment text = some after) :
    ∃ after', Render.idAdornment text' = some after' ∧ SameButIds after after' := by
  obtain ⟨digits, numeral, rfl⟩ := exists_numeral_of_idAdornment found
  -- the adornment is one of those that differ, or it is written in both texts
  generalize shape : '^' :: '#' :: (digits ++ ':' :: after) = start at same
  cases same with
  | nil => cases shape
  | character c rest =>
    obtain ⟨rfl, rfl⟩ := List.cons.inj shape
    obtain ⟨rest', rfl, others⟩ := rest.exists_of_ne_caret (by decide)
    obtain ⟨after', rfl, behind⟩ := others.exists_behind_digits numeral.2
    exact ⟨after', idAdornment_numeral numeral after', behind⟩
  | id numeral₁ numeral₂ rest =>
    rw [shape, idAdornment_numeral numeral₁] at found
    obtain rfl := Option.some.inj found
    exact ⟨_, idAdornment_numeral numeral₂ _, rest⟩

/-- Texts that differ in ids only have their adornments at the same places. -/
theorem idAdornment_eq_none (same : SameButIds text text')
    (missing : Render.idAdornment text = none) : Render.idAdornment text' = none := by
  cases found : Render.idAdornment text' with
  | none => rfl
  | some after' =>
    obtain ⟨after, found', -⟩ := same.symm.idAdornment found
    rw [missing] at found'
    cases found'

/-- **Texts that differ in ids only are the same with ids cleared.** -/
theorem clearIds_eq (same : SameButIds text text') : clearIds text = clearIds text' := by
  induction text using clearIds.induct generalizing text' with
  | case1 =>
    cases same
    rfl
  | case2 c rest after found ih =>
    obtain ⟨after', found', behind⟩ := same.idAdornment found
    rw [clearIds_of_some found, clearIds_of_some found', ih behind]
  | case3 c rest missing ih =>
    have missing' := same.idAdornment_eq_none missing
    cases same with
    | character c others => rw [clearIds_of_none missing, clearIds_of_none missing', ih others]
    | id numeral =>
      rw [idAdornment_numeral numeral] at missing
      cases missing

/-- Ids do not survive normalization. -/
theorem normalize_eq (same : SameButIds text text') : normalize text = normalize text' :=
  congrArg (List.filter (!isBlank ·)) same.clearIds_eq

/-! ### Layouts -/

/-- Members that differ in their ids only make up such texts. -/
theorem members {texts texts' : List (List Char)} (indent : Nat)
    (same : List.Forall₂ SameButIds texts texts') :
    SameButIds (Render.members indent texts) (Render.members indent texts') := by
  cases same with
  | nil => exact .nil
  | cons first others =>
    refine first.append ?_
    induction others with
    | nil => exact .nil
    | cons second _ ih => exact ((refl _).append second).append ih

theorem block {texts texts' : List (List Char)} (opening closing : List Char) (indent : Nat)
    (same : List.Forall₂ SameButIds texts texts') :
    SameButIds (Render.block opening closing indent texts)
      (Render.block opening closing indent texts') := by
  cases same with
  | nil => exact refl _
  | cons first others =>
    have lines := members (indent + 1) (.cons first others)
    exact (((refl (opening ++ lineBreak (indent + 1))).append lines).append (refl _)).append (refl _)

end SameButIds

/-- The digits of decimal numerals are the first of all decimal digits. -/
theorem isDecimalDigit_of_isDigitOf {c : Char} (digit : isDigitOf 10 c = true) :
    isDecimalDigit c = true := by
  have ascii : 0x30 ≤ c.toNat ∧ c.toNat ≤ 0x39 := of_isDigitOf digit (by decide)
  exact (inRanges_iff _ _).mpr ⟨(0x30, 0x39), List.mem_cons_self, ascii⟩

/-- An id that is not negative is written without a sign. -/
theorem isNumeral_writeInteger {id : Int} (unsigned : 0 ≤ id) : IsNumeral (writeInteger id) := by
  rw [writeInteger, if_neg (by omega)]
  exact ⟨writeDecimal_ne_nil _, fun c member =>
    isDecimalDigit_of_isDigitOf (isDigitOf_of_mem_writeDecimal member)⟩

/-- Adornments of one kind differ in the id only. -/
theorem SameButIds.adornment {element element' : Element} (kind : element.kind = element'.kind)
    (unsigned : 0 ≤ element.id) (unsigned' : 0 ≤ element'.id) :
    SameButIds (adornmentText Adorner.kindsAndIds element)
      (adornmentText Adorner.kindsAndIds element') := by
  rw [adornmentText_kindsAndIds, adornmentText_kindsAndIds, kind]
  exact .id (isNumeral_writeInteger unsigned) (isNumeral_writeInteger unsigned') (.refl _)

end Render

open Render

/-! ### Trees -/

/-- The element with every id replaced. -/
def Render.Element.mapIds (f : Int → Int) : Element → Element
  | .node tree => .node (tree.mapIds f)
  | .entry member => .entry (member.mapIds f)

theorem Render.Element.id_mapIds (f : Int → Int) (element : Element) :
    (element.mapIds f).id = f element.id := by
  rcases element with tree | member
  · cases tree <;> rfl
  · cases member <;> rfl

theorem Render.Element.kind_mapIds (f : Int → Int) (element : Element) :
    (element.mapIds f).kind = element.kind := by
  rcases element with tree | member
  · cases tree <;> rfl
  · rfl

section Trees

variable {f : Int → Int} (kept : ∀ id, 0 ≤ id → 0 ≤ f id)

include kept

/-- Changing the id of an element changes the id of its adornment only. -/
theorem adornment_sameButIds {element : Element} (unsigned : ∀ id ∈ element.ids, 0 ≤ id) :
    SameButIds (adornmentText Adorner.kindsAndIds element)
      (adornmentText Adorner.kindsAndIds (element.mapIds f)) := by
  have own : 0 ≤ element.id := unsigned _ (by rw [element.ids_eq]; exact List.mem_cons_self)
  refine .adornment (element.kind_mapIds f).symm own ?_
  rw [element.id_mapIds]
  exact kept _ own

mutual

/-- **A tree with other ids is laid out as the same text but for ids.** -/
theorem Expr.layout_sameButIds (indent : Nat) :
    (tree : Expr) → (∀ id ∈ tree.ids, 0 ≤ id) →
      SameButIds (tree.layout Adorner.kindsAndIds indent)
        ((tree.mapIds f).layout Adorner.kindsAndIds indent)
  | .literal _ _, unsigned => (SameButIds.refl _).append (adornment_sameButIds kept unsigned)
  | .ident _ _, unsigned => (SameButIds.refl _).append (adornment_sameButIds kept unsigned)
  | .select id operand field testOnly, unsigned => by
    obtain ⟨-, inOperand⟩ := List.forall_mem_cons.mp unsigned
    have operandSame := operand.layout_sameButIds indent inOperand
    have selected := ((operandSame.append (.refl ['.'])).append (.refl field.toList)).append
      (.refl (testText testOnly))
    exact selected.append (adornment_sameButIds kept unsigned)
  | .call id function args, unsigned => by
    obtain ⟨-, inArgs⟩ := List.forall_mem_cons.mp unsigned
    have argsSame := SameButIds.block ['('] [')'] indent
      (Expr.layoutAll_sameButIds (indent + 1) args inArgs)
    exact ((SameButIds.refl function.toList).append argsSame).append
      (adornment_sameButIds kept unsigned)
  | .memberCall id target function args, unsigned => by
    obtain ⟨-, inParts⟩ := List.forall_mem_cons.mp unsigned
    obtain ⟨inTarget, inArgs⟩ := List.forall_mem_append.mp inParts
    have targetSame := target.layout_sameButIds indent inTarget
    have argsSame := SameButIds.block ['('] [')'] indent
      (Expr.layoutAll_sameButIds (indent + 1) args inArgs)
    have called := ((targetSame.append (.refl ['.'])).append (.refl function.toList)).append argsSame
    exact called.append (adornment_sameButIds kept unsigned)
  | .list id elements, unsigned => by
    obtain ⟨-, inElements⟩ := List.forall_mem_cons.mp unsigned
    have elementsSame := SameButIds.block ['['] [']'] indent
      (Expr.layoutAll_sameButIds (indent + 1) elements inElements)
    exact elementsSame.append (adornment_sameButIds kept unsigned)
  | .struct id message entries, unsigned => by
    obtain ⟨-, inEntries⟩ := List.forall_mem_cons.mp unsigned
    have entriesSame := SameButIds.block ['\x7b'] ['\x7d'] indent
      (Entry.layoutAll_sameButIds (indent + 1) entries inEntries)
    exact ((SameButIds.refl message.toList).append entriesSame).append
      (adornment_sameButIds kept unsigned)
  | .comprehension id iterVar iterVar2 range accuVar init condition step result, unsigned => by
    obtain ⟨-, inParts⟩ := List.forall_mem_cons.mp unsigned
    obtain ⟨inParts, inResult⟩ := List.forall_mem_append.mp inParts
    obtain ⟨inParts, inStep⟩ := List.forall_mem_append.mp inParts
    obtain ⟨inParts, inCondition⟩ := List.forall_mem_append.mp inParts
    obtain ⟨inRange, inInit⟩ := List.forall_mem_append.mp inParts
    have lines := SameButIds.refl
      (heading "__comprehension__(" "Variable" (indent + 1) ++ iterVar.toList ++
        heading "," "Target" (indent + 1))
    have lines := lines.append (range.layout_sameButIds (indent + 1) inRange)
    have lines := (lines.append (.refl (heading "," "Accumulator" (indent + 1)))).append
      (.refl accuVar.toList)
    have lines := (lines.append (.refl (heading "," "Init" (indent + 1)))).append
      (init.layout_sameButIds (indent + 1) inInit)
    have lines := (lines.append (.refl (heading "," "LoopCondition" (indent + 1)))).append
      (condition.layout_sameButIds (indent + 1) inCondition)
    have lines := (lines.append (.refl (heading "," "LoopStep" (indent + 1)))).append
      (step.layout_sameButIds (indent + 1) inStep)
    have lines := (lines.append (.refl (heading "," "Result" (indent + 1)))).append
      (result.layout_sameButIds (indent + 1) inResult)
    exact (lines.append (.refl [')'])).append (adornment_sameButIds kept unsigned)

theorem Expr.layoutAll_sameButIds (indent : Nat) :
    (trees : List Expr) → (∀ id ∈ Expr.idsAll trees, 0 ≤ id) →
      List.Forall₂ SameButIds (Expr.layoutAll Adorner.kindsAndIds indent trees)
        (Expr.layoutAll Adorner.kindsAndIds indent (Expr.mapIdsAll f trees))
  | [], _ => .nil
  | first :: rest, unsigned => by
    obtain ⟨inFirst, inRest⟩ := List.forall_mem_append.mp unsigned
    exact .cons (first.layout_sameButIds indent inFirst)
      (Expr.layoutAll_sameButIds indent rest inRest)

/-- Changing the ids of an entry changes the ids of its layout only. -/
theorem Entry.layout_sameButIds (indent : Nat) :
    (entry : Entry) → (∀ id ∈ entry.ids, 0 ≤ id) →
      SameButIds (entry.layout Adorner.kindsAndIds indent)
        ((entry.mapIds f).layout Adorner.kindsAndIds indent)
  | .map id key value optional, unsigned => by
    obtain ⟨-, inParts⟩ := List.forall_mem_cons.mp unsigned
    obtain ⟨inKey, inValue⟩ := List.forall_mem_append.mp inParts
    have keyed := ((SameButIds.refl (optionalText optional)).append
      (key.layout_sameButIds indent inKey)).append (.refl [':'])
    exact (keyed.append (value.layout_sameButIds indent inValue)).append
      (adornment_sameButIds kept unsigned)
  | .field id name value optional, unsigned => by
    obtain ⟨-, inValue⟩ := List.forall_mem_cons.mp unsigned
    have named := SameButIds.refl (optionalText optional ++ name.toList ++ [':'])
    exact (named.append (value.layout_sameButIds indent inValue)).append
      (adornment_sameButIds kept unsigned)

theorem Entry.layoutAll_sameButIds (indent : Nat) :
    (entries : List Entry) → (∀ id ∈ Entry.idsAll entries, 0 ≤ id) →
      List.Forall₂ SameButIds (Entry.layoutAll Adorner.kindsAndIds indent entries)
        (Entry.layoutAll Adorner.kindsAndIds indent (Entry.mapIdsAll f entries))
  | [], _ => .nil
  | first :: rest, unsigned => by
    obtain ⟨inFirst, inRest⟩ := List.forall_mem_append.mp unsigned
    exact .cons (first.layout_sameButIds indent inFirst)
      (Entry.layoutAll_sameButIds indent rest inRest)

end

/-- Normalised, a tree is the same with other ids. -/
theorem renderNormalized_mapIds {tree : Expr} (unsigned : ∀ id ∈ tree.ids, 0 ≤ id) :
    renderNormalized (tree.mapIds f) = renderNormalized tree := by
  have same := tree.layout_sameButIds kept 0 unsigned
  rw [renderNormalized, renderNormalized, render_eq_layout, render_eq_layout,
    String.toList_ofList, String.toList_ofList, same.normalize_eq]

end Trees

/-- **Normalised renderings depend on the structure only.** Two trees that are the same with every
id zero are the same normalised, whatever their names and literals hold, as long as no id is
negative. -/
theorem renderNormalized_eq_of_eraseIds_eq {tree tree' : Expr}
    (same : tree.eraseIds = tree'.eraseIds) (unsigned : ∀ id ∈ tree.ids, 0 ≤ id)
    (unsigned' : ∀ id ∈ tree'.ids, 0 ≤ id) : renderNormalized tree = renderNormalized tree' := by
  have zero : ∀ id : Int, 0 ≤ id → (0 : Int) ≤ 0 := fun _ _ => le_refl 0
  rw [← renderNormalized_mapIds zero unsigned, ← renderNormalized_mapIds zero unsigned']
  exact congrArg renderNormalized same

/-- Names that hold an id adornment, or the beginning of one that their own adornment goes on. -/
theorem renderNormalized_eq_of_eraseIds_eq_adornmentLike :
    let message := "^#12:M^#1"
    let named (name : String) (id : Int) : Expr := .ident id name
    let tree : Expr := .struct 4 message [.field 3 "^#1" (named "x^#12:y" 2) true]
    let tree' : Expr := .struct 400 message [.field 3000 "^#1" (named "x^#12:y" 0) true]
    tree.eraseIds = tree'.eraseIds ∧ tree.ids = [4, 3, 2] ∧ tree'.ids = [400, 3000, 0] ∧
      renderNormalized tree = renderNormalized tree' :=
  ⟨rfl, rfl, rfl, renderNormalized_eq_of_eraseIds_eq rfl (by decide) (by decide)⟩

end CelTree
