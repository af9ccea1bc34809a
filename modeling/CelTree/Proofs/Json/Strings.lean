/-
**Strings of a document read back.**

Each character is written in one of three ways, and each of them is read as that character whatever
follows it. A text between quotes is one such character after the other.

* `EscapeForm`: the three ways. Every character is written in one of them (`escapeForm`).
* **`unescape_escape`** — a text reads back from what stands between its quotes.
* `ClosedBody`: what stands between quotes ends at the closing quote. So does every written text
  (`closedBody_escape`).
-/

import CelTree.Json.Text
import CelTree.Proofs.Text.Numeral
import Mathlib.Data.List.Basic

namespace CelTree.Json

open CelTree.Text

/-- How a character may be written between quotes. -/
inductive EscapeForm (c : Char) : List Char → Prop
  | short {letter : Char} (reads : simpleEscape letter = some c) : EscapeForm c ['\\', letter]
  | long (control : c.toNat < 0x20) : EscapeForm c ('\\' :: 'u' :: hexDigits 4 c.toNat)
  | verbatim (noQuote : c ≠ '"') (noBackslash : c ≠ '\\') (printable : ¬ c.toNat < 0x20) :
    EscapeForm c [c]

theorem escapeForm (c : Char) : EscapeForm c (escapeChar c) := by
  unfold escapeChar
  split
  iterate 7 exact .short rfl
  rename_i noQuote noBackslash _ _ _ _ _
  split
  · rename_i control
    exact .long control
  · rename_i printable
    exact .verbatim noQuote noBackslash printable

theorem exists_hexDigits_four (value : Nat) :
    ∃ a b c d, hexDigits 4 value = [a, b, c, d] := by
  have length := hexDigits_length 4 value
  match same : hexDigits 4 value, length with
  | [a, b, c, d], _ => exact ⟨a, b, c, d, rfl⟩

theorem ne_u_of_simpleEscape {letter c : Char} (reads : simpleEscape letter = some c) :
    letter ≠ 'u' := by
  rintro rfl
  cases reads

/-! ### From a text and back -/

/-- A written character is read whatever follows it. -/
theorem unescape_append {c : Char} {written : List Char} (form : EscapeForm c written)
    (rest : List Char) : unescape (written ++ rest) = (unescape rest).map (c :: ·) := by
  cases form with
  | @short letter reads =>
    have notU := ne_u_of_simpleEscape reads
    show unescape ('\\' :: letter :: rest) = _
    rw [unescape, reads]
    exact fun _ _ _ _ _ same => absurd same notU
  | long control =>
    have code : readNumeral 16 (hexDigits 4 c.toNat) = some c.toNat :=
      readNumeral_hexDigits (by omega)
    obtain ⟨one, two, three, four, digits⟩ := exists_hexDigits_four c.toNat
    rw [digits] at code ⊢
    have notLow : isLowSurrogate c.toNat = false := by
      simp only [isLowSurrogate, Bool.and_eq_false_iff, decide_eq_false_iff_not]
      omega
    have notHigh : isHighSurrogate c.toNat = false := by
      simp only [isHighSurrogate, Bool.and_eq_false_iff, decide_eq_false_iff_not]
      omega
    show unescape ('\\' :: 'u' :: one :: two :: three :: four :: rest) = _
    rw [unescape, code]
    simp only [notLow, notHigh, Char.ofNat_toNat]
    rfl
  | verbatim noQuote noBackslash printable =>
    show unescape (c :: rest) = _
    rw [unescape]
    · exact fun _ _ _ _ _ same _ => noBackslash same
    · exact fun _ _ same _ => noBackslash same
    · exact fun same _ => noBackslash same

/-- **A text reads back from what stands between its quotes.** -/
theorem unescape_escape (text : List Char) : unescape (escape text) = some text := by
  induction text with
  | nil => rfl
  | cons c rest ih =>
    have form := unescape_append (escapeForm c) (escape rest)
    rw [ih] at form
    exact form

theorem toText_ofText (text : String) : (ofText text).toText = some text := by
  rw [ofText, toText, unescape_escape, Option.map_some, String.ofList_toList]

/-! ### Up to the closing quote -/

/-- The body is what stands before a closing quote, whatever follows that. -/
def ClosedBody (body : List Char) : Prop :=
  ∀ rest, splitBody (body ++ '"' :: rest) = some (body, rest)

/-- A written character does not close the quotes. -/
theorem splitBody_append {c : Char} {written : List Char} (form : EscapeForm c written)
    (rest : List Char) :
    splitBody (written ++ rest) =
      (splitBody rest).map fun (body, after) => (written ++ body, after) := by
  cases form with
  | @short letter reads =>
    have notU := ne_u_of_simpleEscape reads
    show splitBody ('\\' :: letter :: rest) = _
    rw [splitBody, reads]
    · rfl
    · exact fun _ _ _ _ _ same => absurd same notU
  | long control =>
    have digits : ∀ digit ∈ hexDigits 4 c.toNat, isDigitOf 16 digit = true :=
      fun _ member => isDigitOf_of_mem_hexDigits member
    obtain ⟨one, two, three, four, same⟩ := exists_hexDigits_four c.toNat
    rw [same] at digits ⊢
    show splitBody ('\\' :: 'u' :: one :: two :: three :: four :: rest) = _
    rw [splitBody, if_pos (List.all_eq_true.mpr digits)]
    rfl
  | verbatim noQuote noBackslash printable =>
    show splitBody (c :: rest) = _
    rw [splitBody, if_neg printable]
    · rfl
    · exact noQuote
    · exact fun _ _ _ _ _ same _ => noBackslash same
    · exact fun _ _ same _ => noBackslash same
    · exact fun same _ => noBackslash same

theorem closedBody_escape (text : List Char) : ClosedBody (escape text) := by
  intro rest
  induction text with
  | nil => rfl
  | cons c others ih =>
    have form := splitBody_append (escapeForm c) (escape others ++ '"' :: rest)
    rw [ih, ← List.append_assoc] at form
    exact form

/-- A text of characters that stand for themselves closes as it is. -/
theorem closedBody_of_verbatim {text : List Char} (verbatim : ∀ c ∈ text, escapeChar c = [c]) :
    ClosedBody text := by
  have same : escape text = text := by
    rw [escape, List.flatMap_congr verbatim, List.flatMap_singleton']
  exact same ▸ closedBody_escape text

end CelTree.Json
