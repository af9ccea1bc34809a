/-
**Normalised renderings.**

Two renderings are compared after their ids and their blanks are removed.

* `idAdornment`: the text after an id adornment `^#<digits>:` that starts here.
* `clearIds`: every such adornment with the id zero.
* `normalize`: that, without blanks and line ends.
-/

import CelTree.Text.DecimalDigit

namespace CelTree.Render

open Text

/-- What follows an id adornment `^#<digits>:` at the start of a text, if one stands there. -/
def idAdornment (text : List Char) : Option (List Char) :=
  match text with
  | '^' :: '#' :: rest =>
    match rest.takeWhile isDecimalDigit, rest.dropWhile isDecimalDigit with
    | _ :: _, ':' :: after => some after
    | _, _ => none
  | _ => none

theorem idAdornment_length {text after : List Char} (found : idAdornment text = some after) :
    after.length < text.length := by
  unfold idAdornment at found
  split at found
  · rename_i rest
    split at found
    · rename_i first others after' digits same
      have shorter := (List.dropWhile_suffix isDecimalDigit (l := rest)).length_le
      simp only [Option.some.injEq] at found
      subst found
      rw [same] at shorter
      simp only [List.length_cons] at shorter ⊢
      omega
    · simp at found
  · simp at found

/-- A text with zero for the id of every id adornment, found from left to right. -/
def clearIds (text : List Char) : List Char :=
  match text with
  | [] => []
  | c :: rest =>
    match _found : idAdornment (c :: rest) with
    | some after => '^' :: '#' :: '0' :: ':' :: clearIds after
    | none => c :: clearIds rest
termination_by text.length
decreasing_by
  · exact idAdornment_length _found
  · simp

/-- A blank or a line end. -/
def isBlank (c : Char) : Bool := c == '\n' || c == '\r' || c == '\t' || c == ' '

/-- A rendering without ids, blanks and line ends. -/
def normalize (text : List Char) : List Char := (clearIds text).filter (!isBlank ·)

end CelTree.Render
