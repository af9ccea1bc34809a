/-
**Tokens of a document.**

* `Token`: brackets, separators and scalars.
* `tokens`: the tokens of a text, blanks left out. Numbers and words extend as far as they can.
-/

import CelTree.Json.Number
import CelTree.Json.Text

namespace CelTree.Json

open CelTree.Text

/-- A token of a document. -/
inductive Token
  | openArray
  | closeArray
  | openObject
  | closeObject
  | comma
  | colon
  | string (body : List Char)
  /-- A number, a boolean or null. -/
  | scalar (value : Json)

/-- A blank between tokens. -/
def isBlank (c : Char) : Bool := c == ' ' || c == '\n' || c == '\r' || c == '\t'

/-- A bracket or a separator. -/
def punctuation (c : Char) : Option Token :=
  match c with
  | '[' => some .openArray
  | ']' => some .closeArray
  | '\x7b' => some .openObject
  | '\x7d' => some .closeObject
  | ',' => some .comma
  | ':' => some .colon
  | _ => none

/-- A character of a number or of a word. -/
def isScalarChar (c : Char) : Bool :=
  c.isAlphanum || c == '-' || c == '+' || c == '.'

/-- The scalar of a run of such characters. -/
def scalar (run : List Char) : Option Json :=
  match run with
  | ['n', 'u', 'l', 'l'] => some .null
  | ['t', 'r', 'u', 'e'] => some (.bool true)
  | ['f', 'a', 'l', 's', 'e'] => some (.bool false)
  | run => if isNumber run then some (.number run) else none

/-- The tokens of a text. -/
def tokens (text : List Char) : Option (List Token) :=
  match text with
  | [] => some []
  | c :: rest =>
    if isBlank c then tokens rest
    else if c = '"' then
      match _split : splitBody rest with
      | some (body, after) => (tokens after).map (Token.string body :: ·)
      | none => none
    else
      match punctuation c with
      | some token => (tokens rest).map (token :: ·)
      | none =>
        match scalar ((c :: rest).takeWhile isScalarChar) with
        | some value =>
          (tokens (rest.dropWhile isScalarChar)).map (Token.scalar value :: ·)
        | none => none
termination_by text.length
decreasing_by
  · simp
  · have := splitBody_length _split
    simp only [List.length_cons]
    omega
  · simp
  · have := (List.dropWhile_suffix isScalarChar (l := rest)).length_le
    simp only [List.length_cons]
    omega

end CelTree.Json
