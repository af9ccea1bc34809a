/-
**Strings of a document.**

* `escape`, `unescape`: from a text to what stands between quotes, and back. Reading refuses
  surrogates that do not form a pair.
* `splitBody`: what stands between quotes, with its escapes checked for form only.
-/

import CelTree.Json.Basic
import CelTree.Text.Numeral

namespace CelTree.Json

open CelTree.Text

/-! ### Writing -/

/-- A character between quotes: quotes, backslashes and control characters are escaped. -/
def escapeChar (c : Char) : List Char :=
  match c with
  | '"' => ['\\', '"']
  | '\\' => ['\\', '\\']
  | '\x08' => ['\\', 'b']
  | '\x0c' => ['\\', 'f']
  | '\n' => ['\\', 'n']
  | '\r' => ['\\', 'r']
  | '\t' => ['\\', 't']
  | c => if c.toNat < 0x20 then '\\' :: 'u' :: hexDigits 4 c.toNat else [c]

/-- A text between quotes. -/
def escape (text : List Char) : List Char := text.flatMap escapeChar

/-! ### Reading -/

/-- The character of an escape of one letter. -/
def simpleEscape (letter : Char) : Option Char :=
  match letter with
  | '"' => some '"'
  | '\\' => some '\\'
  | '/' => some '/'
  | 'b' => some '\x08'
  | 'f' => some '\x0c'
  | 'n' => some '\n'
  | 'r' => some '\r'
  | 't' => some '\t'
  | _ => none

/-- A code point that is the first half of a surrogate pair. -/
def isHighSurrogate (code : Nat) : Bool := 0xd800 ≤ code && code ≤ 0xdbff

/-- A code point that is the second half of a surrogate pair. -/
def isLowSurrogate (code : Nat) : Bool := 0xdc00 ≤ code && code ≤ 0xdfff

/-- The character of a surrogate pair. -/
def pairCharacter (high low : Nat) : Char :=
  Char.ofNat (0x10000 + (high - 0xd800) * 0x400 + (low - 0xdc00))

/-- The text that stands between quotes. -/
def unescape : List Char → Option (List Char)
  | [] => some []
  | '\\' :: 'u' :: a :: b :: c :: d :: rest =>
    match readNumeral 16 [a, b, c, d] with
    | none => none
    | some code =>
      if isLowSurrogate code then none
      else if isHighSurrogate code then
        match rest with
        | '\\' :: 'u' :: e :: f :: g :: h :: after =>
          match readNumeral 16 [e, f, g, h] with
          | some low =>
            if isLowSurrogate low then (unescape after).map (pairCharacter code low :: ·) else none
          | none => none
        | _ => none
      else (unescape rest).map (Char.ofNat code :: ·)
  | '\\' :: letter :: rest =>
    match simpleEscape letter with
    | some c => (unescape rest).map (c :: ·)
    | none => none
  | ['\\'] => none
  | c :: rest => (unescape rest).map (c :: ·)

/-- What stands between an opening quote and its closing quote, and what follows. Escapes have
one letter or four hexadecimal digits; control characters are refused. -/
def splitBody : List Char → Option (List Char × List Char)
  | [] => none
  | '"' :: rest => some ([], rest)
  | '\\' :: 'u' :: a :: b :: c :: d :: rest =>
    if [a, b, c, d].all (isDigitOf 16) then
      (splitBody rest).map fun (body, after) => ('\\' :: 'u' :: a :: b :: c :: d :: body, after)
    else none
  | '\\' :: letter :: rest =>
    if (simpleEscape letter).isSome then
      (splitBody rest).map fun (body, after) => ('\\' :: letter :: body, after)
    else none
  | ['\\'] => none
  | c :: rest =>
    if c.toNat < 0x20 then none
    else (splitBody rest).map fun (body, after) => (c :: body, after)

theorem splitBody_length {text body after : List Char} (split : splitBody text = some (body, after)) :
    after.length < text.length := by
  fun_induction splitBody text generalizing body with
  | case1 => cases split
  | case2 rest =>
    cases split
    simp
  | case3 a b c d rest _ ih =>
    obtain ⟨⟨inner, _⟩, found, same⟩ := Option.map_eq_some_iff.mp split
    cases same
    have := ih found
    simp only [List.length_cons]
    omega
  | case4 => cases split
  | case5 letter rest _ _ ih =>
    obtain ⟨⟨inner, _⟩, found, same⟩ := Option.map_eq_some_iff.mp split
    cases same
    have := ih found
    simp only [List.length_cons]
    omega
  | case6 => cases split
  | case7 => cases split
  | case8 => cases split
  | case9 c rest _ _ _ _ _ ih =>
    obtain ⟨⟨inner, _⟩, found, same⟩ := Option.map_eq_some_iff.mp split
    cases same
    have := ih found
    simp only [List.length_cons]
    omega

/-- A JSON string with the given text. -/
def ofText (text : String) : Json := .string (escape text.toList)

/-- The text of a JSON string. -/
def toText : Json → Option String
  | .string body => (unescape body).map String.ofList
  | _ => none

end CelTree.Json
