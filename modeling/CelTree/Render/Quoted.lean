/-
**Quoted text.**

A string is quoted cluster by cluster. A cluster is printable if it is a printable character
followed by marks only; a character is written as it is if its cluster or the character itself is
printable, and escaped otherwise. Bytes are quoted character by character where they start with
the encoding of a printable character, and escaped byte by byte elsewhere.

* `quoteStringWith`, `quoteBytesAs`: the quoted forms, for any classes of printable characters and
  marks and any clusters.
* `quoteString`, `quoteBytes`: the quoted forms, with the classes and clusters of Unicode.
-/

import CelTree.Text.Cluster
import CelTree.Text.Mark
import CelTree.Text.Numeral
import CelTree.Text.Printable
import CelTree.Text.Utf8

namespace CelTree.Render

open Text

/-! ### Characters -/

/-- The letter that stands for a control character after a backslash. -/
def shortEscape (code : Nat) : Option Char :=
  match code with
  | 0x07 => some 'a'
  | 0x08 => some 'b'
  | 0x09 => some 't'
  | 0x0a => some 'n'
  | 0x0b => some 'v'
  | 0x0c => some 'f'
  | 0x0d => some 'r'
  | _ => none

/-- A character as it is; a backslash goes before a backslash and a double quote. -/
def verbatim (c : Char) : List Char :=
  if c = '\\' ∨ c = '"' then ['\\', c] else [c]

/-- A character by its escape: a letter, four hexadecimal digits, or eight beyond U+FFFF. -/
def escapeCharacter (c : Char) : List Char :=
  match shortEscape c.toNat with
  | some letter => ['\\', letter]
  | none =>
    if c.toNat ≤ 0xffff then '\\' :: 'u' :: hexDigits 4 c.toNat
    else '\\' :: 'U' :: hexDigits 8 c.toNat

/-- A byte by its escape: a letter or two hexadecimal digits. -/
def escapeByte (byte : UInt8) : List Char :=
  match shortEscape byte.toNat with
  | some letter => ['\\', letter]
  | none => '\\' :: 'x' :: hexDigits 2 byte.toNat

/-! ### Strings -/

/-- A printable character followed by marks only. -/
def printsWhole (printable mark : Char → Bool) : List Char → Bool
  | [] => false
  | base :: marks => printable base && marks.all mark

/-- One cluster inside quotes. -/
def quoteCluster (printable mark : Char → Bool) (cluster : List Char) : List Char :=
  cluster.flatMap fun c =>
    if printsWhole printable mark cluster || printable c then verbatim c else escapeCharacter c

/-- Clusters inside quotes. -/
def quoteClusters (printable mark : Char → Bool) (clusters : List (List Char)) : List Char :=
  clusters.flatMap (quoteCluster printable mark)

/-- A string in double quotes, with any classes of printable characters and of marks, that falls
into the given parts. -/
def quoteStringWith (printable mark : Char → Bool) (parts : List (List Char)) : List Char :=
  '"' :: quoteClusters printable mark parts ++ ['"']

/-- A string in double quotes. -/
def quoteString (text : String) : List Char :=
  quoteStringWith isPrintable isMark (clusters text.toList)

/-! ### Bytes -/

/-- The printable character whose encoding the bytes start with. The replacement character counts
as not printable. -/
def printableHead (printable : Char → Bool) (bytes : List UInt8) : Option Char :=
  match utf8Head bytes with
  | some c => if c.toNat ≠ 0xfffd ∧ printable c then some c else none
  | none => none

/-- Bytes inside quotes. -/
def quoteBytesWith (printable : Char → Bool) : List UInt8 → List Char
  | [] => []
  | byte :: rest =>
    match printableHead printable (byte :: rest) with
    | some c => verbatim c ++ quoteBytesWith printable (rest.drop (c.utf8Size - 1))
    | none => escapeByte byte ++ quoteBytesWith printable rest
termination_by bytes => bytes.length
decreasing_by all_goals simp; try omega

/-- Bytes in double quotes after the letter `b`, with any class of printable characters. -/
def quoteBytesAs (printable : Char → Bool) (bytes : List UInt8) : List Char :=
  'b' :: '"' :: quoteBytesWith printable bytes ++ ['"']

/-- Bytes in double quotes after the letter `b`. -/
def quoteBytes (bytes : List UInt8) : List Char := quoteBytesAs isPrintable bytes

end CelTree.Render
