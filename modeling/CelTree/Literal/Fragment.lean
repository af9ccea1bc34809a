/-
**Quoted literals from fragments.**

A quoted literal arrives as pieces of verbatim text and lists of numbers that its escapes stood
for.

* `assembleString`: the text. The first number that is no Unicode scalar value refuses it, a
  surrogate with an error of its own.
* `assembleBytes`: the bytes, verbatim text in UTF-8. The first number above a byte refuses it.
-/

import CelTree.Literal.Error
import CelTree.Text.Utf8

namespace CelTree

/-- One piece of a quoted literal. -/
inductive Fragment
  | verbatim (text : String)
  | numbers (values : List Nat)
deriving DecidableEq, Repr

namespace Fragment

/-- The character that a number stands for in a string. -/
def character (code : Nat) : Except LiteralError Char :=
  if 0xd800 ≤ code ∧ code ≤ 0xdfff then .error (.surrogate code)
  else if 0x110000 ≤ code then .error (.codePointRange code)
  else .ok (Char.ofNat code)

/-- The byte that a number stands for in a bytes literal. -/
def byte (value : Nat) : Except LiteralError UInt8 :=
  if value ≤ 0xff then .ok (UInt8.ofNat value) else .error (.byteRange value)

/-- The characters of one fragment. -/
def characters : Fragment → Except LiteralError (List Char)
  | .verbatim text => .ok text.toList
  | .numbers values => values.mapM character

/-- The bytes of one fragment. -/
def bytes : Fragment → Except LiteralError (List UInt8)
  | .verbatim text => .ok (Text.utf8Bytes text.toList)
  | .numbers values => values.mapM byte

end Fragment

/-- The text of a string literal. -/
def assembleString (fragments : List Fragment) : Except LiteralError String := do
  let parts ← fragments.mapM Fragment.characters
  return String.ofList parts.flatten

/-- The bytes of a bytes literal. -/
def assembleBytes (fragments : List Fragment) : Except LiteralError (List UInt8) := do
  let parts ← fragments.mapM Fragment.bytes
  return parts.flatten

end CelTree
