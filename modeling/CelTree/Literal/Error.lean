/-
**Refused literals.**

* `LiteralError`: why a literal has no value, with its message, its code and its help text.
* `BuildError`: a refused literal and where it stands.
-/

import CelTree.Text.Numeral

namespace CelTree

open Text

/-- A place in the source text, counted by whoever reads the source. -/
abbrev Offset := UInt64

/-- Why a literal has no value. -/
inductive LiteralError
  | surrogate (code : Nat)
  | codePointRange (code : Nat)
  | byteRange (value : Nat)
  | integerRange (literal : String)
  | malformed (literal : String)
deriving DecidableEq, Repr

namespace LiteralError

/-- The message of the error. It quotes a refused numeral as it was written. -/
def message : LiteralError → String
  | .surrogate code =>
    "surrogate code point U+" ++ String.ofList ((hexDigits 4 code).map Char.toUpper) ++
      " is not allowed in a string"
  | .codePointRange code =>
    "code point 0x" ++ String.ofList (writeHex code) ++ " is outside the Unicode range"
  | .byteRange value => "value 0x" ++ String.ofList (writeHex value) ++ " does not fit in a byte"
  | .integerRange literal => "integer literal '" ++ literal ++ "' is out of range"
  | .malformed literal => "malformed numeric literal '" ++ literal ++ "'"

/-- The code by which a diagnostic names the error. -/
def code : LiteralError → String
  | .surrogate _ => "cel::literal::surrogate"
  | .codePointRange _ => "cel::literal::code_point"
  | .byteRange _ => "cel::literal::byte_range"
  | .integerRange _ => "cel::literal::int_range"
  | .malformed _ => "cel::literal::malformed"

/-- Advice that goes with the error, if there is any. -/
def help : LiteralError → Option String
  | .surrogate _ => some "surrogates, paired or lone, have no UTF-8 encoding"
  | _ => none

end LiteralError

/-- A refused literal at its place in the source. -/
structure BuildError where
  offset : Offset
  reason : LiteralError
deriving DecidableEq, Repr

namespace BuildError

/-- The message of the error. -/
def message (error : BuildError) : String :=
  "invalid literal at offset " ++ String.ofList (writeDecimal error.offset.toNat) ++ ": " ++
    error.reason.message

/-- The code by which a diagnostic names the error. -/
def code (_ : BuildError) : String := "cel::literal::invalid"

end BuildError

end CelTree
