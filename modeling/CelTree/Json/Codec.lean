/-
**Texts of the data types.**

* `TextReader`: how texts and the spellings of doubles are read.
* `Codec`: a type with a document for each of its values.
* `Codec.encode`, `Codec.decodeWith`: from a value to compact text, and back by any reader.
* `Codec.decode`, `Codec.recode`: by the standard reader.
-/

import CelTree.Json.Reader
import CelTree.Json.SourceInfo

namespace CelTree

/-- How texts are read: the document of a text, and the double of a number's spelling. -/
structure TextReader where
  document : String → Option Json
  double : List Char → Option Double

/-- Documents by the machine that goes over their tokens, and doubles scaled by powers of ten. -/
def TextReader.standard : TextReader := ⟨Json.read, Json.readDouble⟩

/-- How the values of a type are written and read as documents. The reader is told how the spelling
of a double is read, and how many containers may be open at once. -/
structure Codec (α : Type) where
  toJson : α → Json
  ofJson? : (List Char → Option Double) → Nat → Json → Option α

namespace Codec

variable {α : Type}

/-- The text of a value. -/
def encode (codec : Codec α) (value : α) : String := String.ofList (codec.toJson value).write

/-- The value of a text. -/
def decodeWith (reader : TextReader) (codec : Codec α) (text : String) : Option α :=
  (reader.document text).bind (codec.ofJson? reader.double Json.maxDepth)

/-- A text that denotes a value, written anew. -/
def recodeWith (reader : TextReader) (codec : Codec α) (text : String) : Option String :=
  (codec.decodeWith reader text).map codec.encode

/-- The value of a text, as the standard reader has it. -/
def decode (codec : Codec α) (text : String) : Option α := codec.decodeWith .standard text

/-- A text that denotes a value for the standard reader, written anew. -/
def recode (codec : Codec α) (text : String) : Option String := codec.recodeWith .standard text

/-- Trees. -/
def expr : Codec Expr := ⟨Expr.toJson, Expr.ofJson?⟩

/-- Entries. -/
def entry : Codec Entry := ⟨Entry.toJson, Entry.ofJson?⟩

/-- Constants. -/
def constant : Codec Constant := ⟨Constant.toJson, Constant.ofJson?⟩

/-- Source information. -/
def sourceInfo : Codec SourceInfo := ⟨SourceInfo.toJson, SourceInfo.ofJson?⟩

/-- Options. -/
def options : Codec Options := ⟨Options.toJson, fun _ => Options.ofJson?⟩

/-- Single macros. -/
def singleMacro : Codec Macro := ⟨Macro.toJson, fun _ => Macro.ofJson?⟩

/-- Sets of macros. -/
def macroSet : Codec MacroSet := ⟨MacroSet.toJson, fun _ => MacroSet.ofJson?⟩

end Codec

end CelTree
