/-
**UTF-8 at the head of a byte sequence.**

* `utf8Bytes`: the encoding of a text.
* `utf8Head`: the character whose encoding the bytes start with, if there is one. Four bytes are
  enough to see it.
-/

namespace CelTree.Text

/-- The UTF-8 encoding of a text. -/
def utf8Bytes (text : List Char) : List UInt8 := text.flatMap String.utf8EncodeChar

/-- The character whose UTF-8 encoding the bytes start with: complete, of minimal length, and a
Unicode scalar value. -/
def utf8Head (bytes : List UInt8) : Option Char :=
  (bytes.take 4).toByteArray.utf8DecodeChar? 0

end CelTree.Text
