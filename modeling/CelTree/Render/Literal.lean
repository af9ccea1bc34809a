/-
**Constants as text.**

* `literalTextWith`: a constant on one line, for any classes of printable characters and marks and
  any clusters.
* `literalText`: the way it stands in a rendered tree, with the classes and clusters of Unicode.
-/

import CelTree.Constant
import CelTree.Double.Layout
import CelTree.Render.Quoted

namespace CelTree.Render

open Text

/-- The text of a constant; unsigned integers end in `u`. A string falls into clusters as `split`
says. -/
def literalTextWith (printable mark : Char → Bool) (split : List Char → List (List Char)) :
    Constant → List Char
  | .null => "null".toList
  | .bool true => "true".toList
  | .bool false => "false".toList
  | .int64 value => writeInteger value.toInt
  | .uint64 value => writeDecimal value.toNat ++ ['u']
  | .double value => value.text
  | .string value => quoteStringWith printable mark (split value.toList)
  | .bytes value => quoteBytesAs printable value

/-- The text of a constant in a rendered tree. -/
def literalText (value : Constant) : List Char :=
  literalTextWith isPrintable isMark clusters value

end CelTree.Render
