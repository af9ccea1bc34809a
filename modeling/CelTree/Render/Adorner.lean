/-
**Adornments.**

A rendering may carry a text after every node and every entry.

* `Element`: what is adorned.
* `Adorner`: the text of each element, such as `Adorner.kinds` and `Adorner.kindsAndIds`.
-/

import CelTree.Expr.Basic
import CelTree.Text.Numeral

namespace CelTree.Render

open Text

/-- What an adornment may follow. -/
inductive Element
  | node (tree : Expr)
  | entry (entry : Entry)

namespace Element

/-- The id of an element. -/
def id : Element → Int
  | .node tree => tree.id
  | .entry member => member.id

/-- The tag of an element's kind. -/
def kind : Element → String
  | .node tree => tree.kind
  | .entry _ => Entry.kind

/-- The id of an element in decimal. -/
def idText (element : Element) : String := String.ofList (writeInteger element.id)

end Element

/-- The text after each element. -/
abbrev Adorner := Element → String

namespace Adorner

/-- No adornment. -/
def plain : Adorner := fun _ => ""

/-- The kind of each element. -/
def kinds : Adorner := fun element => "^#" ++ element.kind ++ "#"

/-- The id and the kind of each element. -/
def kindsAndIds : Adorner := fun element => "^#" ++ element.idText ++ ":" ++ element.kind ++ "#"

/-- The id of each element after an at sign. -/
def ids : Adorner := fun element => "@" ++ element.idText

/-- The id and the kind of entries only, in angle brackets. -/
def entries : Adorner
  | .node _ => ""
  | .entry entry => "<" ++ (Element.entry entry).idText ++ ":" ++ Entry.kind ++ ">"

end Adorner

end CelTree.Render
