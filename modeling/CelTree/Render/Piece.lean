/-
**The pieces of a rendering.**

A tree is laid out as a sequence of pieces that does not depend on the adorner: texts, line ends,
changes of the margin, and the places of adornments.

* `Expr.pieces`, `Entry.pieces`: the layout. Arguments, elements and entries stand one on a line,
  and a fold lists its parts under labels. The adornment of an element follows its last piece.
-/

import CelTree.Render.Adorner
import CelTree.Render.Literal

namespace CelTree

namespace Render

/-- A piece of a rendering. -/
inductive Piece
  | text (text : String)
  | newline
  | indent
  | dedent
  | adornment (element : Element)

/-- What stands between two members on lines of their own. -/
def separator : List Piece := [.text ",", .newline]

/-- A label above a part of a fold. -/
def label (name : String) : List Piece := [.text ("// " ++ name), .newline]

/-- Arguments in parentheses; the margin moves before the first line end. -/
def parenthesized (args : List Piece) : List Piece :=
  match args with
  | [] => [.text "(", .text ")"]
  | args => .text "(" :: .indent :: .newline :: args ++ [.dedent, .newline, .text ")"]

/-- Members in brackets; the margin moves after the first line end. -/
def bracketed (opening closing : String) (members : List Piece) : List Piece :=
  match members with
  | [] => [.text opening, .text closing]
  | members =>
    .text opening :: .newline :: .indent :: members ++ [.dedent, .newline, .text closing]

/-- The mark of an optional entry. -/
def optionalMark (optional : Bool) : List Piece := if optional then [.text "?"] else []

/-- The mark of a select that only tests its field. -/
def testMark (testOnly : Bool) : List Piece := if testOnly then [.text "~test-only~"] else []

end Render

open Render

mutual

/-- The pieces of a tree. -/
def Expr.pieces : Expr → List Piece
  | .literal id value =>
    [.text (String.ofList (literalText value)), .adornment (.node (.literal id value))]
  | .ident id name => [.text name, .adornment (.node (.ident id name))]
  | .select id operand field testOnly =>
    operand.pieces ++ [.text ".", .text field] ++ testMark testOnly ++
      [.adornment (.node (.select id operand field testOnly))]
  | .call id function args =>
    .text function :: parenthesized (Expr.piecesAll args) ++
      [.adornment (.node (.call id function args))]
  | .memberCall id target function args =>
    target.pieces ++ [.text ".", .text function] ++ parenthesized (Expr.piecesAll args) ++
      [.adornment (.node (.memberCall id target function args))]
  | .list id elements =>
    bracketed "[" "]" (Expr.piecesAll elements) ++ [.adornment (.node (.list id elements))]
  | .struct id message entries =>
    .text message :: bracketed "\x7b" "\x7d" (Entry.piecesAll entries) ++
      [.adornment (.node (.struct id message entries))]
  | .comprehension id iterVar iterVar2 range accuVar init condition step result =>
    [.text "__comprehension__(", .indent, .newline] ++
      label "Variable" ++ [.text iterVar] ++ separator ++
      label "Target" ++ range.pieces ++ separator ++
      label "Accumulator" ++ [.text accuVar] ++ separator ++
      label "Init" ++ init.pieces ++ separator ++
      label "LoopCondition" ++ condition.pieces ++ separator ++
      label "LoopStep" ++ step.pieces ++ separator ++
      label "Result" ++ result.pieces ++ [.text ")", .dedent] ++
      [.adornment (.node (.comprehension id iterVar iterVar2 range accuVar init condition step
        result))]

/-- The pieces of several trees with separators between them. -/
def Expr.piecesAll : List Expr → List Piece
  | [] => []
  | [last] => last.pieces
  | first :: second :: rest => first.pieces ++ separator ++ Expr.piecesAll (second :: rest)

/-- The pieces of an entry. -/
def Entry.pieces : Entry → List Piece
  | .map id key value optional =>
    optionalMark optional ++ key.pieces ++ [.text ":"] ++ value.pieces ++
      [.adornment (.entry (.map id key value optional))]
  | .field id name value optional =>
    optionalMark optional ++ [.text name, .text ":"] ++ value.pieces ++
      [.adornment (.entry (.field id name value optional))]

/-- The pieces of several entries with separators between them. -/
def Entry.piecesAll : List Entry → List Piece
  | [] => []
  | [last] => last.pieces
  | first :: second :: rest => first.pieces ++ separator ++ Entry.piecesAll (second :: rest)

end

end CelTree
