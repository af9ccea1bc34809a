/-
**Writing pieces.**

* `Writer`: the text so far, the margin, and whether a line has just begun.
* `Writer.put`: one piece. The margin is written before the first text of a line, even an empty
  one.
* `render`: a tree with its adornments.
-/

import CelTree.Render.Normalized
import CelTree.Render.Piece

namespace CelTree.Render

/-- The state of a rendering. -/
structure Writer where
  content : String := ""
  /-- The margin, two blanks for each step. -/
  indent : Nat := 0
  /-- Nothing stands on the line yet. -/
  lineStart : Bool := true

namespace Writer

/-- The blanks of a margin. -/
def margin (indent : Nat) : String := String.ofList (List.replicate (2 * indent) ' ')

/-- A text, after the margin if a line has just begun. -/
def append (writer : Writer) (text : String) : Writer :=
  if writer.lineStart then
    { writer with content := writer.content ++ margin writer.indent ++ text, lineStart := false }
  else { writer with content := writer.content ++ text }

/-- One piece. -/
def put (adorner : Adorner) (writer : Writer) : Piece → Writer
  | .text text => writer.append text
  | .newline => { writer with content := writer.content ++ "\n", lineStart := true }
  | .indent => { writer with indent := writer.indent + 1 }
  | .dedent => { writer with indent := writer.indent - 1 }
  | .adornment element => writer.append (adorner element)

/-- Pieces in order. -/
def putAll (adorner : Adorner) (writer : Writer) (pieces : List Piece) : Writer :=
  pieces.foldl (put adorner) writer

end Writer

/-- A tree as text, with the adornment of each element after it. -/
def render (adorner : Adorner) (tree : Expr) : String :=
  (Writer.putAll adorner {} tree.pieces).content

/-- A tree as text for comparison: kinds, but no ids and no blanks. -/
def renderNormalized (tree : Expr) : String :=
  String.ofList (normalize (render Adorner.kindsAndIds tree).toList)

end CelTree.Render
