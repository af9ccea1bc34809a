/-
**Adornments stand between fixed texts.**

The writer moves its margin and begins lines by the pieces alone, so an adorner has no say in the
layout: it only fills the places that the tree leaves for it.

* `placesOf`: the elements whose adornments are among some pieces, in order.
* `weave`: texts with an adornment behind each of them but the last.
* `exists_texts`: whatever pieces are written, they are written as such texts, the same for every
  adorner.
* `Expr.placesOf_pieces`: the places of a tree are its elements in post-order.
* **`render_eq_weave`** — a rendering is the texts of its tree with the adornments of its elements.
-/

import CelTree.Proofs.Expr.Elements
import CelTree.Proofs.Render.Layout

namespace CelTree

namespace Render

/-- The element whose adornment stands at a piece, if it is the place of one. -/
def Piece.element? : Piece → Option Element
  | .adornment element => some element
  | _ => none

/-- The elements whose adornments are among the pieces, in order. -/
def placesOf (pieces : List Piece) : List Element := pieces.filterMap Piece.element?

/-- Texts in order, with one adornment behind each of them but the last. -/
def weave : List String → List String → String
  | text :: texts, adornment :: adornments => text ++ adornment ++ weave texts adornments
  | texts, _ => String.join texts

/-! ### Pieces -/

section Places

@[simp] theorem placesOf_nil : placesOf [] = [] := rfl

@[simp] theorem placesOf_text (text : String) (rest : List Piece) :
    placesOf (.text text :: rest) = placesOf rest := rfl

@[simp] theorem placesOf_newline (rest : List Piece) :
    placesOf (.newline :: rest) = placesOf rest := rfl

@[simp] theorem placesOf_indent (rest : List Piece) :
    placesOf (.indent :: rest) = placesOf rest := rfl

@[simp] theorem placesOf_dedent (rest : List Piece) :
    placesOf (.dedent :: rest) = placesOf rest := rfl

@[simp] theorem placesOf_adornment (element : Element) (rest : List Piece) :
    placesOf (.adornment element :: rest) = element :: placesOf rest := rfl

@[simp] theorem placesOf_append (first second : List Piece) :
    placesOf (first ++ second) = placesOf first ++ placesOf second :=
  List.filterMap_append

@[simp] theorem placesOf_parenthesized (args : List Piece) :
    placesOf (parenthesized args) = placesOf args := by
  cases args with
  | nil => rfl
  | cons first rest =>
    show placesOf (first :: rest ++ [.dedent, .newline, .text ")"]) = _
    rw [placesOf_append]
    exact List.append_nil _

@[simp] theorem placesOf_bracketed (opening closing : String) (members : List Piece) :
    placesOf (bracketed opening closing members) = placesOf members := by
  cases members with
  | nil => rfl
  | cons first rest =>
    show placesOf (first :: rest ++ [.dedent, .newline, .text closing]) = _
    rw [placesOf_append]
    exact List.append_nil _

@[simp] theorem placesOf_optionalMark (optional : Bool) : placesOf (optionalMark optional) = [] := by
  cases optional <;> rfl

@[simp] theorem placesOf_testMark (testOnly : Bool) : placesOf (testMark testOnly) = [] := by
  cases testOnly <;> rfl

@[simp] theorem placesOf_separator : placesOf separator = [] := rfl

@[simp] theorem placesOf_label (name : String) : placesOf (label name) = [] := rfl

end Places

/-- A piece that is no adornment adds a text and moves the writer on, whoever adorns and whatever
stands there already. -/
theorem exists_put_eq {piece : Piece} (plain : piece.element? = none) (indent : Nat)
    (lineStart : Bool) :
    ∃ added indent' lineStart', ∀ (adorner : Adorner) (content : String),
      Writer.put adorner ⟨content, indent, lineStart⟩ piece =
        ⟨content ++ added, indent', lineStart'⟩ := by
  cases piece with
  | text text =>
    cases lineStart with
    | true =>
      refine ⟨Writer.margin indent ++ text, indent, false, fun adorner content => ?_⟩
      rw [← String.append_assoc]
      rfl
    | false => exact ⟨text, indent, false, fun adorner content => rfl⟩
  | newline => exact ⟨"\n", indent, true, fun adorner content => rfl⟩
  | indent =>
    refine ⟨"", indent + 1, lineStart, fun adorner content => ?_⟩
    rw [String.append_empty]
    rfl
  | dedent =>
    refine ⟨"", indent - 1, lineStart, fun adorner content => ?_⟩
    rw [String.append_empty]
    rfl
  | adornment element => cases plain

/-- Before an adornment stands the margin, if a line has just begun. -/
theorem exists_put_adornment_eq (element : Element) (indent : Nat) (lineStart : Bool) :
    ∃ added, ∀ (adorner : Adorner) (content : String),
      Writer.put adorner ⟨content, indent, lineStart⟩ (.adornment element) =
        ⟨content ++ (added ++ adorner element), indent, false⟩ := by
  cases lineStart with
  | true =>
    refine ⟨Writer.margin indent, fun adorner content => ?_⟩
    rw [← String.append_assoc]
    rfl
  | false =>
    refine ⟨"", fun adorner content => ?_⟩
    rw [String.empty_append]
    rfl

/-- What stands before the first text can be counted to it. -/
theorem weave_append (added first : String) (texts adornments : List String) :
    weave ((added ++ first) :: texts) adornments = added ++ weave (first :: texts) adornments := by
  cases adornments with
  | nil => simp only [weave, String.join_cons, String.append_assoc]
  | cons adornment adornments => simp only [weave, String.append_assoc]

/-- Without adornments, the texts are all there is. -/
theorem weave_plain (texts : List String) (elements : List Element) :
    weave texts (elements.map Adorner.plain) = String.join texts := by
  induction texts generalizing elements with
  | nil => cases elements <;> rfl
  | cons text texts ih =>
    cases elements with
    | nil => rfl
    | cons element elements =>
      rw [List.map_cons, weave, ih, Adorner.plain, String.append_empty, String.join_cons]

/-- **Pieces are written as texts that no adorner changes**, with the adornments between them. -/
theorem exists_texts (pieces : List Piece) (indent : Nat) (lineStart : Bool) :
    ∃ texts : List String, texts.length = (placesOf pieces).length + 1 ∧
      ∀ (adorner : Adorner) (content : String),
        (Writer.putAll adorner ⟨content, indent, lineStart⟩ pieces).content =
          content ++ weave texts ((placesOf pieces).map adorner) := by
  induction pieces generalizing indent lineStart with
  | nil =>
    refine ⟨[""], rfl, fun adorner content => ?_⟩
    exact (String.append_empty).symm
  | cons piece rest ih =>
    cases isPlace : piece.element? with
    | none =>
      obtain ⟨added, indent', lineStart', written⟩ := exists_put_eq isPlace indent lineStart
      obtain ⟨texts, count, others⟩ := ih indent' lineStart'
      obtain ⟨first, texts, rfl⟩ := List.exists_cons_of_length_eq_add_one count
      have same : placesOf (piece :: rest) = placesOf rest := List.filterMap_cons_none isPlace
      refine ⟨(added ++ first) :: texts, by rw [same]; exact count, fun adorner content => ?_⟩
      rw [same, weave_append, ← String.append_assoc, ← others adorner (content ++ added),
        ← written adorner content]
      rfl
    | some element =>
      obtain rfl : piece = .adornment element := by
        cases piece <;> cases isPlace
        rfl
      obtain ⟨added, written⟩ := exists_put_adornment_eq element indent lineStart
      obtain ⟨texts, count, others⟩ := ih indent false
      refine ⟨added :: texts, congrArg (· + 1) count, fun adorner content => ?_⟩
      rw [placesOf_adornment, List.map_cons, weave, ← String.append_assoc,
        ← others adorner (content ++ (added ++ adorner element)), ← written adorner content]
      rfl

end Render

open Render

/-! ### Trees -/

mutual

/-- The places for adornments in a tree are its elements. -/
theorem Expr.placesOf_pieces : (tree : Expr) → placesOf tree.pieces = tree.elements
  | .literal _ _ => rfl
  | .ident _ _ => rfl
  | .select _ operand field testOnly => by
    show placesOf (operand.pieces ++ [.text ".", .text field] ++ testMark testOnly ++ [_]) = _
    simp [Expr.elements, operand.placesOf_pieces]
  | .call _ function args => by
    show placesOf (.text function :: parenthesized (Expr.piecesAll args) ++ [_]) = _
    simp [Expr.elements, Expr.placesOf_piecesAll args]
  | .memberCall _ target function args => by
    show placesOf (target.pieces ++ [.text ".", .text function] ++
      parenthesized (Expr.piecesAll args) ++ [_]) = _
    simp [Expr.elements, target.placesOf_pieces, Expr.placesOf_piecesAll args]
  | .list _ elements => by
    show placesOf (bracketed "[" "]" (Expr.piecesAll elements) ++ [_]) = _
    simp [Expr.elements, Expr.placesOf_piecesAll elements]
  | .struct _ message entries => by
    show placesOf (.text message :: bracketed "\x7b" "\x7d" (Entry.piecesAll entries) ++ [_]) = _
    simp [Expr.elements, Entry.placesOf_piecesAll entries]
  | .comprehension _ _ _ range _ init condition step result => by
    rw [Expr.pieces_comprehension]
    simp [Expr.elements, range.placesOf_pieces, init.placesOf_pieces,
      condition.placesOf_pieces, step.placesOf_pieces, result.placesOf_pieces]

theorem Expr.placesOf_piecesAll :
    (trees : List Expr) → placesOf (Expr.piecesAll trees) = Expr.elementsAll trees
  | [] => rfl
  | [last] => last.placesOf_pieces.trans (List.append_nil _).symm
  | first :: second :: rest => by
    show placesOf (first.pieces ++ separator ++ Expr.piecesAll (second :: rest)) =
      first.elements ++ Expr.elementsAll (second :: rest)
    simp [first.placesOf_pieces, Expr.placesOf_piecesAll (second :: rest)]

/-- The places of an entry are its elements. -/
theorem Entry.placesOf_pieces : (entry : Entry) → placesOf entry.pieces = entry.elements
  | .map _ key value optional => by
    show placesOf (optionalMark optional ++ key.pieces ++ [.text ":"] ++ value.pieces ++ [_]) = _
    simp [Entry.elements, key.placesOf_pieces, value.placesOf_pieces]
  | .field _ name value optional => by
    show placesOf (optionalMark optional ++ [.text name, .text ":"] ++ value.pieces ++ [_]) = _
    simp [Entry.elements, value.placesOf_pieces]

theorem Entry.placesOf_piecesAll :
    (entries : List Entry) → placesOf (Entry.piecesAll entries) = Entry.elementsAll entries
  | [] => rfl
  | [last] => last.placesOf_pieces.trans (List.append_nil _).symm
  | first :: second :: rest => by
    show placesOf (first.pieces ++ separator ++ Entry.piecesAll (second :: rest)) =
      first.elements ++ Entry.elementsAll (second :: rest)
    simp [first.placesOf_pieces, Entry.placesOf_piecesAll (second :: rest)]

end

/-- **An adorner never changes the layout, and sees every element once.** A tree has texts that all
its renderings share. Each rendering is these texts with the adornments between them, one for each
element of the tree in post-order; the rendering without adornments is the texts alone. The elements
are the nodes of the tree and the entries of each, all of them once, and their ids are those of the
tree. -/
theorem render_eq_weave (tree : Expr) :
    (∃ texts : List String, texts.length = tree.elements.length + 1 ∧
      (∀ adorner, render adorner tree = weave texts (tree.elements.map adorner)) ∧
      render Adorner.plain tree = String.join texts) ∧
    tree.elements.Perm (tree.nodes.flatMap Expr.withEntries) ∧
    (tree.elements.map Element.id).Perm tree.ids := by
  refine ⟨?_, tree.elements_perm, tree.elements_ids_perm⟩
  obtain ⟨texts, count, written⟩ := exists_texts tree.pieces 0 true
  rw [tree.placesOf_pieces] at count written
  have woven : ∀ adorner, render adorner tree = weave texts (tree.elements.map adorner) := by
    intro adorner
    have content := written adorner ""
    rw [String.empty_append] at content
    exact content
  refine ⟨texts, count, woven, ?_⟩
  rw [woven]
  exact weave_plain texts tree.elements

end CelTree
