/-
**The margin returns.**

Writing a tree moves the margin in and out in pairs, an inner pair inside an outer one. So from
whatever margin the writer starts, it is never further out on the way, and it is back there at the
end. In particular a writer that starts at margin zero is never asked to move out from it.

* `Writer.putAll?`: writing, where a move out from margin zero is refused.
* `Balanced`: pieces whose moves pair up. `Expr.balanced`: those of a tree do.
* `Balanced.keeps`: balanced pieces are written from any margin, and none of them is written further
  out.
* **`Expr.writing_keeps_margin`** — writing a tree only adds to the text, stays inside the margin and
  returns to it.
-/

import CelTree.Proofs.Render.Layout

namespace CelTree

namespace Render

/-! ### Refusing to move out -/

namespace Writer

/-- One piece, where a move out from margin zero is refused. -/
def put? (adorner : Adorner) (writer : Writer) : Piece → Option Writer
  | .dedent => if writer.indent = 0 then none else some (writer.put adorner .dedent)
  | piece => some (writer.put adorner piece)

/-- Pieces in order, unless one of them is refused. -/
def putAll? (adorner : Adorner) (writer : Writer) (pieces : List Piece) : Option Writer :=
  pieces.foldlM (put? adorner) writer

variable {adorner : Adorner} {writer passed : Writer} {pieces : List Piece}

/-- A move out is written from inside only. -/
theorem put?_dedent_iff :
    writer.put? adorner .dedent = some passed ↔
      0 < writer.indent ∧ writer.put adorner .dedent = passed := by
  rw [put?, Option.ite_none_left_eq_some, Option.some.injEq, Nat.pos_iff_ne_zero]

/-- Where the refusing writer goes on, it does what the writer does. -/
theorem eq_put_of_put? {piece : Piece} (written : writer.put? adorner piece = some passed) :
    passed = writer.put adorner piece := by
  cases piece with
  | dedent => exact (put?_dedent_iff.mp written).2.symm
  | _ => exact (Option.some.inj written).symm

/-- What is not refused is what the pieces write. -/
theorem eq_putAll_of_putAll? (written : writer.putAll? adorner pieces = some passed) :
    passed = writer.putAll adorner pieces := by
  induction pieces generalizing writer with
  | nil => exact (Option.some.inj written).symm
  | cons piece others ih =>
    obtain ⟨next, here, behind⟩ := Option.bind_eq_some_iff.mp written
    rw [ih behind, eq_put_of_put? here]
    rfl

/-- Pieces are written one after the other, up to one that is refused. -/
theorem putAll?_append (first second : List Piece) :
    writer.putAll? adorner (first ++ second) =
      (writer.putAll? adorner first).bind fun middle => middle.putAll? adorner second :=
  List.foldlM_append

theorem putAll?_singleton (piece : Piece) :
    writer.putAll? adorner [piece] = writer.put? adorner piece :=
  bind_pure _

/-! ### The text grows -/

/-- A piece adds to the text and takes nothing back. -/
theorem exists_content_put (adorner : Adorner) (writer : Writer) (piece : Piece) :
    ∃ text, (writer.put adorner piece).content = writer.content ++ text := by
  have appended (text : String) : ∃ added, (writer.append text).content = writer.content ++ added := by
    unfold append
    split
    · exact ⟨margin writer.indent ++ text, String.append_assoc⟩
    · exact ⟨text, rfl⟩
  cases piece with
  | text text => exact appended text
  | newline => exact ⟨"\n", rfl⟩
  | indent => exact ⟨"", String.append_empty.symm⟩
  | dedent => exact ⟨"", String.append_empty.symm⟩
  | adornment element => exact appended (adorner element)

theorem exists_content_putAll (adorner : Adorner) (writer : Writer) (pieces : List Piece) :
    ∃ text, (writer.putAll adorner pieces).content = writer.content ++ text := by
  induction pieces generalizing writer with
  | nil => exact ⟨"", String.append_empty.symm⟩
  | cons piece others ih =>
    obtain ⟨here, added⟩ := exists_content_put adorner writer piece
    obtain ⟨behind, rest⟩ := ih (writer.put adorner piece)
    refine ⟨here ++ behind, ?_⟩
    show (putAll adorner (writer.put adorner piece) others).content = _
    rw [rest, added, String.append_assoc]

end Writer

/-! ### Moves in pairs -/

/-- The piece moves the margin. -/
def Piece.isMove : Piece → Bool
  | .indent | .dedent => true
  | _ => false

/-- Every move in is followed by a move out, and what stands between the two is balanced. -/
inductive Balanced : List Piece → Prop
  | nil : Balanced []
  | level {piece : Piece} (level : piece.isMove = false) : Balanced [piece]
  | nested {inner : List Piece} (balanced : Balanced inner) :
    Balanced (.indent :: inner ++ [.dedent])
  | append {first second : List Piece} (one : Balanced first) (two : Balanced second) :
    Balanced (first ++ second)

/-- From any margin the pieces are written without a refusal. Written in part they leave the margin
no further out, and written to the end they bring it back. -/
structure KeepsMargin (adorner : Adorner) (pieces : List Piece) : Prop where
  returns : ∀ writer : Writer, ∃ last, writer.putAll? adorner pieces = some last ∧
    last.indent = writer.indent
  stays : ∀ (writer : Writer) (before : List Piece), before <+: pieces →
    ∃ passed, writer.putAll? adorner before = some passed ∧ writer.indent ≤ passed.indent

namespace KeepsMargin

variable {adorner : Adorner} {first second inner : List Piece}

theorem nil : KeepsMargin adorner [] := by
  refine ⟨fun writer => ⟨writer, rfl, rfl⟩, fun writer before inside => ?_⟩
  obtain rfl := List.prefix_nil.mp inside
  exact ⟨writer, rfl, Nat.le_refl _⟩

theorem level {piece : Piece} (level : piece.isMove = false) : KeepsMargin adorner [piece] := by
  have written (writer : Writer) : ∃ last, writer.putAll? adorner [piece] = some last ∧
      last.indent = writer.indent := by
    cases piece with
    | text text => exact ⟨_, rfl, append_indent writer text⟩
    | newline => exact ⟨_, rfl, rfl⟩
    | adornment element => exact ⟨_, rfl, append_indent writer (adorner element)⟩
    | indent => cases level
    | dedent => cases level
  refine ⟨written, fun writer before inside => ?_⟩
  rcases List.prefix_cons_iff.mp inside with rfl | ⟨rest, rfl, empty⟩
  · exact ⟨writer, rfl, Nat.le_refl _⟩
  · obtain rfl := List.prefix_nil.mp empty
    obtain ⟨last, ran, same⟩ := written writer
    exact ⟨last, ran, Nat.le_of_eq same.symm⟩

/-- Inside a pair of moves the margin is one step further in. -/
theorem nested (keeps : KeepsMargin adorner inner) :
    KeepsMargin adorner (.indent :: inner ++ [.dedent]) := by
  have returns (writer : Writer) :
      ∃ last, writer.putAll? adorner (.indent :: inner ++ [.dedent]) = some last ∧
        last.indent = writer.indent := by
    obtain ⟨middle, ran, same⟩ := keeps.returns (writer.put adorner .indent)
    have further : middle.indent = writer.indent + 1 := same
    have opened : writer.putAll? adorner (.indent :: inner) = some middle := ran
    refine ⟨middle.put adorner .dedent, ?_, ?_⟩
    · rw [Writer.putAll?_append, opened, Option.bind_some, Writer.putAll?_singleton,
        Writer.put?_dedent_iff]
      exact ⟨by omega, rfl⟩
    · show middle.indent - 1 = writer.indent
      omega
  refine ⟨returns, fun writer before inside => ?_⟩
  rcases List.prefix_concat_iff.mp inside with rfl | within
  · obtain ⟨last, ran, same⟩ := returns writer
    exact ⟨last, ran, Nat.le_of_eq same.symm⟩
  rcases List.prefix_cons_iff.mp within with rfl | ⟨front, rfl, below⟩
  · exact ⟨writer, rfl, Nat.le_refl _⟩
  · -- behind the move in, and not yet at the move out
    obtain ⟨passed, ran, further⟩ := keeps.stays (writer.put adorner .indent) front below
    exact ⟨passed, ran, Nat.le_of_succ_le further⟩

theorem append (one : KeepsMargin adorner first) (two : KeepsMargin adorner second) :
    KeepsMargin adorner (first ++ second) := by
  refine ⟨fun writer => ?_, fun writer before inside => ?_⟩
  · obtain ⟨middle, ran, same⟩ := one.returns writer
    obtain ⟨last, ran', same'⟩ := two.returns middle
    exact ⟨last, by rw [Writer.putAll?_append, ran]; exact ran', same'.trans same⟩
  · rcases List.prefix_or_prefix_of_prefix inside (List.prefix_append first second) with
      within | ⟨front, rfl⟩
    · exact one.stays writer before within
    · -- the first pieces are behind, and the margin is back where it was
      obtain ⟨middle, ran, same⟩ := one.returns writer
      obtain ⟨passed, ran', further⟩ :=
        two.stays middle front ((List.prefix_append_right_inj first).mp inside)
      exact ⟨passed, by rw [Writer.putAll?_append, ran]; exact ran', same ▸ further⟩

end KeepsMargin

namespace Balanced

variable {pieces : List Piece}

/-- Balanced pieces are written from any margin, and none of them is written further out. -/
theorem keeps (adorner : Adorner) (balanced : Balanced pieces) : KeepsMargin adorner pieces := by
  induction balanced with
  | nil => exact .nil
  | level level => exact .level level
  | nested balanced ih => exact ih.nested
  | append one two ih ih' => exact ih.append ih'

theorem cons {piece : Piece} (level : piece.isMove = false) (rest : Balanced pieces) :
    Balanced (piece :: pieces) := (Balanced.level level).append rest

/-- Pieces of which none moves the margin. -/
theorem of_level (level : pieces.all (!·.isMove) = true) : Balanced pieces := by
  induction pieces with
  | nil => exact .nil
  | cons piece others ih =>
    rw [List.all_cons, Bool.and_eq_true, Bool.not_eq_true'] at level
    exact (ih level.2).cons level.1

/-- Lines further in, and what closes them on a line of its own. -/
theorem enclosed (inner : Balanced pieces) (closing : String) :
    Balanced (.indent :: pieces ++ [.dedent, .newline, .text closing]) := by
  have behind : Balanced [.newline, .text closing] := of_level rfl
  have lines := inner.nested.append behind
  rwa [List.append_assoc] at lines

/-- Parentheses move in and out around their arguments. -/
theorem parenthesized (args : Balanced pieces) : Balanced (parenthesized pieces) := by
  cases pieces with
  | nil => exact of_level rfl
  | cons piece others =>
    have lines : Balanced (.newline :: piece :: others) := args.cons rfl
    exact (lines.enclosed ")").cons rfl

theorem bracketed (members : Balanced pieces) (opening closing : String) :
    Balanced (bracketed opening closing pieces) := by
  cases pieces with
  | nil => exact of_level rfl
  | cons piece others =>
    have lines : Balanced (.newline :: (.indent :: (piece :: others) ++ _)) :=
      (members.enclosed closing).cons rfl
    exact lines.cons rfl

theorem optionalMark (optional : Bool) : Balanced (optionalMark optional) := by
  cases optional <;> exact of_level rfl

theorem testMark (testOnly : Bool) : Balanced (testMark testOnly) := by
  cases testOnly <;> exact of_level rfl

theorem separator : Balanced separator := of_level rfl

theorem label (name : String) : Balanced (label name) := of_level rfl

end Balanced

end Render

open Render

/-! ### Trees -/

mutual

/-- The moves of the margin in the pieces of a tree pair up. -/
theorem Expr.balanced : ∀ tree : Expr, Balanced tree.pieces
  | .literal _ _ => .of_level rfl
  | .ident _ _ => .of_level rfl
  | .select _ operand _ testOnly =>
    ((operand.balanced.append (.of_level rfl)).append (.testMark testOnly)).append (.level rfl)
  | .call _ _ args =>
    ((Expr.balancedAll args).parenthesized.cons rfl).append (.level rfl)
  | .memberCall _ target _ args =>
    ((target.balanced.append (.of_level rfl)).append
      (Expr.balancedAll args).parenthesized).append (.level rfl)
  | .list _ elements => ((Expr.balancedAll elements).bracketed _ _).append (.level rfl)
  | .struct _ _ entries =>
    (((Entry.balancedAll entries).bracketed _ _).cons rfl).append (.level rfl)
  | .comprehension id iterVar iterVar2 range accuVar init condition step result => by
    have labelled {pieces part : List Piece} (before : Balanced pieces) (name : String)
        (below : Balanced part) : Balanced (pieces ++ separator ++ label name ++ part) :=
      ((before.append .separator).append (.label name)).append below
    have text (text : String) : Balanced [.text text] := .level rfl
    -- all parts stand between one move in and one move out
    have lines := (Balanced.label "Variable").append (text iterVar)
    have lines := labelled lines "Target" range.balanced
    have lines := labelled lines "Accumulator" (text accuVar)
    have lines := labelled lines "Init" init.balanced
    have lines := labelled lines "LoopCondition" condition.balanced
    have lines := labelled lines "LoopStep" step.balanced
    have lines := labelled lines "Result" result.balanced
    have start : Balanced [.newline] := .level rfl
    have inner := start.append (lines.append (text ")"))
    have adorned (element : Element) : Balanced [.adornment element] := .level rfl
    have whole := ((text "__comprehension__(").append inner.nested).append (adorned (.node
      (.comprehension id iterVar iterVar2 range accuVar init condition step result)))
    rw [Expr.pieces_comprehension]
    simp only [List.append_assoc, List.cons_append, List.nil_append] at whole ⊢
    exact whole

/-- The pieces of several trees are balanced. -/
theorem Expr.balancedAll : ∀ trees : List Expr, Balanced (Expr.piecesAll trees)
  | [] => .nil
  | [last] => last.balanced
  | first :: second :: rest =>
    (first.balanced.append .separator).append (Expr.balancedAll (second :: rest))

/-- The pieces of an entry are balanced. -/
theorem Entry.balanced : ∀ entry : Entry, Balanced entry.pieces
  | .map _ key value optional =>
    ((((Balanced.optionalMark optional).append key.balanced).append (.level rfl)).append
      value.balanced).append (.level rfl)
  | .field _ _ value optional =>
    (((Balanced.optionalMark optional).append (.of_level rfl)).append value.balanced).append
      (.level rfl)

theorem Entry.balancedAll : ∀ entries : List Entry, Balanced (Entry.piecesAll entries)
  | [] => .nil
  | [last] => last.balanced
  | first :: second :: rest =>
    (first.balanced.append .separator).append (Entry.balancedAll (second :: rest))

end

section Writing

variable (adorner : Adorner) (tree : Expr) (writer : Writer)

/-- A tree is written from any margin. The writer then stands at the margin where it started, behind
something on its line. -/
theorem Expr.exists_putAll? :
    ∃ last, writer.putAll? adorner tree.pieces = some last ∧ last.indent = writer.indent ∧
      last.lineStart = false := by
  obtain ⟨last, ran, same⟩ := (tree.balanced.keeps adorner).returns writer
  refine ⟨last, ran, same, ?_⟩
  rw [Writer.eq_putAll_of_putAll? ran, Expr.lays adorner writer.indent tree writer rfl,
    append_lineStart]

/-- A move out starts further in than the tree does. -/
theorem Expr.lt_indent_of_dedent {before : List Piece}
    (inside : before ++ [.dedent] <+: tree.pieces) :
    writer.indent < (writer.putAll adorner before).indent := by
  obtain ⟨after, ran, stays⟩ := (tree.balanced.keeps adorner).stays writer _ inside
  rw [Writer.putAll?_append, Option.bind_eq_some_iff] at ran
  obtain ⟨passed, ran, moved⟩ := ran
  rw [Writer.putAll?_singleton, Writer.put?_dedent_iff] at moved
  obtain ⟨positive, rfl⟩ := moved
  rw [← Writer.eq_putAll_of_putAll? ran]
  have out : (passed.put adorner .dedent).indent = passed.indent - 1 := rfl
  omega

/-- **Writing a tree keeps the margin.** Whatever the writer has written, whatever its margin is and
whether it stands at the start of a line: it only adds to the text, it ends at the margin where it
started and behind something on its line, and on the way it is never further out. So every move out
starts further in, none is ever refused, and the rendering of a tree, which starts at margin zero,
is written without a refusal. -/
theorem Expr.writing_keeps_margin :
    (∃ last text, writer.putAll? adorner tree.pieces = some last ∧
      last.content = writer.content ++ text ∧ last.indent = writer.indent ∧
      last.lineStart = false ∧
      ∀ before, before <+: tree.pieces → ∃ passed text rest,
        writer.putAll? adorner before = some passed ∧ writer.indent ≤ passed.indent ∧
        passed.content = writer.content ++ text ∧ last.content = passed.content ++ rest) ∧
    (∀ before, before ++ [.dedent] <+: tree.pieces →
      writer.indent < (writer.putAll adorner before).indent) ∧
    (Writer.putAll? adorner {} tree.pieces).map Writer.content = some (render adorner tree) := by
  obtain ⟨last, ran, same, behind⟩ := tree.exists_putAll? adorner writer
  have ended := Writer.eq_putAll_of_putAll? ran
  obtain ⟨text, added⟩ := Writer.exists_content_putAll adorner writer tree.pieces
  refine ⟨⟨last, text, ran, ended ▸ added, same, behind, ?_⟩,
    fun before inside => tree.lt_indent_of_dedent adorner writer inside, ?_⟩
  · rintro before ⟨after, split⟩
    obtain ⟨passed, ran', further⟩ :=
      (tree.balanced.keeps adorner).stays writer before ⟨after, split⟩
    have reached := Writer.eq_putAll_of_putAll? ran'
    obtain ⟨text', added'⟩ := Writer.exists_content_putAll adorner writer before
    obtain ⟨rest, added''⟩ := Writer.exists_content_putAll adorner passed after
    refine ⟨passed, text', rest, ran', further, reached ▸ added', ?_⟩
    rw [← added'', ended, ← split, Writer.putAll, List.foldl_append, reached]
    rfl
  · obtain ⟨first, ran', -⟩ := tree.exists_putAll? adorner {}
    rw [ran', Writer.eq_putAll_of_putAll? ran']
    rfl

end Writing

end CelTree
