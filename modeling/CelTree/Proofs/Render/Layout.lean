/-
**A rendering is a compositional layout.**

The writer's margin and its mark of a fresh line are determined by the tree: the text of a subtree
depends on its margin only, and starts behind it.

* `lineBreak`, `block`, `heading`: lines at a margin, members on lines of their own, labels of a fold.
* `Expr.layout`, `Entry.layout`: the text of a tree at a margin, its adornment at the end.
* `Lays`: pieces that write a text whatever the writer, and leave its margin as it was; one rule for
  each way pieces are put together.
* **`Expr.lays`** — the pieces of a tree write its layout. `render_eq_layout`: so a rendering is the
  layout at margin zero.
-/

import CelTree.Render.Writer

namespace CelTree

namespace Render

/-! ### Lines -/

/-- The end of a line and the margin of the next one. -/
def lineBreak (indent : Nat) : List Char := '\n' :: List.replicate (2 * indent) ' '

/-- Members on lines of their own, with commas between them. -/
def members (indent : Nat) : List (List Char) → List Char
  | [] => []
  | first :: rest => first ++ rest.flatMap fun member => [','] ++ lineBreak indent ++ member

/-- A comma and a line break stand between two members. -/
theorem members_cons_cons (indent : Nat) (first second : List Char) (rest : List (List Char)) :
    members indent (first :: second :: rest) =
      first ++ ([','] ++ lineBreak indent ++ members indent (second :: rest)) := by
  simp only [members, List.flatMap_cons, List.append_assoc]

/-- Members between brackets, on lines at a margin further in. -/
def block (opening closing : List Char) (indent : Nat) : List (List Char) → List Char
  | [] => opening ++ closing
  | texts =>
    opening ++ lineBreak (indent + 1) ++ members (indent + 1) texts ++ lineBreak indent ++ closing

/-- A label on a line of its own, behind what ends the line before. -/
def heading (before name : String) (indent : Nat) : List Char :=
  before.toList ++ lineBreak indent ++ ("// " ++ name).toList ++ lineBreak indent

/-- The mark of an optional entry as text. -/
def optionalText (optional : Bool) : List Char := if optional then ['?'] else []

/-- The mark of a select that only tests its field, as text. -/
def testText (testOnly : Bool) : List Char := if testOnly then "~test-only~".toList else []

/-- The adornment of an element as text. -/
def adornmentText (adorner : Adorner) (element : Element) : List Char := (adorner element).toList

/-- The characters of which the tags of kinds are made. -/
def isTagCharacter (c : Char) : Bool := c.isAlphanum || c == '*' || c == '.' || c == '_'

/-- The names of kinds have tag characters only. -/
theorem not_mem_kind {c : Char} (other : isTagCharacter c = false) (element : Element) :
    c ∉ element.kind.toList := by
  have letters : element.kind.toList.all isTagCharacter = true := by
    cases element with
    | node tree =>
      cases tree with
      | literal id value =>
        cases value <;> simp [Element.kind, Expr.kind, Constant.kind, isTagCharacter]
      | _ => simp [Element.kind, Expr.kind, isTagCharacter]
    | entry member => simp [Element.kind, Entry.kind, isTagCharacter]
  intro member
  rw [List.all_eq_true.mp letters c member] at other
  cases other

/-- The adornment of kinds and ids: a caret, and between number signs the id and the kind. -/
theorem adornmentText_kindsAndIds (element : Element) :
    adornmentText Adorner.kindsAndIds element =
      '^' :: '#' :: (Text.writeInteger element.id ++ ':' :: (element.kind.toList ++ ['#'])) := by
  simp [adornmentText, Adorner.kindsAndIds, Element.idText]

end Render

open Render

/-! ### Trees -/

section Layout

variable (adorner : Adorner)

mutual

/-- The text of a tree at a margin, without its own adornment. -/
def Expr.body (indent : Nat) : Expr → List Char
  | .literal _ value => literalText value
  | .ident _ name => name.toList
  | .select _ operand field testOnly =>
    operand.body indent ++ adornmentText adorner (.node operand) ++ ['.'] ++ field.toList ++
      testText testOnly
  | .call _ function args =>
    function.toList ++ block ['('] [')'] indent (Expr.layoutAll (indent + 1) args)
  | .memberCall _ target function args =>
    target.body indent ++ adornmentText adorner (.node target) ++ ['.'] ++ function.toList ++
      block ['('] [')'] indent (Expr.layoutAll (indent + 1) args)
  | .list _ elements => block ['['] [']'] indent (Expr.layoutAll (indent + 1) elements)
  | .struct _ message entries =>
    message.toList ++
      block ['\x7b'] ['\x7d'] indent (Entry.layoutAll (indent + 1) entries)
  | .comprehension _ iterVar _ range accuVar init condition step result =>
    heading "__comprehension__(" "Variable" (indent + 1) ++ iterVar.toList ++
      heading "," "Target" (indent + 1) ++
        (range.body (indent + 1) ++ adornmentText adorner (.node range)) ++
      heading "," "Accumulator" (indent + 1) ++ accuVar.toList ++
      heading "," "Init" (indent + 1) ++
        (init.body (indent + 1) ++ adornmentText adorner (.node init)) ++
      heading "," "LoopCondition" (indent + 1) ++
        (condition.body (indent + 1) ++ adornmentText adorner (.node condition)) ++
      heading "," "LoopStep" (indent + 1) ++
        (step.body (indent + 1) ++ adornmentText adorner (.node step)) ++
      heading "," "Result" (indent + 1) ++
        (result.body (indent + 1) ++ adornmentText adorner (.node result)) ++ [')']

/-- The texts of several trees at a margin. -/
def Expr.layoutAll (indent : Nat) : List Expr → List (List Char)
  | [] => []
  | first :: rest =>
    (first.body indent ++ adornmentText adorner (.node first)) :: Expr.layoutAll indent rest

/-- The text of an entry at a margin, without its own adornment. -/
def Entry.body (indent : Nat) : Entry → List Char
  | .map _ key value optional =>
    optionalText optional ++ (key.body indent ++ adornmentText adorner (.node key)) ++ [':'] ++
      (value.body indent ++ adornmentText adorner (.node value))
  | .field _ name value optional =>
    optionalText optional ++ name.toList ++ [':'] ++
      (value.body indent ++ adornmentText adorner (.node value))

/-- The texts of several entries at a margin. -/
def Entry.layoutAll (indent : Nat) : List Entry → List (List Char)
  | [] => []
  | first :: rest =>
    (first.body indent ++ adornmentText adorner (.entry first)) :: Entry.layoutAll indent rest

end

/-- The text of a tree at a margin. -/
def Expr.layout (indent : Nat) (tree : Expr) : List Char :=
  tree.body adorner indent ++ adornmentText adorner (.node tree)

/-- The text of an entry at a margin. -/
def Entry.layout (indent : Nat) (entry : Entry) : List Char :=
  entry.body adorner indent ++ adornmentText adorner (.entry entry)

theorem Expr.layoutAll_eq_map (indent : Nat) (trees : List Expr) :
    Expr.layoutAll adorner indent trees = trees.map (Expr.layout adorner indent) := by
  induction trees with
  | nil => rfl
  | cons first rest ih => rw [Expr.layoutAll, ih, List.map_cons, Expr.layout]

theorem Entry.layoutAll_eq_map (indent : Nat) (entries : List Entry) :
    Entry.layoutAll adorner indent entries = entries.map (Entry.layout adorner indent) := by
  induction entries with
  | nil => rfl
  | cons first rest ih => rw [Entry.layoutAll, ih, List.map_cons, Entry.layout]

end Layout

/-! ### Pieces -/

namespace Render

/-- Pieces that write a text behind what stands there already, and leave the margin as it was. -/
def Lays (adorner : Adorner) (indent : Nat) (pieces : List Piece) (text : List Char) : Prop :=
  ∀ writer : Writer, writer.indent = indent →
    Writer.putAll adorner writer pieces = writer.append (String.ofList text)

section Writer

@[simp] theorem append_indent (writer : Writer) (text : String) :
    (writer.append text).indent = writer.indent := by
  unfold Writer.append
  split <;> rfl

@[simp] theorem append_lineStart (writer : Writer) (text : String) :
    (writer.append text).lineStart = false := by
  unfold Writer.append
  split
  · rfl
  · rename_i within
    exact (Bool.not_eq_true _).mp within

/-- The margin is written before the first text of a line. -/
@[simp] theorem append_content (writer : Writer) (text : String) :
    (writer.append text).content.toList = writer.content.toList ++
      ((if writer.lineStart then List.replicate (2 * writer.indent) ' ' else []) ++
        text.toList) := by
  unfold Writer.append Writer.margin
  split <;> simp [String.toList_append]

theorem writer_ext {writer writer' : Writer}
    (content : writer.content.toList = writer'.content.toList)
    (indent : writer.indent = writer'.indent) (lineStart : writer.lineStart = writer'.lineStart) :
    writer = writer' := by
  obtain ⟨text, margin, start⟩ := writer
  obtain ⟨text', margin', start'⟩ := writer'
  obtain rfl : text = text' := String.toList_injective content
  obtain rfl : margin = margin' := indent
  obtain rfl : start = start' := lineStart
  rfl

theorem append_append (writer : Writer) (first second : List Char) :
    (writer.append (String.ofList first)).append (String.ofList second) =
      writer.append (String.ofList (first ++ second)) := by
  apply writer_ext <;> simp

end Writer

section Lays

variable {adorner : Adorner} {indent : Nat} {pieces pieces' : List Piece} {lay lay' : List Char}

theorem Lays.text (piece : String) : Lays adorner indent [.text piece] piece.toList := by
  intro writer _
  show writer.append piece = _
  rw [String.ofList_toList]

theorem Lays.adornment (element : Element) :
    Lays adorner indent [.adornment element] (adornmentText adorner element) := by
  intro writer _
  show writer.append (adorner element) = _
  rw [adornmentText, String.ofList_toList]

/-- Pieces one after the other write their layouts one after the other. -/
theorem Lays.append (first : Lays adorner indent pieces lay)
    (second : Lays adorner indent pieces' lay') :
    Lays adorner indent (pieces ++ pieces') (lay ++ lay') := by
  intro writer margin
  have rest := second (writer.append (String.ofList lay)) ((append_indent _ _).trans margin)
  rw [append_append] at rest
  rw [← rest, ← first writer margin]
  exact List.foldl_append

/-- A line end between two texts. -/
theorem Lays.newline (first : Lays adorner indent pieces lay)
    (second : Lays adorner indent pieces' lay') :
    Lays adorner indent (pieces ++ [.newline] ++ pieces') (lay ++ lineBreak indent ++ lay') := by
  intro writer margin
  have start := first writer margin
  have rest := second (Writer.put adorner (writer.append (String.ofList lay)) .newline)
    ((append_indent _ _).trans margin)
  unfold Writer.putAll at start rest ⊢
  rw [List.foldl_append, List.foldl_append, start]
  refine Eq.trans rest ?_
  apply writer_ext <;> simp [Writer.put, lineBreak, margin]

/-- Lines at a margin further in, behind a text; the margin stays there. -/
theorem Lays.opened (inner : Lays adorner (indent + 1) pieces lay) (opening : String)
    {writer : Writer} (margin : writer.indent = indent) :
    Writer.putAll adorner writer (.text opening :: .indent :: .newline :: pieces) =
      { writer.append (String.ofList (opening.toList ++ lineBreak (indent + 1) ++ lay)) with
        indent := indent + 1 } := by
  have lines := inner (Writer.put adorner (Writer.put adorner (writer.append opening) .indent)
    .newline) (congrArg (· + 1) ((append_indent _ _).trans margin))
  refine Eq.trans lines ?_
  apply writer_ext <;> simp [Writer.put, lineBreak, margin]

/-- Lines at a margin further in, between two texts. -/
theorem Lays.between (inner : Lays adorner (indent + 1) pieces lay) (opening closing : String) :
    Lays adorner indent
      (.text opening :: .indent :: .newline :: pieces ++ [.dedent, .newline, .text closing])
      (opening.toList ++ lineBreak (indent + 1) ++ lay ++ lineBreak indent ++ closing.toList) := by
  intro writer margin
  have opened := inner.opened opening margin
  unfold Writer.putAll at opened ⊢
  rw [List.foldl_append, opened]
  apply writer_ext <;> simp [Writer.put, lineBreak, margin]

/-- Labelled lines at a margin further in, where the last one closes what was opened. -/
theorem Lays.closed (inner : Lays adorner (indent + 1) pieces lay) (opening name closing : String) :
    Lays adorner indent
      ([.text opening, .indent, .newline] ++ label name ++ pieces ++ [.text closing, .dedent])
      (heading opening name (indent + 1) ++ lay ++ closing.toList) := by
  intro writer margin
  have opened := ((Lays.text ("// " ++ name)).newline inner).opened opening margin
  have start : Writer.putAll adorner writer
      ([.text opening, .indent, .newline] ++ label name ++ pieces) = _ := opened
  unfold Writer.putAll at start ⊢
  rw [List.foldl_append, start]
  apply writer_ext <;> simp [Writer.put, heading, lineBreak, margin]

/-- Members one on a line, the second behind the first. -/
theorem Lays.separated (first : Lays adorner indent pieces lay)
    (second : Lays adorner indent pieces' lay') :
    Lays adorner indent (pieces ++ separator ++ pieces')
      (lay ++ ([','] ++ lineBreak indent ++ lay')) := by
  have lines := (first.append (.text ",")).newline second
  unfold separator
  simp only [List.append_assoc, List.cons_append, List.nil_append] at lines ⊢
  exact lines

/-- A label and the part below it, behind the part before. -/
theorem Lays.labelled (first : Lays adorner indent pieces lay)
    (second : Lays adorner indent pieces' lay') (name : String) :
    Lays adorner indent (pieces ++ separator ++ label name ++ pieces')
      (lay ++ heading "," name indent ++ lay') := by
  have lines := (first.append (.text ",")).newline ((Lays.text ("// " ++ name)).newline second)
  unfold heading separator label
  simp only [List.append_assoc, List.cons_append, List.nil_append] at lines ⊢
  exact lines

/-- Pieces that write members on lines of their own; without members there are no pieces. -/
structure LaysMembers (adorner : Adorner) (indent : Nat) (pieces : List Piece)
    (texts : List (List Char)) : Prop where
  empty : texts = [] → pieces = []
  lines : texts ≠ [] → pieces ≠ [] ∧ Lays adorner indent pieces (members indent texts)

theorem LaysMembers.none : LaysMembers adorner indent [] [] :=
  ⟨fun _ => rfl, fun some => absurd rfl some⟩

theorem LaysMembers.last (nonempty : pieces ≠ []) (last : Lays adorner indent pieces lay) :
    LaysMembers adorner indent pieces [lay] := by
  refine ⟨fun none => absurd none (List.cons_ne_nil _ _), fun _ => ⟨nonempty, ?_⟩⟩
  show Lays adorner indent pieces (lay ++ [])
  rw [List.append_nil]
  exact last

/-- One more member goes before the others, with a separator between. -/
theorem LaysMembers.cons {text : List Char} {texts : List (List Char)} (nonempty : pieces ≠ [])
    (first : Lays adorner indent pieces lay)
    (rest : LaysMembers adorner indent pieces' (text :: texts)) :
    LaysMembers adorner indent (pieces ++ separator ++ pieces') (lay :: text :: texts) := by
  obtain ⟨-, others⟩ := rest.lines (List.cons_ne_nil text texts)
  refine ⟨fun none => absurd none (List.cons_ne_nil _ _), fun _ => ⟨by simp [nonempty], ?_⟩⟩
  rw [members_cons_cons]
  exact first.separated others

/-- Members in parentheses. -/
theorem LaysMembers.parenthesized {texts : List (List Char)}
    (inner : LaysMembers adorner (indent + 1) pieces texts) :
    Lays adorner indent (parenthesized pieces) (block ['('] [')'] indent texts) := by
  cases texts with
  | nil =>
    rw [inner.empty rfl]
    exact (Lays.text "(").append (.text ")")
  | cons text texts =>
    obtain ⟨nonempty, lines⟩ := inner.lines (List.cons_ne_nil text texts)
    obtain ⟨piece, others, rfl⟩ := List.exists_cons_of_ne_nil nonempty
    exact lines.between "(" ")"

/-- Members in brackets: the margin moves behind the line end, to the same effect. -/
theorem LaysMembers.bracketed {texts : List (List Char)}
    (inner : LaysMembers adorner (indent + 1) pieces texts) (opening closing : String) :
    Lays adorner indent (bracketed opening closing pieces)
      (block opening.toList closing.toList indent texts) := by
  cases texts with
  | nil =>
    rw [inner.empty rfl]
    exact (Lays.text opening).append (.text closing)
  | cons text texts =>
    obtain ⟨nonempty, lines⟩ := inner.lines (List.cons_ne_nil text texts)
    obtain ⟨piece, others, rfl⟩ := List.exists_cons_of_ne_nil nonempty
    exact lines.between opening closing

/-- The mark of an optional entry goes before the entry. -/
theorem Lays.optionalMark (rest : Lays adorner indent pieces lay) (optional : Bool) :
    Lays adorner indent (optionalMark optional ++ pieces) (optionalText optional ++ lay) := by
  cases optional with
  | false => exact rest
  | true => exact (Lays.text "?").append rest

/-- The mark of a field test goes behind the field. -/
theorem Lays.testMark (before : Lays adorner indent pieces lay) (testOnly : Bool) :
    Lays adorner indent (pieces ++ testMark testOnly) (lay ++ testText testOnly) := by
  cases testOnly with
  | false =>
    show Lays adorner indent (pieces ++ []) (lay ++ [])
    rw [List.append_nil, List.append_nil]
    exact before
  | true => exact before.append (.text "~test-only~")

end Lays

end Render

/-! ### Trees are laid out -/

section Trees

variable (adorner : Adorner)

/-- The pieces of a fold: a label for each part, and a separator between two of them. -/
theorem Expr.pieces_comprehension (id : Int) (iterVar iterVar2 : String) (range : Expr)
    (accuVar : String) (init condition step result : Expr) :
    (Expr.comprehension id iterVar iterVar2 range accuVar init condition step result).pieces =
      [.text "__comprehension__(", .indent, .newline] ++
        label "Variable" ++ [.text iterVar] ++ separator ++
        label "Target" ++ range.pieces ++ separator ++
        label "Accumulator" ++ [.text accuVar] ++ separator ++
        label "Init" ++ init.pieces ++ separator ++
        label "LoopCondition" ++ condition.pieces ++ separator ++
        label "LoopStep" ++ step.pieces ++ separator ++
        label "Result" ++ result.pieces ++ [.text ")", .dedent] ++
        [.adornment (.node (.comprehension id iterVar iterVar2 range accuVar init condition step
          result))] := rfl

/-- The layout of a fold: a heading for each part, one level further in. -/
theorem Expr.body_comprehension (indent : Nat) (id : Int) (iterVar iterVar2 : String)
    (range : Expr) (accuVar : String) (init condition step result : Expr) :
    (Expr.comprehension id iterVar iterVar2 range accuVar init condition step result).body
        adorner indent =
      heading "__comprehension__(" "Variable" (indent + 1) ++ iterVar.toList ++
        heading "," "Target" (indent + 1) ++ range.layout adorner (indent + 1) ++
        heading "," "Accumulator" (indent + 1) ++ accuVar.toList ++
        heading "," "Init" (indent + 1) ++ init.layout adorner (indent + 1) ++
        heading "," "LoopCondition" (indent + 1) ++ condition.layout adorner (indent + 1) ++
        heading "," "LoopStep" (indent + 1) ++ step.layout adorner (indent + 1) ++
        heading "," "Result" (indent + 1) ++ result.layout adorner (indent + 1) ++ [')'] := rfl

theorem Expr.pieces_ne_nil (tree : Expr) : tree.pieces ≠ [] := by
  have behind (pieces : List Piece) (element : Element) : pieces ++ [.adornment element] ≠ [] :=
    List.append_ne_nil_of_right_ne_nil pieces (List.cons_ne_nil _ _)
  cases tree with
  | literal => exact behind [_] _
  | ident => exact behind [_] _
  | select => exact behind _ _
  | call => exact behind (_ :: _) _
  | memberCall => exact behind _ _
  | list => exact behind _ _
  | struct => exact behind (_ :: _) _
  | comprehension => exact behind _ _

theorem Entry.pieces_ne_nil (entry : Entry) : entry.pieces ≠ [] := by
  cases entry <;> exact List.append_ne_nil_of_right_ne_nil _ (List.cons_ne_nil _ _)

mutual

/-- **The pieces of a tree write its layout.** -/
theorem Expr.lays (indent : Nat) :
    ∀ tree : Expr, Lays adorner indent tree.pieces (tree.layout adorner indent)
  | .literal id value => by
    have text : Lays adorner indent [.text (String.ofList (literalText value))] _ := .text _
    rw [String.toList_ofList] at text
    exact text.append (.adornment _)
  | .ident id name => (Lays.text name).append (.adornment _)
  | .select id operand field testOnly => by
    have operandLay := Expr.lays indent operand
    have selected := operandLay.append ((Lays.text ".").append (.text field))
    have whole := (selected.testMark testOnly).append (.adornment (.node (.select id operand field testOnly)))
    rw [← List.append_assoc (operand.layout adorner indent)] at whole
    exact whole
  | .call id function args => by
    have arguments := (Expr.laysAll (indent + 1) args).parenthesized
    exact ((Lays.text function).append arguments).append (.adornment _)
  | .memberCall id target function args => by
    have arguments := (Expr.laysAll (indent + 1) args).parenthesized
    have targetLay := Expr.lays indent target
    have selected := targetLay.append ((Lays.text ".").append (.text function))
    rw [← List.append_assoc (target.layout adorner indent)] at selected
    exact (selected.append arguments).append (.adornment _)
  | .list id elements => by
    have members := (Expr.laysAll (indent + 1) elements).bracketed "[" "]"
    exact members.append (.adornment _)
  | .struct id message entries => by
    have members := (Entry.laysAll (indent + 1) entries).bracketed "\x7b" "\x7d"
    exact ((Lays.text message).append members).append (.adornment _)
  | .comprehension id iterVar iterVar2 range accuVar init condition step result => by
    have lines : Lays adorner (indent + 1) [.text iterVar] _ := .text iterVar
    have lines := lines.labelled (Expr.lays (indent + 1) range) "Target"
    have lines := lines.labelled (.text accuVar) "Accumulator"
    have lines := lines.labelled (Expr.lays (indent + 1) init) "Init"
    have lines := lines.labelled (Expr.lays (indent + 1) condition) "LoopCondition"
    have lines := lines.labelled (Expr.lays (indent + 1) step) "LoopStep"
    have lines := lines.labelled (Expr.lays (indent + 1) result) "Result"
    have whole := (lines.closed "__comprehension__(" "Variable" ")").append (.adornment (.node
      (.comprehension id iterVar iterVar2 range accuVar init condition step result)))
    simp only [List.append_assoc] at whole
    rw [Expr.pieces_comprehension, Expr.layout, Expr.body_comprehension]
    simp only [List.append_assoc]
    exact whole

/-- The pieces of several trees write their layouts. -/
theorem Expr.laysAll (indent : Nat) :
    ∀ trees : List Expr, LaysMembers adorner indent (Expr.piecesAll trees)
      (Expr.layoutAll adorner indent trees)
  | [] => .none
  | [last] => .last last.pieces_ne_nil (Expr.lays indent last)
  | first :: second :: rest =>
    .cons first.pieces_ne_nil (Expr.lays indent first) (Expr.laysAll indent (second :: rest))

/-- The pieces of an entry write its layout. -/
theorem Entry.lays (indent : Nat) :
    ∀ entry : Entry, Lays adorner indent entry.pieces (entry.layout adorner indent)
  | .map id key value optional => by
    have keyed := ((Expr.lays indent key).optionalMark optional).append (.text ":")
    exact (keyed.append (Expr.lays indent value)).append (.adornment _)
  | .field id name value optional => by
    have named : Lays adorner indent ([.text name] ++ [.text ":"]) _ :=
      (Lays.text name).append (.text ":")
    have keyed := named.optionalMark optional
    rw [← List.append_assoc (optionalText optional)] at keyed
    exact (keyed.append (Expr.lays indent value)).append (.adornment _)

/-- The pieces of several entries write their layouts. -/
theorem Entry.laysAll (indent : Nat) :
    ∀ entries : List Entry, LaysMembers adorner indent (Entry.piecesAll entries)
      (Entry.layoutAll adorner indent entries)
  | [] => .none
  | [last] => .last last.pieces_ne_nil (Entry.lays indent last)
  | first :: second :: rest =>
    .cons first.pieces_ne_nil (Entry.lays indent first) (Entry.laysAll indent (second :: rest))

end

end Trees

/-- **A rendering is the layout of its tree.** -/
theorem render_eq_layout (adorner : Adorner) (tree : Expr) :
    render adorner tree = String.ofList (tree.layout adorner 0) := by
  have lines := Expr.lays adorner 0 tree {} rfl
  rw [render, lines]
  apply String.toList_injective
  simp

end CelTree
