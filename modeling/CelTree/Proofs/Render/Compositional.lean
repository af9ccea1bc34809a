/-
**Renderings are compositional.**

The writer keeps a margin and a mark of a fresh line, but what it writes for a tree can be said from
the texts of the parts alone: what stands in brackets is indented, and metadata follows its element.
The margin of the writer is the number of times a text has been indented.

* `indentLines`, `enclosed`, `labelled`, `opened`: how texts are put together.
* `Expr.text`, `Entry.text`: the text of a tree, from those of its parts.
* `hang`: a text whose further lines stand at a margin. `Expr.body_eq_hang`: so is a tree laid out.
* `Frame`, `plug`: a tree around a part of it. `StandsBehind`: where the text of the part stands.
* **`render_eq_text`** — a rendering is the text of its tree, and holds the rendering of each part,
  its further lines indented, at a place that does not depend on the part.
-/

import CelTree.Proofs.Render.Characters
import CelTree.Proofs.Render.Layout
import Mathlib.Data.List.Basic

namespace CelTree

namespace Render

/-! ### Texts put together -/

/-- A text with two blanks at the start of each of its lines, also of an empty one. -/
def indentLines (text : List Char) : List Char :=
  [' ', ' '] ++ text.flatMap fun c => if c = '\n' then ['\n', ' ', ' '] else [c]

/-- Texts one below the other, with commas between them. -/
def commaLines : List (List Char) → List Char
  | [] => []
  | first :: rest => first ++ rest.flatMap fun text => [',', '\n'] ++ text

/-- Texts between brackets, indented on lines of their own. -/
def enclosed (opening closing : List Char) : List (List Char) → List Char
  | [] => opening ++ closing
  | texts => opening ++ ['\n'] ++ indentLines (commaLines texts) ++ ['\n'] ++ closing

/-- A text below a label. -/
def labelled (name : String) (text : List Char) : List Char :=
  ("// " ++ name).toList ++ ['\n'] ++ text

/-- Texts indented on lines below an opening; what closes it stands right behind the last. -/
def opened (opening closing : String) (texts : List (List Char)) : List Char :=
  opening.toList ++ ['\n'] ++ indentLines (commaLines texts) ++ closing.toList

end Render

open Render

section Text

variable (adorner : Adorner)

mutual

/-- The text of a tree, without its own metadata. -/
def Expr.bareText : Expr → List Char
  | .literal _ value => literalText value
  | .ident _ name => name.toList
  | .select _ operand field testOnly =>
    operand.bareText ++ adornmentText adorner (.node operand) ++ ['.'] ++ field.toList ++
      testText testOnly
  | .call _ function args => function.toList ++ enclosed ['('] [')'] (Expr.textAll args)
  | .memberCall _ target function args =>
    target.bareText ++ adornmentText adorner (.node target) ++ ['.'] ++ function.toList ++
      enclosed ['('] [')'] (Expr.textAll args)
  | .list _ elements => enclosed ['['] [']'] (Expr.textAll elements)
  | .struct _ message entries =>
    message.toList ++ enclosed ['\x7b'] ['\x7d'] (Entry.textAll entries)
  | .comprehension _ iterVar _ range accuVar init condition step result =>
    opened "__comprehension__(" ")"
      [labelled "Variable" iterVar.toList,
        labelled "Target" (range.bareText ++ adornmentText adorner (.node range)),
        labelled "Accumulator" accuVar.toList,
        labelled "Init" (init.bareText ++ adornmentText adorner (.node init)),
        labelled "LoopCondition" (condition.bareText ++ adornmentText adorner (.node condition)),
        labelled "LoopStep" (step.bareText ++ adornmentText adorner (.node step)),
        labelled "Result" (result.bareText ++ adornmentText adorner (.node result))]

/-- The texts of several trees. -/
def Expr.textAll : List Expr → List (List Char)
  | [] => []
  | first :: rest =>
    (first.bareText ++ adornmentText adorner (.node first)) :: Expr.textAll rest

/-- The text of an entry, without its own metadata. -/
def Entry.bareText : Entry → List Char
  | .map _ key value optional =>
    optionalText optional ++ (key.bareText ++ adornmentText adorner (.node key)) ++ [':'] ++
      (value.bareText ++ adornmentText adorner (.node value))
  | .field _ name value optional =>
    optionalText optional ++ name.toList ++ [':'] ++
      (value.bareText ++ adornmentText adorner (.node value))

/-- The texts of several entries. -/
def Entry.textAll : List Entry → List (List Char)
  | [] => []
  | first :: rest =>
    (first.bareText ++ adornmentText adorner (.entry first)) :: Entry.textAll rest

end

/-- The text of a tree, from the texts of its parts. -/
def Expr.text (tree : Expr) : List Char :=
  tree.bareText adorner ++ adornmentText adorner (.node tree)

/-- The text of an entry, from the texts of its parts. -/
def Entry.text (entry : Entry) : List Char :=
  entry.bareText adorner ++ adornmentText adorner (.entry entry)

end Text

example :
    (Expr.list 4 [.ident 1 "x", .list 3 [.ident 2 "y"]]).text Adorner.plain =
      "[\n  x,\n  [\n    y\n  ]\n]".toList := by
  decide

mutual

/-- The names that a tree is written with. -/
def Expr.names : Expr → List String
  | .literal _ _ => []
  | .ident _ name => [name]
  | .select _ operand field _ => field :: operand.names
  | .call _ function args => function :: Expr.namesAll args
  | .memberCall _ target function args => function :: (target.names ++ Expr.namesAll args)
  | .list _ elements => Expr.namesAll elements
  | .struct _ message entries => message :: Entry.namesAll entries
  | .comprehension _ iterVar _ range accuVar init condition step result =>
    iterVar :: accuVar ::
      (range.names ++ (init.names ++ (condition.names ++ (step.names ++ result.names))))

/-- The names that several trees are written with. -/
def Expr.namesAll : List Expr → List String
  | [] => []
  | first :: rest => first.names ++ Expr.namesAll rest

/-- The names that an entry is written with. -/
def Entry.names : Entry → List String
  | .map _ key value _ => key.names ++ value.names
  | .field _ name value _ => name :: value.names

/-- The names that several entries are written with. -/
def Entry.namesAll : List Entry → List String
  | [] => []
  | first :: rest => first.names ++ Entry.namesAll rest

end

/-! ### Margins -/

namespace Render

/-- A text whose lines after the first one stand at a margin. -/
def hang (indent : Nat) (text : List Char) : List Char :=
  text.flatMap fun c => if c = '\n' then lineBreak indent else [c]

section Hang

variable (indent : Nat)

theorem hang_append (first second : List Char) :
    hang indent (first ++ second) = hang indent first ++ hang indent second :=
  List.flatMap_append

/-- A text on one line does not depend on the margin. -/
theorem hang_of_not_mem {text : List Char} (line : '\n' ∉ text) : hang indent text = text := by
  induction text with
  | nil => rfl
  | cons c rest ih =>
    have other : c ≠ '\n' := (List.ne_of_not_mem_cons line).symm
    rw [hang, List.flatMap_cons, if_neg other]
    exact congrArg (c :: ·) (ih (List.not_mem_of_not_mem_cons line))

theorem hang_newline : hang indent ['\n'] = lineBreak indent := List.append_nil _

theorem hang_dot : hang indent ['.'] = ['.'] := rfl

theorem hang_colon : hang indent [':'] = [':'] := rfl

/-- At the margin zero a text is as it is. -/
theorem hang_zero (text : List Char) : hang 0 text = text := by
  induction text with
  | nil => rfl
  | cons c rest ih =>
    have first : (if c = '\n' then lineBreak 0 else [c]) = [c] := by
      split
      · rename_i newline
        rw [newline]
        rfl
      · rfl
    rw [hang, List.flatMap_cons, first]
    exact congrArg (c :: ·) ih

/-- Indents add up. -/
theorem hang_lineBreak (inner : Nat) :
    hang indent (lineBreak inner) = lineBreak (indent + inner) := by
  have blanks : '\n' ∉ List.replicate (2 * inner) ' ' :=
    fun member => absurd (List.eq_of_mem_replicate member) (by decide)
  have split : lineBreak inner = ['\n'] ++ List.replicate (2 * inner) ' ' := rfl
  rw [split, hang_append, hang_newline, hang_of_not_mem indent blanks, lineBreak, lineBreak,
    List.cons_append, List.replicate_append_replicate, Nat.mul_add]

/-- Margins add up. -/
theorem hang_hang (inner : Nat) (text : List Char) :
    hang indent (hang inner text) = hang (indent + inner) text := by
  unfold hang
  rw [List.flatMap_assoc]
  refine List.flatMap_congr fun c _ => ?_
  split
  · exact hang_lineBreak indent inner
  · rename_i other
    exact hang_of_not_mem indent fun member => other (List.mem_singleton.mp member).symm

/-- Behind the end of a line, indented lines stand one step further in. -/
theorem hang_indentLines (text : List Char) :
    hang indent (['\n'] ++ indentLines text) =
      lineBreak (indent + 1) ++ hang (indent + 1) text := by
  have start : ['\n'] ++ indentLines text = lineBreak 1 ++ hang 1 text := rfl
  rw [start, hang_append, hang_lineBreak, hang_hang]

/-- Texts on lines of their own hang as members do. -/
theorem hang_commaLines (texts : List (List Char)) :
    hang indent (commaLines texts) = members indent (texts.map (hang indent)) := by
  cases texts with
  | nil => rfl
  | cons first rest =>
    have separator : hang indent [',', '\n'] = [','] ++ lineBreak indent :=
      congrArg (',' :: ·) (hang_newline indent)
    rw [commaLines, hang_append, List.map_cons, members]
    congr 1
    induction rest with
    | nil => rfl
    | cons second rest ih =>
      rw [List.flatMap_cons, hang_append, hang_append, separator, ih, List.map_cons,
        List.flatMap_cons]

/-- An enclosed list hangs as a block whose members hang one level further in. -/
theorem hang_enclosed {opening closing : List Char} (line : '\n' ∉ opening) (line' : '\n' ∉ closing)
    (texts : List (List Char)) :
    hang indent (enclosed opening closing texts) =
      block opening closing indent (texts.map (hang (indent + 1))) := by
  cases texts with
  | nil =>
    show hang indent (opening ++ closing) = opening ++ closing
    rw [hang_append, hang_of_not_mem indent line, hang_of_not_mem indent line']
  | cons first rest =>
    show hang indent (opening ++ ['\n'] ++ indentLines (commaLines (first :: rest)) ++ ['\n'] ++
      closing) = opening ++ lineBreak (indent + 1) ++
        members (indent + 1) ((first :: rest).map (hang (indent + 1))) ++ lineBreak indent ++
          closing
    rw [List.append_assoc opening, hang_append, hang_append, hang_append, hang_indentLines,
      hang_newline, hang_commaLines, hang_of_not_mem indent line, hang_of_not_mem indent line']
    simp only [List.append_assoc]

theorem hang_parenthesized (texts : List (List Char)) :
    hang indent (enclosed ['('] [')'] texts) =
      block ['('] [')'] indent (texts.map (hang (indent + 1))) :=
  hang_enclosed indent (by decide) (by decide) texts

theorem hang_optionalText (optional : Bool) :
    hang indent (optionalText optional) = optionalText optional := by
  cases optional <;> rfl

theorem hang_testText (testOnly : Bool) : hang indent (testText testOnly) = testText testOnly := by
  cases testOnly with
  | false => rfl
  | true => exact hang_of_not_mem indent (by decide)

/-- A list behind an opening line hangs member by member, one level further in. -/
theorem hang_opened {opening closing : String} (line : '\n' ∉ opening.toList)
    (line' : '\n' ∉ closing.toList) (texts : List (List Char)) :
    hang indent (opened opening closing texts) =
      opening.toList ++ lineBreak (indent + 1) ++
        members (indent + 1) (texts.map (hang (indent + 1))) ++ closing.toList := by
  rw [opened, List.append_assoc opening.toList, hang_append, hang_append, hang_indentLines,
    hang_commaLines, hang_of_not_mem indent line, hang_of_not_mem indent line']
  simp only [List.append_assoc]

/-- A label stands on the line before its part. -/
theorem hang_labelled {name : String} (line : '\n' ∉ name.toList) (text : List Char) :
    hang indent (labelled name text) =
      ("// " ++ name).toList ++ lineBreak indent ++ hang indent text := by
  have label : '\n' ∉ ("// " ++ name).toList := by
    rw [String.toList_append, List.mem_append]
    exact fun member => member.elim (by decide) line
  rw [labelled, hang_append, hang_append, hang_newline, hang_of_not_mem indent label]

end Hang

end Render

/-! ### Layouts -/

section Trees

variable {adorner : Adorner} (quiet : ∀ element, '\n' ∉ adornmentText adorner element)

include quiet

/-- An adornment without newlines stays as it is. -/
theorem hang_adornmentText (indent : Nat) (element : Element) :
    hang indent (adornmentText adorner element) = adornmentText adorner element :=
  hang_of_not_mem indent (quiet element)

mutual

/-- **The text of a tree at a margin is its text with further lines at that margin.** -/
theorem Expr.body_eq_hang (indent : Nat) :
    (tree : Expr) → (∀ name ∈ tree.names, '\n' ∉ name.toList) →
      tree.body adorner indent = hang indent (tree.bareText adorner)
  | .literal _ value, _ => by
    rw [Expr.body, Expr.bareText, hang_of_not_mem indent (newline_not_mem_literalText value)]
  | .ident _ name, lines => by
    rw [Expr.body, Expr.bareText, hang_of_not_mem indent (lines name List.mem_cons_self)]
  | .select _ operand field testOnly, lines => by
    obtain ⟨own, below⟩ := List.forall_mem_cons.mp lines
    rw [Expr.body, Expr.bareText, operand.body_eq_hang indent below]
    simp only [hang_append, hang_adornmentText quiet, hang_testText, hang_of_not_mem indent own,
      hang_dot]
  | .call _ function args, lines => by
    obtain ⟨own, below⟩ := List.forall_mem_cons.mp lines
    rw [Expr.body, Expr.bareText, Expr.layoutAll_eq_hang (indent + 1) args below, hang_append,
      hang_of_not_mem indent own, hang_parenthesized]
  | .memberCall _ target function args, lines => by
    obtain ⟨own, below⟩ := List.forall_mem_cons.mp lines
    obtain ⟨inTarget, inArgs⟩ := List.forall_mem_append.mp below
    rw [Expr.body, Expr.bareText, target.body_eq_hang indent inTarget,
      Expr.layoutAll_eq_hang (indent + 1) args inArgs]
    simp only [hang_append, hang_adornmentText quiet, hang_of_not_mem indent own,
      hang_dot, hang_parenthesized]
  | .list _ elements, lines => by
    rw [Expr.body, Expr.bareText, Expr.layoutAll_eq_hang (indent + 1) elements lines,
      hang_enclosed indent (by decide) (by decide)]
  | .struct _ message entries, lines => by
    obtain ⟨own, below⟩ := List.forall_mem_cons.mp lines
    rw [Expr.body, Expr.bareText, Entry.layoutAll_eq_hang (indent + 1) entries below, hang_append,
      hang_of_not_mem indent own, hang_enclosed indent (by decide) (by decide)]
  | .comprehension id iterVar iterVar2 range accuVar init condition step result, lines => by
    obtain ⟨inIterVar, below⟩ := List.forall_mem_cons.mp lines
    obtain ⟨inAccuVar, below⟩ := List.forall_mem_cons.mp below
    obtain ⟨inRange, below⟩ := List.forall_mem_append.mp below
    obtain ⟨inInit, below⟩ := List.forall_mem_append.mp below
    obtain ⟨inCondition, below⟩ := List.forall_mem_append.mp below
    obtain ⟨inStep, inResult⟩ := List.forall_mem_append.mp below
    rw [Expr.body, Expr.bareText, range.body_eq_hang (indent + 1) inRange,
      init.body_eq_hang (indent + 1) inInit, condition.body_eq_hang (indent + 1) inCondition,
      step.body_eq_hang (indent + 1) inStep, result.body_eq_hang (indent + 1) inResult,
      hang_opened indent (by decide) (by decide)]
    -- a heading ends the line before it with a comma, which the text has between its parts
    have comma : ",".toList = [','] := rfl
    have closing : ")".toList = [')'] := rfl
    simp (disch := decide) only [List.map_cons, List.map_nil, hang_labelled, hang_append,
      hang_adornmentText quiet, hang_of_not_mem _ inIterVar, hang_of_not_mem _ inAccuVar, members,
      List.flatMap_cons, List.flatMap_nil, List.append_nil, heading, comma, closing,
      List.append_assoc]

/-- The layouts of several trees are their texts, hung. -/
theorem Expr.layoutAll_eq_hang (indent : Nat) :
    (trees : List Expr) → (∀ name ∈ Expr.namesAll trees, '\n' ∉ name.toList) →
      Expr.layoutAll adorner indent trees = (Expr.textAll adorner trees).map (hang indent)
  | [], _ => rfl
  | first :: rest, lines => by
    obtain ⟨inFirst, inRest⟩ := List.forall_mem_append.mp lines
    rw [Expr.layoutAll, Expr.textAll, List.map_cons, first.body_eq_hang indent inFirst,
      Expr.layoutAll_eq_hang indent rest inRest, hang_append, hang_adornmentText quiet]

/-- The body of an entry is its bare text, hung. -/
theorem Entry.body_eq_hang (indent : Nat) :
    (entry : Entry) → (∀ name ∈ entry.names, '\n' ∉ name.toList) →
      entry.body adorner indent = hang indent (entry.bareText adorner)
  | .map _ key value optional, lines => by
    obtain ⟨inKey, inValue⟩ := List.forall_mem_append.mp lines
    rw [Entry.body, Entry.bareText, key.body_eq_hang indent inKey,
      value.body_eq_hang indent inValue]
    simp only [hang_append, hang_adornmentText quiet, hang_optionalText, hang_colon]
  | .field _ name value optional, lines => by
    obtain ⟨own, inValue⟩ := List.forall_mem_cons.mp lines
    rw [Entry.body, Entry.bareText, value.body_eq_hang indent inValue]
    simp only [hang_append, hang_adornmentText quiet, hang_optionalText,
      hang_of_not_mem indent own, hang_colon]

/-- The layouts of several entries are their texts, hung. -/
theorem Entry.layoutAll_eq_hang (indent : Nat) :
    (entries : List Entry) → (∀ name ∈ Entry.namesAll entries, '\n' ∉ name.toList) →
      Entry.layoutAll adorner indent entries = (Entry.textAll adorner entries).map (hang indent)
  | [], _ => rfl
  | first :: rest, lines => by
    obtain ⟨inFirst, inRest⟩ := List.forall_mem_append.mp lines
    rw [Entry.layoutAll, Entry.textAll, List.map_cons, first.body_eq_hang indent inFirst,
      Entry.layoutAll_eq_hang indent rest inRest, hang_append, hang_adornmentText quiet]

end

/-- A rendering is the text of its tree, composed of the texts of the parts. -/
theorem render_eq_ofList_text {tree : Expr} (lines : ∀ name ∈ tree.names, '\n' ∉ name.toList) :
    render adorner tree = String.ofList (tree.text adorner) := by
  rw [render_eq_layout, Expr.layout, tree.body_eq_hang quiet 0 lines, hang_zero, Expr.text]

end Trees

/-! ### Parts in their places -/

namespace Render

/-- The text stands in the whole behind the front, its further lines some steps further in. -/
def StandsBehind (front : List Char) (steps : Nat) (text whole : List Char) : Prop :=
  ∃ behind, whole = front ++ hang steps text ++ behind

namespace StandsBehind

variable {front front' text middle whole : List Char} {steps steps' : Nat}

theorem refl (text : List Char) : StandsBehind [] 0 text text :=
  ⟨[], by rw [hang_zero, List.append_nil, List.nil_append]⟩

theorem append (stands : StandsBehind front steps text whole) (more : List Char) :
    StandsBehind front steps text (whole ++ more) := by
  obtain ⟨behind, rfl⟩ := stands
  exact ⟨behind ++ more, List.append_assoc ..⟩

/-- What goes before the whole is part of the front. -/
theorem prepend (stands : StandsBehind front steps text whole) (before : List Char) :
    StandsBehind (before ++ front) steps text (before ++ whole) := by
  obtain ⟨behind, rfl⟩ := stands
  exact ⟨behind, by simp only [List.append_assoc]⟩

/-- The inner front hangs by the steps of the outer one, and the steps add up. -/
theorem trans (outer : StandsBehind front steps middle whole)
    (inner : StandsBehind front' steps' text middle) :
    StandsBehind (front ++ hang steps front') (steps + steps') text whole := by
  obtain ⟨behind, rfl⟩ := outer
  obtain ⟨behind', rfl⟩ := inner
  refine ⟨hang steps behind' ++ behind, ?_⟩
  rw [hang_append, hang_append, hang_hang]
  simp only [List.append_assoc]

end StandsBehind

/-- What stands before and behind one of several texts does not depend on it. -/
theorem exists_commaLines_eq (before after : List (List Char)) :
    ∃ front behind, ∀ text, commaLines (before ++ text :: after) = front ++ text ++ behind := by
  cases before with
  | nil => exact ⟨[], _, fun text => rfl⟩
  | cons first rest =>
    refine ⟨first ++ rest.flatMap (fun text => [',', '\n'] ++ text) ++ [',', '\n'],
      after.flatMap fun text => [',', '\n'] ++ text, fun text => ?_⟩
    rw [List.cons_append, commaLines, List.flatMap_append, List.flatMap_cons]
    simp only [List.append_assoc]

/-- One of several indented texts, wherever it stands among them. -/
theorem exists_standsBehind_indentLines (before after : List (List Char)) :
    ∃ front, ∀ text,
      StandsBehind front 1 text (indentLines (commaLines (before ++ text :: after))) := by
  obtain ⟨front, behind, split⟩ := exists_commaLines_eq before after
  refine ⟨indentLines front, fun text => ⟨hang 1 behind, ?_⟩⟩
  have inner (text : List Char) : indentLines text = [' ', ' '] ++ hang 1 text := rfl
  rw [split, inner, inner, hang_append, hang_append]
  simp only [List.append_assoc]

/-- A member of an enclosed list stands one step further in, behind a front that does not depend on
it. -/
theorem exists_standsBehind_enclosed (opening closing : List Char)
    (before after : List (List Char)) :
    ∃ front, ∀ text,
      StandsBehind front 1 text (enclosed opening closing (before ++ text :: after)) := by
  obtain ⟨front, stands⟩ := exists_standsBehind_indentLines before after
  refine ⟨opening ++ ['\n'] ++ front, fun text => ?_⟩
  have lines := (((stands text).prepend (opening ++ ['\n'])).append ['\n']).append closing
  cases before <;> exact lines

/-- So does a member of a list behind an opening line. -/
theorem exists_standsBehind_opened (opening closing : String) (before after : List (List Char)) :
    ∃ front, ∀ text,
      StandsBehind front 1 text (opened opening closing (before ++ text :: after)) := by
  obtain ⟨front, stands⟩ := exists_standsBehind_indentLines before after
  exact ⟨opening.toList ++ ['\n'] ++ front, fun text =>
    ((stands text).prepend (opening.toList ++ ['\n'])).append closing.toList⟩

/-- What stands below a label begins a line, at the margin of the label. -/
theorem exists_standsBehind_labelled (opening closing name : String)
    (before after : List (List Char)) :
    ∃ front, ∀ text, StandsBehind front 1 text
      (opened opening closing (before ++ labelled name text :: after)) := by
  obtain ⟨front, stands⟩ := exists_standsBehind_opened opening closing before after
  exact ⟨front ++ hang 1 (("// " ++ name).toList ++ ['\n'] ++ []), fun text =>
    (stands (labelled name text)).trans
      ((StandsBehind.refl text).prepend (("// " ++ name).toList ++ ['\n']))⟩

end Render

section Parts

variable (adorner : Adorner)

theorem Expr.textAll_append (before : List Expr) (part : Expr) (after : List Expr) :
    Expr.textAll adorner (before ++ part :: after) =
      Expr.textAll adorner before ++ part.text adorner :: Expr.textAll adorner after := by
  induction before with
  | nil => rfl
  | cons first rest ih => rw [List.cons_append, Expr.textAll, ih, Expr.textAll, List.cons_append]

theorem Entry.textAll_append (before : List Entry) (part : Entry) (after : List Entry) :
    Entry.textAll adorner (before ++ part :: after) =
      Entry.textAll adorner before ++ part.text adorner :: Entry.textAll adorner after := by
  induction before with
  | nil => rfl
  | cons first rest ih => rw [List.cons_append, Entry.textAll, ih, Entry.textAll, List.cons_append]

theorem Expr.exists_standsBehind_textAll (opening closing : List Char) (before after : List Expr) :
    ∃ front, ∀ part : Expr, StandsBehind front 1 (part.text adorner)
      (enclosed opening closing (Expr.textAll adorner (before ++ part :: after))) := by
  obtain ⟨front, stands⟩ := exists_standsBehind_enclosed opening closing
    (Expr.textAll adorner before) (Expr.textAll adorner after)
  refine ⟨front, fun part => ?_⟩
  rw [Expr.textAll_append]
  exact stands (part.text adorner)

theorem Entry.exists_standsBehind_textAll (opening closing : List Char)
    (before after : List Entry) :
    ∃ front, ∀ part : Entry, StandsBehind front 1 (part.text adorner)
      (enclosed opening closing (Entry.textAll adorner (before ++ part :: after))) := by
  obtain ⟨front, stands⟩ := exists_standsBehind_enclosed opening closing
    (Entry.textAll adorner before) (Entry.textAll adorner after)
  refine ⟨front, fun part => ?_⟩
  rw [Entry.textAll_append]
  exact stands (part.text adorner)

end Parts

theorem Expr.mem_namesAll {name : String} {tree : Expr} {trees : List Expr} (member : tree ∈ trees)
    (named : name ∈ tree.names) : name ∈ Expr.namesAll trees := by
  induction member with
  | head rest => exact List.mem_append_left _ named
  | tail first _ ih => exact List.mem_append_right _ ih

theorem Entry.mem_namesAll {name : String} {entry : Entry} {entries : List Entry}
    (member : entry ∈ entries) (named : name ∈ entry.names) : name ∈ Entry.namesAll entries := by
  induction member with
  | head rest => exact List.mem_append_left _ named
  | tail first _ ih => exact List.mem_append_right _ ih

namespace Render

/-- An entry around its key or its value. -/
inductive EntryFrame
  | mapKey (id : Int) (value : Expr) (optional : Bool)
  | mapValue (id : Int) (key : Expr) (optional : Bool)
  | fieldValue (id : Int) (name : String) (optional : Bool)

/-- A node around one of its parts. -/
inductive Frame
  | operand (id : Int) (field : String) (testOnly : Bool)
  | argument (id : Int) (function : String) (before after : List Expr)
  | callTarget (id : Int) (function : String) (args : List Expr)
  | memberArgument (id : Int) (target : Expr) (function : String) (before after : List Expr)
  | element (id : Int) (before after : List Expr)
  | entry (id : Int) (message : String) (before : List Entry) (frame : EntryFrame)
      (after : List Entry)
  | foldTarget (id : Int) (iterVar iterVar2 accuVar : String) (init condition step result : Expr)
  | foldInit (id : Int) (iterVar iterVar2 : String) (range : Expr) (accuVar : String)
      (condition step result : Expr)
  | foldCondition (id : Int) (iterVar iterVar2 : String) (range : Expr) (accuVar : String)
      (init step result : Expr)
  | foldStep (id : Int) (iterVar iterVar2 : String) (range : Expr) (accuVar : String)
      (init condition result : Expr)
  | foldResult (id : Int) (iterVar iterVar2 : String) (range : Expr) (accuVar : String)
      (init condition step : Expr)

namespace EntryFrame

/-- The entry with the part in its place. -/
def around : EntryFrame → Expr → Entry
  | .mapKey id value optional, part => .map id part value optional
  | .mapValue id key optional, part => .map id key part optional
  | .fieldValue id name optional, part => .field id name part optional

theorem names_subset (frame : EntryFrame) (part : Expr) :
    part.names ⊆ (frame.around part).names := by
  intro name named
  cases frame with
  | mapKey id value optional => exact List.mem_append_left _ named
  | mapValue id key optional => exact List.mem_append_right _ named
  | fieldValue id field optional => exact List.mem_cons_of_mem _ named

/-- A part of an entry stands on the line of the entry, at a place that does not depend on it. -/
theorem exists_standsBehind (adorner : Adorner) (frame : EntryFrame) :
    ∃ front, ∀ part : Expr,
      StandsBehind front 0 (part.text adorner) ((frame.around part).text adorner) := by
  cases frame with
  | mapKey id value optional =>
    refine ⟨optionalText optional ++ [], fun part => ?_⟩
    exact ((((StandsBehind.refl _).prepend (optionalText optional)).append [':']).append _).append _
  | mapValue id key optional =>
    refine ⟨optionalText optional ++ key.text adorner ++ [':'] ++ [], fun part => ?_⟩
    exact ((StandsBehind.refl _).prepend
      (optionalText optional ++ key.text adorner ++ [':'])).append _
  | fieldValue id name optional =>
    refine ⟨optionalText optional ++ name.toList ++ [':'] ++ [], fun part => ?_⟩
    exact ((StandsBehind.refl _).prepend (optionalText optional ++ name.toList ++ [':'])).append _

end EntryFrame

namespace Frame

/-- The node with the part in its place. -/
def around : Frame → Expr → Expr
  | .operand id field testOnly, part => .select id part field testOnly
  | .argument id function before after, part => .call id function (before ++ part :: after)
  | .callTarget id function args, part => .memberCall id part function args
  | .memberArgument id target function before after, part =>
    .memberCall id target function (before ++ part :: after)
  | .element id before after, part => .list id (before ++ part :: after)
  | .entry id message before frame after, part =>
    .struct id message (before ++ frame.around part :: after)
  | .foldTarget id iterVar iterVar2 accuVar init condition step result, part =>
    .comprehension id iterVar iterVar2 part accuVar init condition step result
  | .foldInit id iterVar iterVar2 range accuVar condition step result, part =>
    .comprehension id iterVar iterVar2 range accuVar part condition step result
  | .foldCondition id iterVar iterVar2 range accuVar init step result, part =>
    .comprehension id iterVar iterVar2 range accuVar init part step result
  | .foldStep id iterVar iterVar2 range accuVar init condition result, part =>
    .comprehension id iterVar iterVar2 range accuVar init condition part result
  | .foldResult id iterVar iterVar2 range accuVar init condition step, part =>
    .comprehension id iterVar iterVar2 range accuVar init condition step part

/-- The steps by which the part is indented. Operands and targets stand on the line of the node. -/
def steps : Frame → Nat
  | .operand _ _ _ => 0
  | .callTarget _ _ _ => 0
  | _ => 1

theorem names_subset (frame : Frame) (part : Expr) : part.names ⊆ (frame.around part).names := by
  intro name named
  cases frame with
  | operand id field testOnly => exact List.mem_cons_of_mem _ named
  | argument id function before after =>
    exact List.mem_cons_of_mem _ (Expr.mem_namesAll List.mem_append_cons_self named)
  | callTarget id function args => exact List.mem_cons_of_mem _ (List.mem_append_left _ named)
  | memberArgument id target function before after =>
    exact List.mem_cons_of_mem _
      (List.mem_append_right _ (Expr.mem_namesAll List.mem_append_cons_self named))
  | element id before after => exact Expr.mem_namesAll List.mem_append_cons_self named
  | entry id message before frame after =>
    exact List.mem_cons_of_mem _
      (Entry.mem_namesAll List.mem_append_cons_self (frame.names_subset part named))
  | foldTarget | foldInit | foldCondition | foldStep | foldResult =>
    simp only [around, Expr.names, List.mem_cons, List.mem_append, named, true_or, or_true]

/-- **A part of a node stands at a place that does not depend on it.** -/
theorem exists_standsBehind (adorner : Adorner) (frame : Frame) :
    ∃ front, ∀ part : Expr,
      StandsBehind front frame.steps (part.text adorner) ((frame.around part).text adorner) := by
  cases frame with
  | operand id field testOnly =>
    refine ⟨[], fun part => ?_⟩
    exact ((((StandsBehind.refl _).append ['.']).append field.toList).append
      (testText testOnly)).append _
  | argument id function before after =>
    obtain ⟨front, stands⟩ := Expr.exists_standsBehind_textAll adorner ['('] [')'] before after
    exact ⟨function.toList ++ front, fun part => ((stands part).prepend function.toList).append _⟩
  | callTarget id function args =>
    refine ⟨[], fun part => ?_⟩
    exact ((((StandsBehind.refl _).append ['.']).append function.toList).append
      (enclosed ['('] [')'] (Expr.textAll adorner args))).append _
  | memberArgument id target function before after =>
    obtain ⟨front, stands⟩ := Expr.exists_standsBehind_textAll adorner ['('] [')'] before after
    exact ⟨target.text adorner ++ ['.'] ++ function.toList ++ front, fun part =>
      ((stands part).prepend (target.text adorner ++ ['.'] ++ function.toList)).append _⟩
  | element id before after =>
    obtain ⟨front, stands⟩ := Expr.exists_standsBehind_textAll adorner ['['] [']'] before after
    exact ⟨front, fun part => (stands part).append _⟩
  | entry id message before frame after =>
    obtain ⟨front, stands⟩ :=
      Entry.exists_standsBehind_textAll adorner ['\x7b'] ['\x7d'] before after
    obtain ⟨front', stands'⟩ := frame.exists_standsBehind adorner
    exact ⟨message.toList ++ front ++ hang 1 front', fun part =>
      (((stands (frame.around part)).prepend message.toList).append _).trans (stands' part)⟩
  | foldTarget id iterVar iterVar2 accuVar init condition step result =>
    obtain ⟨front, stands⟩ := exists_standsBehind_labelled "__comprehension__(" ")" "Target"
      [labelled "Variable" iterVar.toList]
      [labelled "Accumulator" accuVar.toList, labelled "Init" (init.text adorner),
        labelled "LoopCondition" (condition.text adorner), labelled "LoopStep" (step.text adorner),
        labelled "Result" (result.text adorner)]
    exact ⟨front, fun part => (stands (part.text adorner)).append _⟩
  | foldInit id iterVar iterVar2 range accuVar condition step result =>
    obtain ⟨front, stands⟩ := exists_standsBehind_labelled "__comprehension__(" ")" "Init"
      [labelled "Variable" iterVar.toList, labelled "Target" (range.text adorner),
        labelled "Accumulator" accuVar.toList]
      [labelled "LoopCondition" (condition.text adorner), labelled "LoopStep" (step.text adorner),
        labelled "Result" (result.text adorner)]
    exact ⟨front, fun part => (stands (part.text adorner)).append _⟩
  | foldCondition id iterVar iterVar2 range accuVar init step result =>
    obtain ⟨front, stands⟩ := exists_standsBehind_labelled "__comprehension__(" ")" "LoopCondition"
      [labelled "Variable" iterVar.toList, labelled "Target" (range.text adorner),
        labelled "Accumulator" accuVar.toList, labelled "Init" (init.text adorner)]
      [labelled "LoopStep" (step.text adorner), labelled "Result" (result.text adorner)]
    exact ⟨front, fun part => (stands (part.text adorner)).append _⟩
  | foldStep id iterVar iterVar2 range accuVar init condition result =>
    obtain ⟨front, stands⟩ := exists_standsBehind_labelled "__comprehension__(" ")" "LoopStep"
      [labelled "Variable" iterVar.toList, labelled "Target" (range.text adorner),
        labelled "Accumulator" accuVar.toList, labelled "Init" (init.text adorner),
        labelled "LoopCondition" (condition.text adorner)]
      [labelled "Result" (result.text adorner)]
    exact ⟨front, fun part => (stands (part.text adorner)).append _⟩
  | foldResult id iterVar iterVar2 range accuVar init condition step =>
    obtain ⟨front, stands⟩ := exists_standsBehind_labelled "__comprehension__(" ")" "Result"
      [labelled "Variable" iterVar.toList, labelled "Target" (range.text adorner),
        labelled "Accumulator" accuVar.toList, labelled "Init" (init.text adorner),
        labelled "LoopCondition" (condition.text adorner),
        labelled "LoopStep" (step.text adorner)] []
    exact ⟨front, fun part => (stands (part.text adorner)).append _⟩

end Frame

/-- The tree around a part, from the outermost node to the innermost. -/
def plug (path : List Frame) (part : Expr) : Expr := path.foldr Frame.around part

/-- The steps by which the part is indented in all. -/
def depth (path : List Frame) : Nat := (path.map Frame.steps).sum

theorem names_subset_plug (path : List Frame) (part : Expr) :
    part.names ⊆ (plug path part).names := by
  induction path with
  | nil => exact List.Subset.refl _
  | cons frame inner ih => exact List.Subset.trans ih (frame.names_subset (plug inner part))

/-- The steps of the frames on the way to a part add up. -/
theorem exists_standsBehind_plug (adorner : Adorner) (path : List Frame) :
    ∃ front, ∀ part : Expr,
      StandsBehind front (depth path) (part.text adorner) ((plug path part).text adorner) := by
  induction path with
  | nil => exact ⟨[], fun part => .refl (part.text adorner)⟩
  | cons frame inner ih =>
    obtain ⟨front, stands⟩ := frame.exists_standsBehind adorner
    obtain ⟨front', stands'⟩ := ih
    -- what stands before the part on the inner way is itself indented by the outer frame
    refine ⟨front ++ hang frame.steps front', fun part => ?_⟩
    rw [depth, List.map_cons, List.sum_cons]
    exact (stands (plug inner part)).trans (stands' part)

/-- Kinds and ids are written on one line. -/
theorem newline_not_mem_kindsAndIds (element : Element) :
    '\n' ∉ (Adorner.kindsAndIds element).toList := by
  have inKind : '\n' ∉ element.kind.toList := not_mem_kind (by decide) element
  have inId : '\n' ∉ Text.writeInteger element.id :=
    Text.not_mem_writeInteger (by decide) (by decide) element.id
  intro member
  rw [← adornmentText, adornmentText_kindsAndIds] at member
  simp only [List.mem_cons, List.mem_append, inKind, inId, List.not_mem_nil, or_false,
    false_or] at member
  exact absurd member (by decide)

/-- **A rendering is the text put together from the texts of the parts**, and holds the rendering of
each part at a place that does not depend on the part, with every line of it but the first indented
by the same number of steps. -/
theorem render_eq_text {adorner : Adorner} (quiet : ∀ element, '\n' ∉ (adorner element).toList) :
    (∀ tree : Expr, (∀ name ∈ tree.names, '\n' ∉ name.toList) →
      render adorner tree = String.ofList (tree.text adorner)) ∧
    ∀ path : List Frame, ∃ front, ∀ part : Expr,
      (∀ name ∈ (plug path part).names, '\n' ∉ name.toList) →
        StandsBehind front (depth path) (render adorner part).toList
          (render adorner (plug path part)).toList := by
  have quiet' : ∀ element, '\n' ∉ adornmentText adorner element := quiet
  refine ⟨fun tree lines => render_eq_ofList_text quiet' lines, fun path => ?_⟩
  obtain ⟨front, stands⟩ := exists_standsBehind_plug adorner path
  refine ⟨front, fun part lines => ?_⟩
  have below : ∀ name ∈ part.names, '\n' ∉ name.toList :=
    fun name named => lines name (names_subset_plug path part named)
  rw [render_eq_ofList_text quiet' lines, render_eq_ofList_text quiet' below, String.toList_ofList,
    String.toList_ofList]
  exact stands part

/-- The way to the operand `[x]` of `f([x].y)`. -/
def operandInCall : List Frame := [.argument 4 "f" [] [], .operand 3 "y" false]

theorem render_eq_text_operandInCall :
    (∀ element, '\n' ∉ (Adorner.kindsAndIds element).toList) ∧
    (∀ name ∈ (plug operandInCall (.list 2 [.ident 1 "x"])).names, '\n' ∉ name.toList) ∧
    render Adorner.kindsAndIds (plug operandInCall (.list 2 [.ident 1 "x"])) =
      String.ofList ((plug operandInCall (.list 2 [.ident 1 "x"])).text Adorner.kindsAndIds) ∧
    ∃ front, StandsBehind front 1 (render Adorner.kindsAndIds (.list 2 [.ident 1 "x"])).toList
      (render Adorner.kindsAndIds (plug operandInCall (.list 2 [.ident 1 "x"]))).toList := by
  have lines : ∀ name ∈ (plug operandInCall (.list 2 [.ident 1 "x"])).names,
      '\n' ∉ name.toList := by
    decide
  obtain ⟨whole, parts⟩ := render_eq_text newline_not_mem_kindsAndIds
  obtain ⟨front, stands⟩ := parts operandInCall
  exact ⟨newline_not_mem_kindsAndIds, lines, whole _ lines, front, stands _ lines⟩

end Render

end CelTree
