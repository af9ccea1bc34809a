/-
**Trees with well-formed names can be read back.**

With kinds and ids behind every element, a rendering of a tree with well-formed names is read from its
end, where the adornment says the kind of the node: what the node ends in is cut off, its last part is
read in the same way, and so on until the text before the node is left.

* `Readable`, `ReadableEntry`: a tree, or an entry, is read from the end of a text, whatever stands
  there in another text. One lemma for each kind of node and entry, from the trees it holds.
* **`readable_of_wellNamed`** — every tree with well-formed names is readable.
-/

import CelTree.Proofs.Render.Words

namespace CelTree

namespace Render

variable {indent : Nat}

/-- The text of a tree with kinds and ids. -/
abbrev adorned (indent : Nat) (tree : Expr) : List Char := tree.layout Adorner.kindsAndIds indent

/-- The text of an entry with kinds and ids. -/
abbrev adornedEntry (indent : Nat) (entry : Entry) : List Char :=
  entry.layout Adorner.kindsAndIds indent

/-- A tree is read from the end of a text, whatever stands there in another text. -/
def Readable (indent : Nat) (tree : Expr) : Prop :=
  ∀ (tree' : Expr) (before before' : List Char), tree'.WellNamed → Opens before → Opens before' →
    before ++ adorned indent tree = before' ++ adorned indent tree' →
      before = before' ∧ tree.identifyNaNs = tree'.identifyNaNs

/-- The same for an entry, which starts a line. -/
def ReadableEntry (indent : Nat) (entry : Entry) : Prop :=
  ReadsLine (adornedEntry indent) Entry.WellNamed Entry.identifyNaNs entry

/-- What is left of a tree without its adornment is read, given the kind of the other tree. -/
def ReadableBody (indent : Nat) (tree : Expr) : Prop :=
  ∀ (tree' : Expr) (before before' : List Char), tree'.WellNamed → Opens before → Opens before' →
    tree.id = tree'.id → tree.kind = tree'.kind →
      before ++ tree.body Adorner.kindsAndIds indent =
        before' ++ tree'.body Adorner.kindsAndIds indent →
          before = before' ∧ tree.identifyNaNs = tree'.identifyNaNs

/-- A tree is readable if its body is, since its adornment is read from the end. -/
theorem ReadableBody.readable {tree : Expr} (reads : ReadableBody indent tree) :
    Readable indent tree := by
  intro tree' before before' named opens opens' same
  unfold adorned Expr.layout at same
  rw [← List.append_assoc, ← List.append_assoc] at same
  obtain ⟨bodies, ids, kinds⟩ := adornment_unique same
  exact reads tree' before before' named opens opens' ids kinds bodies

theorem Readable.readsLine {tree : Expr} (reads : Readable indent tree) :
    ReadsLine (adorned indent) Expr.WellNamed Expr.identifyNaNs tree :=
  fun tree' before before' named starts starts' same =>
    reads tree' before before' named starts.opens starts'.opens same

/-! ### Nodes without lines of their own -/

theorem readable_literal (id : Int) (value : Constant) : Readable indent (.literal id value) := by
  refine ReadableBody.readable fun tree' before before' named opens opens' ids kinds same => ?_
  cases tree' with
  | literal id' value' =>
    obtain rfl : id = id' := ids
    obtain ⟨fronts, values⟩ := literal_unique kinds opens opens' same
    exact ⟨fronts, congrArg (Expr.literal id) values⟩
  | _ => cases value <;> simp [Expr.kind, Constant.kind] at kinds

theorem readable_ident (id : Int) {name : String} (plain : IsPlain name) :
    Readable indent (.ident id name) := by
  refine ReadableBody.readable fun tree' before before' named opens opens' ids kinds same => ?_
  cases tree' with
  | ident id' name' =>
    obtain rfl : id = id' := ids
    obtain ⟨fronts, names⟩ := name_unique plain named opens.stops_plain opens'.stops_plain same
    exact ⟨fronts, congrArg (Expr.ident id) names⟩
  | literal id' value' => cases value' <;> simp [Expr.kind, Constant.kind] at kinds
  | _ => simp [Expr.kind] at kinds

/-- A plain name ends in one of its characters. -/
theorem exists_last_of_plain {name : String} (plain : IsPlain name) :
    ∃ others last, name.toList = others ++ [last] ∧ IsPlainCharacter last := by
  rcases List.eq_nil_or_concat name.toList with empty | ⟨others, last, split⟩
  · exact absurd (String.toList_eq_nil_iff.mp empty) plain.1
  · rw [List.concat_eq_append] at split
    exact ⟨others, last, split, plain.2 last (by rw [split]; simp)⟩

/-- The mark of a select that only tests its field is read off the end. -/
theorem testText_unique {front front' : List Char} {name name' : String} {testOnly testOnly' : Bool}
    (plain : IsPlain name) (plain' : IsPlain name')
    (same : front ++ name.toList ++ testText testOnly =
      front' ++ name'.toList ++ testText testOnly') :
    front ++ name.toList = front' ++ name'.toList ∧ testOnly = testOnly' := by
  have differ {front front' : List Char} {name name' : String} (plain : IsPlain name) :
      front ++ name.toList ++ testText false ≠ front' ++ name'.toList ++ testText true := by
    intro same
    obtain ⟨others, last, ending, lastPlain⟩ := exists_last_of_plain plain
    have mark : testText true = "~test-only".toList ++ ['~'] := by decide
    rw [show testText false = [] from rfl, List.append_nil, ending, mark, ← List.append_assoc,
      ← List.append_assoc] at same
    rw [(last_unique same).2] at lastPlain
    exact absurd lastPlain (by decide)
  cases testOnly <;> cases testOnly'
  · exact ⟨List.append_cancel_right same, rfl⟩
  · exact absurd same (differ plain)
  · exact absurd same.symm (differ plain')
  · exact ⟨List.append_cancel_right same, rfl⟩

/-- A select is readable if its operand is. -/
theorem readable_select (id : Int) {operand : Expr} (reads : Readable indent operand)
    {field : String} (plain : IsPlain field) (testOnly : Bool) :
    Readable indent (.select id operand field testOnly) := by
  refine ReadableBody.readable fun tree' before before' named opens opens' ids kinds same => ?_
  cases tree' with
  | select id' operand' field' testOnly' =>
    obtain ⟨namedOperand, plain'⟩ := named
    obtain rfl : id = id' := ids
    have whole : before ++ (adorned indent operand ++ ['.'] ++ field.toList ++ testText testOnly) =
        before' ++ (adorned indent operand' ++ ['.'] ++ field'.toList ++ testText testOnly') := same
    simp only [← List.append_assoc] at whole
    obtain ⟨fields, rfl⟩ := testText_unique plain plain' whole
    obtain ⟨points, rfl⟩ :=
      name_unique plain plain' (stops_plain_point _) (stops_plain_point _) fields
    obtain ⟨fronts, operands⟩ :=
      reads operand' before before' namedOperand opens opens' (last_unique points).1
    exact ⟨fronts, congrArg (Expr.select id · field testOnly) operands⟩
  | literal id' value' => cases value' <;> simp [Expr.kind, Constant.kind] at kinds
  | _ => simp [Expr.kind] at kinds

/-! ### Calls, lists and structs -/

section Blocks

variable {opening closing : Char} (notComma : opening ≠ ',') (notBlank : opening ≠ ' ')
  (notEnd : opening ≠ '\n')

include notComma notBlank notEnd

/-- Trees between brackets are read from the end of a text. -/
theorem trees_unique {before before' : List Char} {trees trees' : List Expr}
    (reads : ∀ tree ∈ trees, Readable (indent + 1) tree) (named : Expr.WellNamedAll trees')
    (same : before ++ block [opening] [closing] indent
        (Expr.layoutAll Adorner.kindsAndIds (indent + 1) trees) =
      before' ++ block [opening] [closing] indent
        (Expr.layoutAll Adorner.kindsAndIds (indent + 1) trees')) :
    before = before' ∧ Expr.identifyNaNsAll trees = Expr.identifyNaNsAll trees' := by
  rw [Expr.layoutAll_eq_map, Expr.layoutAll_eq_map] at same
  rw [Expr.identifyNaNsAll_eq_map, Expr.identifyNaNsAll_eq_map]
  exact block_unique notComma notBlank notEnd (fun tree member => (reads tree member).readsLine)
    ((Expr.wellNamedAll_iff trees').mp named) same

/-- Entries between brackets are read from the end of a text. -/
theorem entries_unique {before before' : List Char} {entries entries' : List Entry}
    (reads : ∀ entry ∈ entries, ReadableEntry (indent + 1) entry)
    (named : Entry.WellNamedAll entries')
    (same : before ++ block [opening] [closing] indent
        (Entry.layoutAll Adorner.kindsAndIds (indent + 1) entries) =
      before' ++ block [opening] [closing] indent
        (Entry.layoutAll Adorner.kindsAndIds (indent + 1) entries')) :
    before = before' ∧ Entry.identifyNaNsAll entries = Entry.identifyNaNsAll entries' := by
  rw [Entry.layoutAll_eq_map, Entry.layoutAll_eq_map] at same
  rw [Entry.identifyNaNsAll_eq_map, Entry.identifyNaNsAll_eq_map]
  exact block_unique notComma notBlank notEnd reads ((Entry.wellNamedAll_iff entries').mp named) same

end Blocks

/-- What opens a node ends in no point. -/
theorem Opens.ne_point {before : List Char} (opens : Opens before) (front : List Char) :
    before ≠ front ++ ['.'] := by
  rintro rfl
  exact opens.notSelected List.getLast?_concat

theorem readable_call (id : Int) {function : String} (named : IsFunctionName function)
    {args : List Expr} (reads : ∀ arg ∈ args, Readable (indent + 1) arg) :
    Readable indent (.call id function args) := by
  refine ReadableBody.readable fun tree' before before' named' opens opens' ids kinds same => ?_
  cases tree' with
  | call id' function' args' =>
    obtain ⟨namedFunction, namedArgs⟩ := named'
    obtain rfl : id = id' := ids
    have whole : before ++ (function.toList ++ _) = before' ++ (function'.toList ++ _) := same
    rw [← List.append_assoc before, ← List.append_assoc before'] at whole
    obtain ⟨heads, arguments⟩ :=
      trees_unique (by decide) (by decide) (by decide) reads namedArgs whole
    obtain ⟨fronts, rfl⟩ :=
      function_unique named namedFunction opens.toBounds opens'.toBounds heads
    exact ⟨fronts, congrArg (Expr.call id function) arguments⟩
  | memberCall id' target' function' args' =>
    obtain ⟨-, namedFunction, namedArgs⟩ := named'
    have whole : before ++ (function.toList ++ _) =
        before' ++ (adorned indent target' ++ ['.'] ++ function'.toList ++ _) := same
    rw [← List.append_assoc before, ← List.append_assoc before'] at whole
    obtain ⟨heads, -⟩ := trees_unique (by decide) (by decide) (by decide) reads namedArgs whole
    simp only [← List.append_assoc] at heads
    -- the text before the function name ends in a point on one side only
    obtain ⟨points, -⟩ :=
      function_unique named namedFunction opens.toBounds (bounds_point _) heads
    exact absurd points (opens.ne_point _)
  | literal id' value' => cases value' <;> simp [Expr.kind, Constant.kind] at kinds
  | _ => simp [Expr.kind] at kinds

theorem readable_memberCall (id : Int) {target : Expr} (readsTarget : Readable indent target)
    {function : String} (named : IsFunctionName function) {args : List Expr}
    (reads : ∀ arg ∈ args, Readable (indent + 1) arg) :
    Readable indent (.memberCall id target function args) := by
  refine ReadableBody.readable fun tree' before before' named' opens opens' ids kinds same => ?_
  cases tree' with
  | call id' function' args' =>
    obtain ⟨namedFunction, namedArgs⟩ := named'
    have whole : before ++ (adorned indent target ++ ['.'] ++ function.toList ++ _) =
        before' ++ (function'.toList ++ _) := same
    rw [← List.append_assoc before, ← List.append_assoc before'] at whole
    obtain ⟨heads, -⟩ := trees_unique (by decide) (by decide) (by decide) reads namedArgs whole
    simp only [← List.append_assoc] at heads
    obtain ⟨points, -⟩ :=
      function_unique named namedFunction (bounds_point _) opens'.toBounds heads
    exact absurd points.symm (opens'.ne_point _)
  | memberCall id' target' function' args' =>
    obtain ⟨namedTarget, namedFunction, namedArgs⟩ := named'
    obtain rfl : id = id' := ids
    have whole : before ++ (adorned indent target ++ ['.'] ++ function.toList ++ _) =
        before' ++ (adorned indent target' ++ ['.'] ++ function'.toList ++ _) := same
    rw [← List.append_assoc before, ← List.append_assoc before'] at whole
    obtain ⟨heads, arguments⟩ :=
      trees_unique (by decide) (by decide) (by decide) reads namedArgs whole
    simp only [← List.append_assoc] at heads
    obtain ⟨points, rfl⟩ :=
      function_unique named namedFunction (bounds_point _) (bounds_point _) heads
    obtain ⟨fronts, targets⟩ :=
      readsTarget target' before before' namedTarget opens opens' (last_unique points).1
    refine ⟨fronts, ?_⟩
    show Expr.memberCall id target.identifyNaNs function (Expr.identifyNaNsAll args) = _
    rw [targets, arguments]
    rfl
  | literal id' value' => cases value' <;> simp [Expr.kind, Constant.kind] at kinds
  | _ => simp [Expr.kind] at kinds

theorem readable_list (id : Int) {elements : List Expr}
    (reads : ∀ element ∈ elements, Readable (indent + 1) element) :
    Readable indent (.list id elements) := by
  refine ReadableBody.readable fun tree' before before' named opens opens' ids kinds same => ?_
  cases tree' with
  | list id' elements' =>
    obtain rfl : id = id' := ids
    have whole : before ++ block ['['] [']'] indent _ = before' ++ block ['['] [']'] indent _ :=
      same
    obtain ⟨fronts, members⟩ := trees_unique (by decide) (by decide) (by decide) reads named whole
    exact ⟨fronts, congrArg (Expr.list id) members⟩
  | literal id' value' => cases value' <;> simp [Expr.kind, Constant.kind] at kinds
  | _ => simp [Expr.kind] at kinds

theorem readable_struct (id : Int) {message : String} (named : IsMessageName message)
    {entries : List Entry} (reads : ∀ entry ∈ entries, ReadableEntry (indent + 1) entry) :
    Readable indent (.struct id message entries) := by
  refine ReadableBody.readable fun tree' before before' named' opens opens' ids kinds same => ?_
  cases tree' with
  | struct id' message' entries' =>
    obtain ⟨namedMessage, namedEntries⟩ := named'
    obtain rfl : id = id' := ids
    have whole : before ++ (message.toList ++ block ['\x7b'] ['\x7d'] indent _) =
        before' ++ (message'.toList ++ block ['\x7b'] ['\x7d'] indent _) := same
    rw [← List.append_assoc before, ← List.append_assoc before'] at whole
    obtain ⟨heads, members⟩ :=
      entries_unique (by decide) (by decide) (by decide) reads namedEntries whole
    obtain ⟨fronts, rfl⟩ := message_unique named namedMessage opens opens' heads
    exact ⟨fronts, congrArg (Expr.struct id message) members⟩
  | literal id' value' => cases value' <;> simp [Expr.kind, Constant.kind] at kinds
  | _ => simp [Expr.kind] at kinds

/-! ### Entries -/

/-- The mark of an optional entry is read off the end of a margin. -/
theorem optional_unique {before before' : List Char} {optional optional' : Bool}
    (starts : StartsLine before) (starts' : StartsLine before')
    (same : before ++ optionalText optional = before' ++ optionalText optional') :
    before = before' ∧ optional = optional' := by
  have differ {before before' : List Char} (starts : StartsLine before) :
      before ++ optionalText false ≠ before' ++ optionalText true := by
    obtain ⟨front, rfl⟩ := starts
    intro same
    rw [show optionalText false = [] from rfl, List.append_nil] at same
    exact absurd (last_unique (show front ++ [' '] = before' ++ ['?'] from same)).2 (by decide)
  cases optional <;> cases optional'
  · exact ⟨List.append_cancel_right same, rfl⟩
  · exact absurd same (differ starts)
  · exact absurd same.symm (differ starts')
  · exact ⟨List.append_cancel_right same, rfl⟩

/-- The text of a tree ends in its adornment. -/
theorem exists_adorned_eq (indent : Nat) (tree : Expr) :
    ∃ front, adorned indent tree = front ++ ['#'] := by
  refine ⟨tree.body Adorner.kindsAndIds indent ++ ("^#" ++ (Element.node tree).idText ++ ":" ++
    (Element.node tree).kind).toList, ?_⟩
  unfold adorned Expr.layout adornmentText
  simp [Adorner.kindsAndIds]

/-- A value may start behind a key that is a tree. -/
theorem opens_key (before : List Char) (tree : Expr) :
    Opens (before ++ adorned indent tree ++ [':']) := by
  obtain ⟨front, adornment⟩ := exists_adorned_eq indent tree
  rw [adornment, ← List.append_assoc]
  exact opens_mapKey _

/-- A tree does not end like the name of a field. -/
theorem adorned_ne_name {front front' : List Char} {name : String} (plain : IsPlain name)
    (tree : Expr) : front ++ adorned indent tree ≠ front' ++ name.toList := by
  intro same
  obtain ⟨body, adornment⟩ := exists_adorned_eq indent tree
  obtain ⟨others, last, ending, lastPlain⟩ := exists_last_of_plain plain
  rw [adornment, ending, ← List.append_assoc, ← List.append_assoc] at same
  rw [← (last_unique same).2] at lastPlain
  exact absurd lastPlain (by decide)

/-- What is left of an entry without its adornment is read at the start of a line. -/
def ReadableEntryBody (indent : Nat) (entry : Entry) : Prop :=
  ∀ (entry' : Entry) (before before' : List Char), entry'.WellNamed → StartsLine before →
    StartsLine before' → entry.id = entry'.id →
      before ++ entry.body Adorner.kindsAndIds indent =
        before' ++ entry'.body Adorner.kindsAndIds indent →
          before = before' ∧ entry.identifyNaNs = entry'.identifyNaNs

/-- An entry is readable if its body is. -/
theorem ReadableEntryBody.readable {entry : Entry} (reads : ReadableEntryBody indent entry) :
    ReadableEntry indent entry := by
  intro entry' before before' named starts starts' same
  unfold adornedEntry Entry.layout at same
  rw [← List.append_assoc, ← List.append_assoc] at same
  obtain ⟨bodies, ids, -⟩ := adornment_unique same
  exact reads entry' before before' named starts starts' ids bodies

theorem readableEntry_map (id : Int) {key value : Expr} (readsKey : Readable indent key)
    (readsValue : Readable indent value) (optional : Bool) :
    ReadableEntry indent (.map id key value optional) := by
  refine ReadableEntryBody.readable fun entry' before before' named starts starts' ids same => ?_
  cases entry' with
  | map id' key' value' optional' =>
    obtain ⟨namedKey, namedValue⟩ := named
    obtain rfl : id = id' := ids
    have whole : before ++ (optionalText optional ++ adorned indent key ++ [':'] ++
          adorned indent value) =
        before' ++ (optionalText optional' ++ adorned indent key' ++ [':'] ++
          adorned indent value') := same
    simp only [← List.append_assoc] at whole
    obtain ⟨heads, values⟩ :=
      readsValue value' _ _ namedValue (opens_key _ key) (opens_key _ key') whole
    obtain ⟨marks, keys⟩ := readsKey key' _ _ namedKey (starts.opens_optional optional)
      (starts'.opens_optional optional') (last_unique heads).1
    obtain ⟨fronts, rfl⟩ := optional_unique starts starts' marks
    refine ⟨fronts, ?_⟩
    show Entry.map id key.identifyNaNs value.identifyNaNs optional = _
    rw [keys, values]
    rfl
  | field id' name value' optional' =>
    obtain ⟨plain, namedValue⟩ := named
    have whole : before ++ (optionalText optional ++ adorned indent key ++ [':'] ++
          adorned indent value) =
        before' ++ (optionalText optional' ++ name.toList ++ [':'] ++ adorned indent value') := same
    simp only [← List.append_assoc] at whole
    obtain ⟨heads, -⟩ := readsValue value' _ _ namedValue (opens_key _ key)
      (starts'.opens_fieldKey optional' plain) whole
    exact absurd (last_unique heads).1 (adorned_ne_name plain key)

theorem readableEntry_field (id : Int) {name : String} (plain : IsPlain name) {value : Expr}
    (readsValue : Readable indent value) (optional : Bool) :
    ReadableEntry indent (.field id name value optional) := by
  refine ReadableEntryBody.readable fun entry' before before' named starts starts' ids same => ?_
  cases entry' with
  | map id' key' value' optional' =>
    obtain ⟨-, namedValue⟩ := named
    have whole : before ++ (optionalText optional ++ name.toList ++ [':'] ++
          adorned indent value) =
        before' ++ (optionalText optional' ++ adorned indent key' ++ [':'] ++
          adorned indent value') := same
    simp only [← List.append_assoc] at whole
    obtain ⟨heads, -⟩ := readsValue value' _ _ namedValue (starts.opens_fieldKey optional plain)
      (opens_key _ key') whole
    exact absurd (last_unique heads).1.symm (adorned_ne_name plain key')
  | field id' name' value' optional' =>
    obtain ⟨plain', namedValue⟩ := named
    obtain rfl : id = id' := ids
    have whole : before ++ (optionalText optional ++ name.toList ++ [':'] ++
          adorned indent value) =
        before' ++ (optionalText optional' ++ name'.toList ++ [':'] ++
          adorned indent value') := same
    simp only [← List.append_assoc] at whole
    obtain ⟨heads, values⟩ := readsValue value' _ _ namedValue
      (starts.opens_fieldKey optional plain) (starts'.opens_fieldKey optional' plain') whole
    obtain ⟨marks, rfl⟩ := name_unique plain plain' (starts.opens_optional optional).stops_plain
      (starts'.opens_optional optional').stops_plain (last_unique heads).1
    obtain ⟨fronts, rfl⟩ := optional_unique starts starts' marks
    exact ⟨fronts, congrArg (Entry.field id name · optional) values⟩

/-! ### Folds -/

/-- A fold is readable if its parts are, one level further in. -/
theorem readable_comprehension (id : Int) {iterVar accuVar : String} (plainIter : IsPlain iterVar)
    (plainAccu : IsPlain accuVar) {range init condition step result : Expr}
    (readsRange : Readable (indent + 1) range) (readsInit : Readable (indent + 1) init)
    (readsCondition : Readable (indent + 1) condition) (readsStep : Readable (indent + 1) step)
    (readsResult : Readable (indent + 1) result) :
    Readable indent (.comprehension id iterVar "" range accuVar init condition step result) := by
  refine ReadableBody.readable fun tree' before before' named opens opens' ids kinds same => ?_
  cases tree' with
  | comprehension id' iterVar' iterVar2' range' accuVar' init' condition' step' result' =>
    obtain ⟨plainIter', rfl, plainAccu', namedRange, namedInit, namedCondition, namedStep,
      namedResult⟩ := named
    obtain rfl : id = id' := ids
    have starts (front : List Char) (ending name : String) :
        Opens (front ++ heading ending name (indent + 1)) :=
      (startsLine_heading front ending name indent).opens
    rw [Expr.body_comprehension, Expr.body_comprehension] at same
    simp only [← List.append_assoc] at same
    -- part by part from the last one; the label above each part is the same on both sides
    obtain ⟨toResult, results⟩ := readsResult result' _ _ namedResult (starts _ _ _)
      (starts _ _ _) (List.append_cancel_right same)
    obtain ⟨toStep, steps⟩ := readsStep step' _ _ namedStep (starts _ _ _) (starts _ _ _)
      (List.append_cancel_right toResult)
    obtain ⟨toCondition, conditions⟩ := readsCondition condition' _ _ namedCondition
      (starts _ _ _) (starts _ _ _) (List.append_cancel_right toStep)
    obtain ⟨toInit, inits⟩ := readsInit init' _ _ namedInit (starts _ _ _) (starts _ _ _)
      (List.append_cancel_right toCondition)
    obtain ⟨toAccu, accus⟩ := name_unique plainAccu plainAccu' (starts _ _ _).stops_plain
      (starts _ _ _).stops_plain (List.append_cancel_right toInit)
    obtain ⟨toRange, ranges⟩ := readsRange range' _ _ namedRange (starts _ _ _) (starts _ _ _)
      (List.append_cancel_right toAccu)
    obtain ⟨toIter, iters⟩ := name_unique plainIter plainIter' (starts _ _ _).stops_plain
      (starts _ _ _).stops_plain (List.append_cancel_right toRange)
    refine ⟨List.append_cancel_right toIter, ?_⟩
    show Expr.comprehension id iterVar "" range.identifyNaNs accuVar init.identifyNaNs
      condition.identifyNaNs step.identifyNaNs result.identifyNaNs = _
    rw [iters, ranges, accus, inits, conditions, steps, results]
    rfl
  | literal id' value' => cases value' <;> simp [Expr.kind, Constant.kind] at kinds
  | _ => simp [Expr.kind] at kinds

/-! ### Trees -/

mutual

/-- **A tree with well-formed names is read from the end of a text.** -/
theorem readable_of_wellNamed (indent : Nat) :
    ∀ tree : Expr, tree.WellNamed → Readable indent tree
  | .literal id value, _ => readable_literal id value
  | .ident id _, plain => readable_ident id plain
  | .select id operand _ testOnly, ⟨named, plain⟩ =>
    readable_select id (readable_of_wellNamed indent operand named) plain testOnly
  | .call id _ args, ⟨named, namedArgs⟩ =>
    readable_call id named (readable_of_wellNamedAll (indent + 1) args namedArgs)
  | .memberCall id target _ args, ⟨namedTarget, named, namedArgs⟩ =>
    readable_memberCall id (readable_of_wellNamed indent target namedTarget) named
      (readable_of_wellNamedAll (indent + 1) args namedArgs)
  | .list id elements, named =>
    readable_list id (readable_of_wellNamedAll (indent + 1) elements named)
  | .struct id _ entries, ⟨named, namedEntries⟩ =>
    readable_struct id named (readableEntry_of_wellNamedAll (indent + 1) entries namedEntries)
  | .comprehension id _ _ range _ init condition step result,
    ⟨plainIter, rfl, plainAccu, namedRange, namedInit, namedCondition, namedStep, namedResult⟩ =>
    readable_comprehension id plainIter plainAccu
      (readable_of_wellNamed (indent + 1) range namedRange)
      (readable_of_wellNamed (indent + 1) init namedInit)
      (readable_of_wellNamed (indent + 1) condition namedCondition)
      (readable_of_wellNamed (indent + 1) step namedStep)
      (readable_of_wellNamed (indent + 1) result namedResult)

/-- Several trees are readable, each by itself. -/
theorem readable_of_wellNamedAll (indent : Nat) :
    ∀ trees : List Expr, Expr.WellNamedAll trees → ∀ tree ∈ trees, Readable indent tree
  | [], _, _, member => absurd member List.not_mem_nil
  | first :: rest, ⟨named, namedRest⟩, tree, member => by
    rcases List.mem_cons.mp member with same | later
    · rw [same]
      exact readable_of_wellNamed indent first named
    · exact readable_of_wellNamedAll indent rest namedRest tree later

/-- An entry with well-formed names is read from the end of a text. -/
theorem readableEntry_of_wellNamed (indent : Nat) :
    ∀ entry : Entry, entry.WellNamed → ReadableEntry indent entry
  | .map id key value optional, ⟨namedKey, namedValue⟩ =>
    readableEntry_map id (readable_of_wellNamed indent key namedKey)
      (readable_of_wellNamed indent value namedValue) optional
  | .field id _ value optional, ⟨plain, namedValue⟩ =>
    readableEntry_field id plain (readable_of_wellNamed indent value namedValue) optional

theorem readableEntry_of_wellNamedAll (indent : Nat) :
    ∀ entries : List Entry, Entry.WellNamedAll entries →
      ∀ entry ∈ entries, ReadableEntry indent entry
  | [], _, _, member => absurd member List.not_mem_nil
  | first :: rest, ⟨named, namedRest⟩, entry, member => by
    rcases List.mem_cons.mp member with same | later
    · rw [same]
      exact readableEntry_of_wellNamed indent first named
    · exact readableEntry_of_wellNamedAll indent rest namedRest entry later

end

end Render

end CelTree
