/-
**Reading a rendering from its end.**

A text is cut at its end: behind the last character of some sort, or before the last run of some
sort. What stands before a node says where the node starts.

* `cut_unique`, `run_unique`: there is one place to cut.
* `Bounds`, `Opens`: what stands before a function name and before a node. It ends in a blank, a
  question mark or a colon (before a function name also in a point), but not in the head of the name
  of the conditional operator.
* **`adornment_unique`** — an adornment with kinds and ids is read off the end.
* **`block_unique`** — so are members in brackets, if each of them is.
-/

import CelTree.Proofs.Expr.WellNamed
import CelTree.Proofs.Render.Layout
import Mathlib.Data.List.Induction

namespace CelTree.Render

open Text

variable {before before' : List Char}

/-! ### Cuts -/

section Cuts

variable {α : Type} {front front' : List α}

/-- Two cuts of a text are the same if neither front goes on into the rest behind the other. -/
theorem cuts_agree {rest rest' : List α} (same : front ++ rest = front' ++ rest')
    (notLater : ∀ middle, front' = front ++ middle → rest = middle ++ rest' → middle = [])
    (notEarlier : ∀ middle, front = front' ++ middle → rest' = middle ++ rest → middle = []) :
    front = front' ∧ rest = rest' := by
  rcases List.append_eq_append_iff.mp same with ⟨middle, head, tail⟩ | ⟨middle, head, tail⟩
  · obtain rfl := notLater middle head tail
    exact ⟨(List.append_nil front ▸ head).symm, tail⟩
  · obtain rfl := notEarlier middle head tail
    exact ⟨List.append_nil front' ▸ head, tail.symm⟩

/-- A text has one last occurrence of a character. -/
theorem cut_unique {c : α} {rest rest' : List α} (free : c ∉ rest) (free' : c ∉ rest')
    (same : front ++ c :: rest = front' ++ c :: rest') : front = front' ∧ rest = rest' := by
  -- a cut further left would leave the other occurrence in its rest
  have oneWay {rest rest' middle : List α} (free : c ∉ rest)
      (tail : c :: rest = middle ++ c :: rest') : middle = [] := by
    cases middle with
    | nil => rfl
    | cons head others =>
      have inside : c ∈ rest := by
        rw [(List.cons.inj tail).2]
        exact List.mem_append_right others List.mem_cons_self
      exact absurd inside free
  obtain ⟨fronts, rests⟩ :=
    cuts_agree same (fun _ _ tail => oneWay free tail) (fun _ _ tail => oneWay free' tail)
  exact ⟨fronts, (List.cons.inj rests).2⟩

/-- A text has one last run of characters of a sort. -/
theorem run_unique {sort : α → Prop} {run run' : List α} (inside : ∀ c ∈ run, sort c)
    (inside' : ∀ c ∈ run', sort c) (stops : ∀ c ∈ front.getLast?, ¬ sort c)
    (stops' : ∀ c ∈ front'.getLast?, ¬ sort c) (same : front ++ run = front' ++ run') :
    front = front' ∧ run = run' := by
  have oneWay {front front' run run' middle : List α} (inside : ∀ c ∈ run, sort c)
      (stops' : ∀ c ∈ front'.getLast?, ¬ sort c) (head : front' = front ++ middle)
      (tail : run = middle ++ run') : middle = [] := by
    rcases List.eq_nil_or_concat middle with empty | ⟨others, last, split⟩
    · exact empty
    · rw [List.concat_eq_append] at split
      have outside : ¬ sort last := stops' last (by
        rw [head, split, ← List.append_assoc]
        exact List.getLast?_concat)
      exact absurd (inside last (by rw [tail, split]; simp)) outside
  exact cuts_agree same (fun _ head tail => oneWay inside stops' head tail)
    (fun _ head tail => oneWay inside' stops head tail)

theorem mem_getLast?_concat {front : List α} {last c : α} (member : c ∈ (front ++ [last]).getLast?) :
    c = last := by
  rw [List.getLast?_concat] at member
  exact (Option.some.inj member).symm

/-- A text has one last character. -/
theorem last_unique {last last' : α} (same : front ++ [last] = front' ++ [last']) :
    front = front' ∧ last = last' := by
  obtain ⟨fronts, lasts⟩ := List.append_inj' same rfl
  exact ⟨fronts, (List.cons.inj lasts).1⟩

end Cuts

/-! ### What stands before a node -/

/-- A blank, a question mark or a colon. -/
def IsDelimiter (c : Char) : Prop := c = ' ' ∨ c = '?' ∨ c = ':'

instance (c : Char) : Decidable (IsDelimiter c) := inferInstanceAs (Decidable (_ ∨ _))

/-- What stands before the name of a function: it ends in a delimiter or a point, but not in the
head of the name of the conditional operator. -/
structure Bounds (before : List Char) : Prop where
  bounded : ∀ c ∈ before.getLast?, IsDelimiter c ∨ c = '.'
  notConditional : ¬ ['_', '?', '_', ':'] <:+ before

/-- What stands before a node: it bounds a function name, and ends in no point. -/
structure Opens (before : List Char) : Prop extends Bounds before where
  notSelected : before.getLast? ≠ some '.'

/-- An opening ends in a delimiter, if in anything. -/
theorem Opens.delimited (opens : Opens before) : ∀ c ∈ before.getLast?, IsDelimiter c := by
  intro c member
  rcases opens.bounded c member with delimiter | point
  · exact delimiter
  · exact absurd (point ▸ member) opens.notSelected

theorem opens_nil : Opens [] where
  bounded := fun _ member => nomatch member
  notConditional := by decide
  notSelected := by decide

/-- A last character settles the last character of every ending. -/
theorem last_of_suffix {ending : List Char} {last c : Char}
    (suffix : ending ++ [last] <:+ before ++ [c]) : last = c := by
  obtain ⟨front, same⟩ := suffix
  rw [← List.append_assoc] at same
  exact (last_unique same).2

theorem bounds_point (before : List Char) : Bounds (before ++ ['.']) where
  bounded := fun _ member => .inr (mem_getLast?_concat member)
  notConditional := by
    intro suffix
    have colon : ':' = '.' := last_of_suffix (show ['_', '?', '_'] ++ [':'] <:+ _ from suffix)
    exact absurd colon (by decide)

/-- A node may start behind a blank and behind a question mark. -/
theorem opens_of_last {last : Char} (marks : last = ' ' ∨ last = '?') (before : List Char) :
    Opens (before ++ [last]) where
  bounded := fun c member => .inl (by
    rw [mem_getLast?_concat member]
    rcases marks with blank | question
    · exact .inl blank
    · exact .inr (.inl question))
  notConditional := by
    intro suffix
    have colon : ':' = last := last_of_suffix (show ['_', '?', '_'] ++ [':'] <:+ _ from suffix)
    rcases marks with rfl | rfl <;> exact absurd colon (by decide)
  notSelected := by
    rw [List.getLast?_concat]
    rcases marks with rfl | rfl <;> decide

/-- A line at a margin starts with a blank. -/
theorem exists_lineBreak_eq (indent : Nat) : ∃ front, lineBreak (indent + 1) = front ++ [' '] := by
  refine ⟨'\n' :: List.replicate (2 * indent + 1) ' ', ?_⟩
  show '\n' :: List.replicate (2 * indent + 1 + 1) ' ' = _
  rw [List.replicate_succ']
  rfl

/-- What ends in the margin of a line. -/
def StartsLine (before : List Char) : Prop := ∃ front, before = front ++ [' ']

/-- A line break starts a line. -/
theorem startsLine_lineBreak (before : List Char) (indent : Nat) :
    StartsLine (before ++ lineBreak (indent + 1)) := by
  obtain ⟨front, blank⟩ := exists_lineBreak_eq indent
  exact ⟨before ++ front, by rw [blank, List.append_assoc]⟩

theorem startsLine_heading (before : List Char) (ending name : String) (indent : Nat) :
    StartsLine (before ++ heading ending name (indent + 1)) := by
  unfold heading
  rw [← List.append_assoc]
  exact startsLine_lineBreak _ indent

/-- The start of a line is an opening. -/
theorem StartsLine.opens (starts : StartsLine before) : Opens before := by
  obtain ⟨front, rfl⟩ := starts
  exact opens_of_last (.inl rfl) front

/-- The key of a map may start behind the mark of an optional entry. -/
theorem StartsLine.opens_optional (starts : StartsLine before) (optional : Bool) :
    Opens (before ++ optionalText optional) := by
  cases optional with
  | false => exact (List.append_nil before).symm ▸ starts.opens
  | true => exact opens_of_last (.inr rfl) before

/-- A value may start behind a colon, if that does not end the head of the name of the conditional
operator. -/
theorem opens_colon (notConditional : ¬ ['_', '?', '_'] <:+ before) : Opens (before ++ [':']) where
  bounded := fun _ member => .inl (.inr (.inr (mem_getLast?_concat member)))
  notConditional := by
    rintro ⟨front, same⟩
    have heads : front ++ ['_', '?', '_'] ++ [':'] = before ++ [':'] := by
      rw [← same, List.append_assoc]
      rfl
    exact notConditional ⟨front, (last_unique heads).1⟩
  notSelected := by
    rw [List.getLast?_concat]
    decide

/-- A value may start behind a key that ends in its adornment. -/
theorem opens_mapKey (before : List Char) : Opens (before ++ ['#'] ++ [':']) := by
  refine opens_colon fun suffix => ?_
  have under : '_' = '#' := last_of_suffix (show ['_', '?'] ++ ['_'] <:+ _ from suffix)
  exact absurd under (by decide)

/-- A value may start behind the name of a field: the name has no question mark, and none but that
of an optional entry stands before it. -/
theorem StartsLine.opens_fieldKey (starts : StartsLine before) (optional : Bool) {name : String}
    (plain : IsPlain name) : Opens (before ++ optionalText optional ++ name.toList ++ [':']) := by
  refine opens_colon fun suffix => ?_
  obtain ⟨front, same⟩ := suffix
  obtain ⟨margin, rfl⟩ := starts
  have single : ∀ c ∈ ['_'], IsPlainCharacter c := List.all_iff_forall_prop.mp (by decide)
  have question : ¬ IsPlainCharacter '?' := by decide
  have blank : ¬ IsPlainCharacter ' ' := by decide
  have heads : front ++ ['_'] ++ ['?'] ++ ['_'] =
      margin ++ [' '] ++ optionalText optional ++ name.toList := by
    rw [← same]
    simp only [List.append_assoc, List.cons_append, List.nil_append]
  have stops : ∀ c ∈ (front ++ ['_'] ++ ['?']).getLast?, ¬ IsPlainCharacter c := by
    intro c member
    rw [mem_getLast?_concat member]
    exact question
  cases optional with
  | false =>
    rw [show optionalText false = [] from rfl, List.append_nil] at heads
    have stops' : ∀ c ∈ (margin ++ [' ']).getLast?, ¬ IsPlainCharacter c := by
      intro c member
      rw [mem_getLast?_concat member]
      exact blank
    have fronts := (run_unique single plain.2 stops stops' heads).1
    exact absurd (last_unique fronts).2 (by decide)
  | true =>
    rw [show optionalText true = ['?'] from rfl] at heads
    have stops' : ∀ c ∈ (margin ++ [' '] ++ ['?']).getLast?, ¬ IsPlainCharacter c := by
      intro c member
      rw [mem_getLast?_concat member]
      exact question
    have fronts := (run_unique single plain.2 stops stops' heads).1
    exact absurd (last_unique (last_unique fronts).1).2 (by decide)

/-! ### Adornments -/

/-- An adornment with kinds and ids is read off the end of a text. -/
theorem adornment_unique {element element' : Element}
    (same : before ++ adornmentText Adorner.kindsAndIds element =
      before' ++ adornmentText Adorner.kindsAndIds element') :
    before = before' ∧ element.id = element'.id ∧ element.kind = element'.kind := by
  rw [adornmentText_kindsAndIds, adornmentText_kindsAndIds] at same
  have cut : (before ++ ['^'] ++ '#' :: writeInteger element.id) ++
      ':' :: element.kind.toList =
      (before' ++ ['^'] ++ '#' :: writeInteger element'.id) ++ ':' :: element'.kind.toList := by
    have whole : (before ++ ['^'] ++ '#' :: writeInteger element.id) ++
        ':' :: element.kind.toList ++ ['#'] =
        (before' ++ ['^'] ++ '#' :: writeInteger element'.id) ++
          ':' :: element'.kind.toList ++ ['#'] := by
      simpa only [List.append_assoc, List.cons_append, List.nil_append] using same
    exact List.append_cancel_right whole
  have colon (element : Element) : ':' ∉ element.kind.toList := not_mem_kind (by decide) element
  have hash (value : Int) : '#' ∉ writeInteger value :=
    not_mem_writeInteger (by decide) (by decide) value
  obtain ⟨fronts, kinds⟩ := cut_unique (colon _) (colon _) cut
  obtain ⟨carets, ids⟩ := cut_unique (hash _) (hash _) fronts
  exact ⟨List.append_cancel_right carets, writeInteger_injective ids,
    String.toList_injective kinds⟩

/-! ### Members in brackets -/

section Blocks

variable {α β : Type} {text : α → List Char} {WellNamed : α → Prop} {meaning : α → β} {indent : Nat}

/-- A member on a line of its own is read from its end, whatever stands there in another text. -/
def ReadsLine (text : α → List Char) (WellNamed : α → Prop) (meaning : α → β) (member : α) : Prop :=
  ∀ (member' : α) (before before' : List Char), WellNamed member' → StartsLine before →
    StartsLine before' → before ++ text member = before' ++ text member' →
      before = before' ∧ meaning member = meaning member'

/-- What ends a line and begins the next one is read off the end. -/
theorem line_unique {last last' : Char}
    (same : before ++ [last] ++ lineBreak indent = before' ++ [last'] ++ lineBreak indent) :
    before = before' ∧ last = last' :=
  last_unique (List.append_cancel_right same)

theorem members_singleton (first : α) : members indent ([first].map text) = text first :=
  List.append_nil (text first)

/-- The last one of several members stands behind a comma and a line break. -/
theorem append_members_concat (front : List Char) (first last : α) (rest : List α) :
    front ++ members indent ((first :: (rest ++ [last])).map text) =
      front ++ members indent ((first :: rest).map text) ++ [','] ++ lineBreak indent ++
        text last := by
  simp [members]

/-- Members on lines of their own are read from the last one back to the first, which alone stands
behind what is no comma. -/
theorem members_unique {opening : Char} (notComma : opening ≠ ',') {first first' : α}
    {rest rest' : List α}
    (reads : ∀ member ∈ first :: rest, ReadsLine text WellNamed meaning member)
    (named : ∀ member ∈ first' :: rest', WellNamed member)
    (same : before ++ [opening] ++ lineBreak (indent + 1) ++
        members (indent + 1) ((first :: rest).map text) =
      before' ++ [opening] ++ lineBreak (indent + 1) ++
        members (indent + 1) ((first' :: rest').map text)) :
    before = before' ∧ (first :: rest).map meaning = (first' :: rest').map meaning := by
  have starts (front : List Char) := startsLine_lineBreak front indent
  induction rest using List.reverseRecOn generalizing rest' with
  | nil =>
    have readsFirst := reads first List.mem_cons_self
    rcases List.eq_nil_or_concat rest' with rfl | ⟨others, last', rfl⟩
    · rw [members_singleton, members_singleton] at same
      obtain ⟨lines, meanings⟩ :=
        readsFirst first' _ _ (named first' List.mem_cons_self) (starts _) (starts _) same
      exact ⟨(line_unique lines).1, congrArg (fun value => [value]) meanings⟩
    · rw [List.concat_eq_append] at same named
      rw [members_singleton, append_members_concat] at same
      obtain ⟨lines, -⟩ := readsFirst last' _ _ (named last' (by simp)) (starts _) (starts _) same
      exact absurd (line_unique lines).2 notComma
  | append_singleton rest last ih =>
    have readsLast := reads last (by simp)
    rcases List.eq_nil_or_concat rest' with rfl | ⟨others, last', rfl⟩
    · rw [members_singleton, append_members_concat] at same
      obtain ⟨lines, -⟩ := readsLast first' _ _ (named first' (by simp)) (starts _) (starts _) same
      exact absurd (line_unique lines).2.symm notComma
    · rw [List.concat_eq_append] at same named ⊢
      rw [append_members_concat, append_members_concat] at same
      obtain ⟨lines, meanings⟩ :=
        readsLast last' _ _ (named last' (by simp)) (starts _) (starts _) same
      obtain ⟨fronts, others'⟩ := ih
        (fun member inside => reads member (List.mem_append_left [last] inside))
        (fun member inside => named member (List.mem_append_left [last'] inside))
        (line_unique lines).1
      refine ⟨fronts, ?_⟩
      rw [← List.cons_append, ← List.cons_append, List.map_append, List.map_append, others']
      exact congrArg (fun value => _ ++ [value]) meanings

/-- A block without members ends differently from one with members. -/
theorem block_empty_ne {opening closing : Char} (notBlank : opening ≠ ' ') (notEnd : opening ≠ '\n')
    (lines : List Char) :
    before ++ block [opening] [closing] indent [] ≠
      before' ++ ([opening] ++ lineBreak (indent + 1) ++ lines ++ lineBreak indent ++ [closing]) := by
  intro same
  have heads : before ++ [opening] =
      before' ++ ([opening] ++ lineBreak (indent + 1) ++ lines ++ lineBreak indent) := by
    rw [← List.append_assoc] at same
    exact (last_unique ((List.append_assoc before _ _).trans same)).1
  cases indent with
  | zero =>
    rw [show lineBreak 0 = ['\n'] from rfl, ← List.append_assoc] at heads
    exact notEnd (last_unique heads).2
  | succ outer =>
    obtain ⟨front, blank⟩ := exists_lineBreak_eq outer
    rw [blank, ← List.append_assoc, ← List.append_assoc] at heads
    exact notBlank (last_unique heads).2

/-- **Members in brackets are read from their end**, if each of them is. -/
theorem block_unique {opening closing : Char} (notComma : opening ≠ ',') (notBlank : opening ≠ ' ')
    (notEnd : opening ≠ '\n') {inside inside' : List α}
    (reads : ∀ member ∈ inside, ReadsLine text WellNamed meaning member)
    (named : ∀ member ∈ inside', WellNamed member)
    (same : before ++ block [opening] [closing] indent (inside.map text) =
      before' ++ block [opening] [closing] indent (inside'.map text)) :
    before = before' ∧ inside.map meaning = inside'.map meaning := by
  match inside, inside' with
  | [], [] => exact ⟨List.append_cancel_right same, rfl⟩
  | [], first' :: rest' => exact absurd same (block_empty_ne notBlank notEnd _)
  | first :: rest, [] => exact absurd same.symm (block_empty_ne notBlank notEnd _)
  | first :: rest, first' :: rest' =>
    have lines : before ++ ([opening] ++ lineBreak (indent + 1) ++
          members (indent + 1) ((first :: rest).map text) ++ lineBreak indent ++ [closing]) =
        before' ++ ([opening] ++ lineBreak (indent + 1) ++
          members (indent + 1) ((first' :: rest').map text) ++ lineBreak indent ++ [closing]) := same
    simp only [← List.append_assoc] at lines
    exact members_unique notComma reads named
      (List.append_cancel_right (List.append_cancel_right lines))

end Blocks

end CelTree.Render
