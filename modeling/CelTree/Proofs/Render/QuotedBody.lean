/-
**Quoted literals, read back.**

The body of a quoted literal falls into units, and these into fragments: each run of characters
that is as long as it can be is one fragment, and so is each escape.

* `splitAtQuote`: a text up to its first unescaped double quote, and what follows that.
* `readUnits`: the units of a body, where only some letters may start the digits of an escape.
* `Writes`: a piece is some units, whatever follows it. Such pieces can be put together.
* `fragmentsOf`: units as fragments. `flatMap_fragmentsOf`: the numbers of the fragments are those
  of their units, one after the other.
* `QuotedForm.Reads`: a text is a literal of a value. `QuotedForm.Reads.unique`: of one value only.
-/

import CelTree.Literal.Fragment
import CelTree.Proofs.Render.Quoted

namespace CelTree

/-- The fragment is a run of characters. -/
def Fragment.isVerbatim : Fragment → Bool
  | .verbatim _ => true
  | .numbers _ => false

namespace Render

open Text

/-! ### The end of a body -/

/-- A text up to its first double quote that no backslash escapes, and what follows that. `escaped`
says that an escaping backslash stands right before the text. -/
def splitAtQuote (escaped : Bool) : List Char → Option (List Char × List Char)
  | [] => none
  | c :: rest =>
    if escaped = false ∧ c = '"' then some ([], rest)
    else (splitAtQuote (!escaped && c == '\\') rest).map fun split => (c :: split.1, split.2)

/-- The piece holds no unescaped double quote, and it escapes nothing behind it. -/
def PassesQuote (piece : List Char) : Prop :=
  ∀ rest, splitAtQuote false (piece ++ rest) =
    (splitAtQuote false rest).map fun split => (piece ++ split.1, split.2)

namespace PassesQuote

theorem nil : PassesQuote [] := fun _ => Option.map_id'.symm

/-- Texts that pass the closing quote by do so one after the other. -/
theorem append {first second : List Char} (one : PassesQuote first) (two : PassesQuote second) :
    PassesQuote (first ++ second) := by
  intro rest
  rw [List.append_assoc, one, two, Option.map_map]
  congr 1
  funext split
  exact congrArg (·, split.2) (List.append_assoc first second split.1).symm

/-- A character that is neither a double quote nor a backslash. -/
theorem character {c : Char} (notQuote : c ≠ '"') (notBackslash : c ≠ '\\') :
    PassesQuote [c] := by
  intro rest
  have plain : (!false && c == '\\') = false := by simp [notBackslash]
  rw [List.singleton_append, splitAtQuote, if_neg fun both => notQuote both.2, plain]
  rfl

/-- A backslash and any character. -/
theorem escape (c : Char) : PassesQuote ['\\', c] := by
  intro rest
  show splitAtQuote false ('\\' :: c :: rest) = _
  rw [splitAtQuote, if_neg (by decide), splitAtQuote, if_neg (by simp), Option.map_map]
  rfl

theorem text {text : List Char} (plain : ∀ c ∈ text, c ≠ '"' ∧ c ≠ '\\') : PassesQuote text := by
  induction text with
  | nil => exact nil
  | cons c rest ih =>
    obtain ⟨⟨notQuote, notBackslash⟩, others⟩ := List.forall_mem_cons.mp plain
    exact (character notQuote notBackslash).append (ih others)

/-- A body without unescaped double quotes ends at the first one. -/
theorem split {body : List Char} (passes : PassesQuote body) (rest : List Char) :
    splitAtQuote false (body ++ '"' :: rest) = some (body, rest) := by
  rw [passes, splitAtQuote, if_pos ⟨rfl, rfl⟩]
  show some (body ++ [], rest) = _
  rw [List.append_nil]

end PassesQuote

/-! ### Units -/

theorem length_lt_of_readEscape {text rest : List Char} {code : Nat}
    (reads : readEscape text = some (code, rest)) : rest.length < text.length := by
  cases text with
  | nil => cases reads
  | cons letter others =>
    rw [readEscape] at reads
    split at reads
    · cases reads
      exact Nat.lt_succ_self _
    · simp only [Option.bind_eq_bind, Option.bind_eq_some_iff] at reads
      obtain ⟨width, -, code', -, same⟩ := reads
      cases same
      rw [List.length_drop, List.length_cons]
      omega

/-- Reading a unit consumes it. -/
theorem length_lt_of_readUnit {body rest : List Char} {unit : QuotedUnit}
    (reads : readUnit body = some (unit, rest)) : rest.length < body.length := by
  cases body with
  | nil => cases reads
  | cons c others =>
    rw [readUnit] at reads
    split at reads
    · obtain ⟨⟨code, after⟩, escape, same⟩ := Option.map_eq_some_iff.mp reads
      cases same
      exact Nat.lt_succ_of_lt (length_lt_of_readEscape escape)
    · cases reads
      exact Nat.lt_succ_self _

/-- An escape may go on like this after its backslash: with a letter that stands for a code, or with
one of the given letters and as many characters as it needs digits. -/
def startsEscape (digitLetters : List Char) : List Char → Bool
  | [] => false
  | letter :: rest => (shortCode letter).isSome ||
      digitLetters.contains letter && (escapeWidth letter).any (· ≤ rest.length)

/-- A unit may start here: no double quote does, and a backslash only as an escape. -/
def startsUnit (digitLetters : List Char) : List Char → Bool
  | [] => false
  | c :: rest => if c = '\\' then startsEscape digitLetters rest else c ≠ '"'

/-- The units of a body, from left to right. -/
def readUnits (digitLetters : List Char) (body : List Char) : Option (List QuotedUnit) :=
  if body = [] then some []
  else if startsUnit digitLetters body then
    match _reads : readUnit body with
    | some (unit, rest) => (readUnits digitLetters rest).map (unit :: ·)
    | none => none
  else none
termination_by body.length
decreasing_by exact length_lt_of_readUnit ‹_›

theorem readUnits_nil (digitLetters : List Char) : readUnits digitLetters [] = some [] := by
  rw [readUnits, if_pos rfl]

/-- Units are read one by one. -/
theorem readUnits_unit {digitLetters body rest : List Char} {unit : QuotedUnit}
    (starts : startsUnit digitLetters body = true) (reads : readUnit body = some (unit, rest)) :
    readUnits digitLetters body = (readUnits digitLetters rest).map (unit :: ·) := by
  have nonempty : body ≠ [] := by
    rintro rfl
    cases starts
  rw [readUnits, if_neg nonempty, if_pos starts]
  split
  · rename_i unit' rest' reads'
    rw [reads] at reads'
    cases reads'
    rfl
  · rename_i fails
    rw [reads] at fails
    cases fails

/-- The piece is these units, whatever follows it. No double quote in it is unescaped, and it
escapes nothing behind it. -/
structure Writes (digitLetters : List Char) (units : List QuotedUnit) (piece : List Char) :
    Prop where
  reads : ∀ rest, readUnits digitLetters (piece ++ rest) =
    (readUnits digitLetters rest).map (units ++ ·)
  passes : PassesQuote piece

namespace Writes

variable {digitLetters : List Char}

theorem nil : Writes digitLetters [] [] := ⟨fun _ => Option.map_id'.symm, .nil⟩

/-- Units one after the other are written one after the other. -/
theorem append {units units' : List QuotedUnit} {first second : List Char}
    (one : Writes digitLetters units first) (two : Writes digitLetters units' second) :
    Writes digitLetters (units ++ units') (first ++ second) := by
  refine ⟨fun rest => ?_, one.passes.append two.passes⟩
  rw [List.append_assoc, one.reads, two.reads, Option.map_map]
  congr 1
  funext behind
  exact (List.append_assoc units units' behind).symm

/-- A piece that is read as one unit, whatever follows, is written as that unit. -/
theorem unit {unit : QuotedUnit} {piece : List Char}
    (starts : ∀ rest, startsUnit digitLetters (piece ++ rest) = true)
    (reads : ∀ rest, readUnit (piece ++ rest) = some (unit, rest)) (passes : PassesQuote piece) :
    Writes digitLetters [unit] piece :=
  ⟨fun rest => readUnits_unit (starts rest) (reads rest), passes⟩

/-- Pieces that are a unit each, one after the other. -/
theorem flatMap {α : Type} {unit : α → QuotedUnit} {piece : α → List Char}
    (each : ∀ part, Writes digitLetters [unit part] (piece part)) (parts : List α) :
    Writes digitLetters (parts.map unit) (parts.flatMap piece) := by
  induction parts with
  | nil => exact nil
  | cons part others ih => exact (each part).append ih

/-- What is written is read. -/
theorem readUnits_eq {units : List QuotedUnit} {body : List Char}
    (writes : Writes digitLetters units body) : readUnits digitLetters body = some units := by
  have whole := writes.reads []
  rw [List.append_nil, readUnits_nil] at whole
  rw [whole]
  show some (units ++ []) = _
  rw [List.append_nil]

end Writes

/-! ### Fragments -/

/-- One more character at the front: the run of characters there grows, or a new one starts. -/
def prependCharacter (c : Char) : List Fragment → List Fragment
  | .verbatim run :: others => .verbatim (String.ofList (c :: run.toList)) :: others
  | fragments => .verbatim (String.ofList [c]) :: fragments

/-- Units as fragments: characters side by side are one run, and the code of an escape is a
number. -/
def fragmentsOf : List QuotedUnit → List Fragment
  | [] => []
  | .text c :: rest => prependCharacter c (fragmentsOf rest)
  | .code value :: rest => .numbers [value] :: fragmentsOf rest

/-- No two runs of characters stand side by side. -/
def Maximal (fragments : List Fragment) : Prop :=
  fragments.IsChain fun first second => first.isVerbatim = false ∨ second.isVerbatim = false

theorem Maximal.prependCharacter (c : Char) {fragments : List Fragment}
    (maximal : Maximal fragments) : Maximal (prependCharacter c fragments) := by
  match fragments, maximal with
  | [], _ => exact .singleton _
  | .numbers _ :: _, maximal => exact .cons_cons (.inr rfl) maximal
  | [.verbatim _], _ => exact .singleton _
  | .verbatim _ :: second :: _, maximal =>
    -- the longer run is a run too, so the fragment behind it is still none
    obtain ⟨run | behind, others⟩ := List.isChain_cons_cons.mp maximal
    · cases run
    · exact .cons_cons (.inr behind) others

/-- The runs of characters are as long as they can be. -/
theorem fragmentsOf_maximal (units : List QuotedUnit) : Maximal (fragmentsOf units) := by
  induction units with
  | nil => exact .nil
  | cons unit rest ih =>
    cases unit with
    | text c => exact ih.prependCharacter c
    | code value =>
      show Maximal (.numbers [value] :: fragmentsOf rest)
      cases below : fragmentsOf rest with
      | nil => exact .singleton _
      | cons first others =>
        rw [below] at ih
        exact .cons_cons (.inl rfl) ih

section Numbers

variable {numbersOf : Fragment → List Nat} {numbers : QuotedUnit → List Nat}

/-- One more character at the front has its numbers at the front. -/
theorem flatMap_prependCharacter
    (verbatim : ∀ text, numbersOf (.verbatim text) =
      text.toList.flatMap fun c => numbers (.text c))
    (c : Char) (fragments : List Fragment) :
    (prependCharacter c fragments).flatMap numbersOf =
      numbers (.text c) ++ fragments.flatMap numbersOf := by
  have alone : numbersOf (.verbatim (String.ofList [c])) = numbers (.text c) := by
    rw [verbatim, String.toList_ofList, List.flatMap_singleton]
  match fragments with
  | [] =>
    show List.flatMap numbersOf [.verbatim (String.ofList [c])] = _
    rw [List.flatMap_cons, alone]
  | .numbers values :: others =>
    show List.flatMap numbersOf (.verbatim (String.ofList [c]) :: .numbers values :: others) = _
    rw [List.flatMap_cons, alone]
  | .verbatim run :: others =>
    rw [prependCharacter, List.flatMap_cons, List.flatMap_cons, verbatim, verbatim,
      String.toList_ofList, List.flatMap_cons, List.append_assoc]

/-- **The numbers of the fragments are those of their units**, if runs of characters stand for the
numbers of their characters. -/
theorem flatMap_fragmentsOf
    (verbatim : ∀ text, numbersOf (.verbatim text) =
      text.toList.flatMap fun c => numbers (.text c))
    {units : List QuotedUnit}
    (escape : ∀ value, .code value ∈ units → numbersOf (.numbers [value]) = numbers (.code value)) :
    (fragmentsOf units).flatMap numbersOf = units.flatMap numbers := by
  induction units with
  | nil => rfl
  | cons unit rest ih =>
    have below := ih fun value member => escape value (List.mem_cons_of_mem _ member)
    rw [List.flatMap_cons, ← below]
    cases unit with
    | text c => exact flatMap_prependCharacter verbatim c _
    | code value => rw [fragmentsOf, List.flatMap_cons, escape value List.mem_cons_self]

end Numbers

/-! ### Literals -/

/-- How a kind of literal is quoted: what stands before its body, which letters start the digits of
an escape, and what its fragments are assembled to. -/
structure QuotedForm (β : Type) where
  opening : List Char
  digitLetters : List Char
  assemble : List Fragment → Except LiteralError β

/-- The text is a literal of the value. Behind the opening and before a last double quote stands a
body without unescaped double quotes. Its fragments, with runs of characters that are as long as
they can be, are assembled to the value. -/
def QuotedForm.Reads {β : Type} (form : QuotedForm β) (quoted : List Char) (value : β) : Prop :=
  ∃ body fragments, quoted = form.opening ++ body ++ ['"'] ∧
    splitAtQuote false body = none ∧
    (∀ rest, splitAtQuote false (body ++ '"' :: rest) = some (body, rest)) ∧
    (readUnits form.digitLetters body).map fragmentsOf = some fragments ∧ Maximal fragments ∧
    form.assemble fragments = .ok value

namespace QuotedForm

variable {β : Type} {form : QuotedForm β}

/-- A text is a literal of one value only. -/
theorem Reads.unique {quoted : List Char} {value value' : β} (reads : form.Reads quoted value)
    (reads' : form.Reads quoted value') : value = value' := by
  obtain ⟨body, fragments, rfl, -, -, read, -, assembled⟩ := reads
  obtain ⟨body', fragments', same, -, -, read', -, assembled'⟩ := reads'
  have bodySame : body = body' := List.append_cancel_left (List.append_cancel_right same)
  subst bodySame
  rw [read] at read'
  cases read'
  rw [assembled] at assembled'
  cases assembled'
  rfl

/-- A body of units between the quotes is a literal of what their fragments are assembled to. -/
theorem reads_of_writes (form : QuotedForm β) {units : List QuotedUnit} {body : List Char}
    {value : β} (writes : Writes form.digitLetters units body)
    (assembled : form.assemble (fragmentsOf units) = .ok value) :
    form.Reads (form.opening ++ body ++ ['"']) value := by
  have unclosed : splitAtQuote false body = none := by
    have whole := writes.passes []
    rwa [List.append_nil] at whole
  refine ⟨body, fragmentsOf units, rfl, unclosed, writes.passes.split, ?_,
    fragmentsOf_maximal units, assembled⟩
  rw [writes.readUnits_eq]
  rfl

end QuotedForm

end Render

end CelTree
