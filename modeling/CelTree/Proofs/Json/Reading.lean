/-
**A written document reads back.**

The tokens of a compact text are those of its parts, since every value ends at a separator, a bracket
or the end. The reader goes over the tokens of a value as over one token: it was about to read a
value, and then has one.

* `Json.Proper`: numbers are spelled as numbers, and strings end at their closing quotes.
* `Json.tokenList`: the tokens of a value. `Json.lexes_write`: they are those of its text.
* `Json.finish_tokenList`: what the reader makes of them.
* **`Json.read_write`** — the text of a proper document is read as that document.
-/

import CelTree.Json.Reader
import CelTree.Proofs.Json.Numbers
import CelTree.Proofs.Json.Strings

namespace CelTree

namespace Json

open CelTree.Text

/-! ### Tokens of a text -/

/-- What may follow a number or a word: nothing, or a character of neither. -/
def EndsScalar (rest : List Char) : Prop :=
  ∀ c after, rest = c :: after → isScalarChar c = false

/-- The text has these tokens, whatever follows it that does not continue a number or a word. -/
def Lexes (text : List Char) (found : List Token) : Prop :=
  ∀ rest, EndsScalar rest → tokens (text ++ rest) = (tokens rest).map (found ++ ·)

/-- A bracket or a separator is no blank, no quote and no character of a number or word. -/
theorem ends_of_punctuation {c : Char} {token : Token} (named : punctuation c = some token) :
    isBlank c = false ∧ c ≠ '"' ∧ isScalarChar c = false := by
  unfold punctuation at named
  split at named
  iterate 6 exact ⟨rfl, by decide, rfl⟩
  cases named

/-- A bracket or a separator ends a number or a word. -/
theorem EndsScalar.punctuation {c : Char} {token : Token} (named : Json.punctuation c = some token)
    (rest : List Char) : EndsScalar (c :: rest) := by
  rintro _ _ ⟨⟩
  exact (ends_of_punctuation named).2.2

theorem tokens_punctuation {c : Char} {token : Token} (named : punctuation c = some token)
    (rest : List Char) : tokens (c :: rest) = (tokens rest).map (token :: ·) := by
  obtain ⟨notBlank, notQuote, -⟩ := ends_of_punctuation named
  rw [tokens, notBlank, if_neg Bool.false_ne_true, if_neg notQuote]
  simp only [named]

/-- A string ends at its closing quote. -/
theorem tokens_string {body : List Char} (closed : ClosedBody body) (rest : List Char) :
    tokens ('"' :: (body ++ '"' :: rest)) = (tokens rest).map (Token.string body :: ·) := by
  rw [tokens, if_neg (by decide), if_pos rfl]
  split
  · rename_i found after split
    rw [closed rest] at split
    cases split
    rfl
  · rename_i split
    rw [closed rest] at split
    cases split

namespace Lexes

theorem nil : Lexes [] [] := fun rest _ => by
  show tokens rest = (tokens rest).map id
  rw [Option.map_id, id]

/-- A bracket or a separator, then a text. -/
theorem cons {c : Char} {token : Token} {text : List Char} {found : List Token}
    (named : punctuation c = some token) (lexes : Lexes text found) :
    Lexes (c :: text) (token :: found) := by
  intro rest ends
  show tokens (c :: (text ++ rest)) = _
  rw [tokens_punctuation named, lexes rest ends, Option.map_map]
  rfl

/-- A text in quotes, then another text. -/
theorem quoted {body text : List Char} {found : List Token} (closed : ClosedBody body)
    (lexes : Lexes text found) :
    Lexes ('"' :: (body ++ '"' :: text)) (.string body :: found) := by
  intro rest ends
  have shape : '"' :: (body ++ '"' :: text) ++ rest = '"' :: (body ++ '"' :: (text ++ rest)) := by
    simp
  rw [shape, tokens_string closed, lexes rest ends, Option.map_map]
  rfl

/-- Two texts around a bracket or a separator. -/
theorem around {c : Char} {token : Token} {first second : List Char} {found found' : List Token}
    (one : Lexes first found) (named : punctuation c = some token) (two : Lexes second found') :
    Lexes (first ++ c :: second) (found ++ token :: found') := by
  intro rest ends
  have between := two.cons named rest ends
  rw [List.cons_append] at between
  rw [List.append_assoc, List.cons_append, one _ (.punctuation named _), between, Option.map_map]
  congr 1
  funext others
  exact (List.append_assoc _ _ _).symm

/-- A number or a word. -/
theorem scalar {run : List Char} {value : Json} (reads : Json.scalar run = some value)
    (characters : ∀ c ∈ run, isScalarChar c = true) (nonempty : run ≠ []) :
    Lexes run [.scalar value] := by
  intro rest ends
  have whole : (run ++ rest).takeWhile isScalarChar = run := by
    rw [List.takeWhile_append_of_pos characters]
    cases rest with
    | nil => exact List.append_nil run
    | cons c after =>
      rw [List.takeWhile_cons, ends c after rfl, if_neg Bool.false_ne_true, List.append_nil]
  obtain ⟨c, more, rfl⟩ := List.exists_cons_of_ne_nil nonempty
  obtain ⟨here, below⟩ := List.forall_mem_cons.mp characters
  have others : (more ++ rest).dropWhile isScalarChar = rest := by
    rw [List.dropWhile_append_of_pos below]
    cases rest with
    | nil => rfl
    | cons c after => rw [List.dropWhile_cons, ends c after rfl, if_neg Bool.false_ne_true]
  have notBlank : isBlank c = false := by
    rw [Bool.eq_false_iff]
    intro blank
    simp only [isBlank, Bool.or_eq_true, beq_iff_eq] at blank
    rcases blank with ((rfl | rfl) | rfl) | rfl <;> cases here
  have notQuote : c ≠ '"' := by
    rintro rfl
    cases here
  have unnamed : punctuation c = none := by
    rw [Option.eq_none_iff_forall_ne_some]
    intro token named
    rw [(ends_of_punctuation named).2.2] at here
    cases here
  show tokens (c :: (more ++ rest)) = _
  rw [tokens, notBlank, if_neg Bool.false_ne_true, if_neg notQuote, unnamed]
  rw [List.cons_append] at whole
  simp only [whole, reads, others]
  rfl

end Lexes

end Json

/-! ### Documents -/

open Json

mutual

/-- Numbers are spelled as numbers, and strings end at their closing quotes. -/
def Json.Proper : Json → Prop
  | .null => True
  | .bool _ => True
  | .number spelling => isNumber spelling = true
  | .string body => ClosedBody body
  | .array items => Json.ProperAll items
  | .object members => Member.ProperAll members

/-- Several proper values. -/
def Json.ProperAll : List Json → Prop
  | [] => True
  | first :: rest => first.Proper ∧ Json.ProperAll rest

/-- A proper value under a key that ends at its closing quote. -/
def Member.Proper : Member → Prop
  | .mk key value => ClosedBody key ∧ value.Proper

/-- Several proper members. -/
def Member.ProperAll : List Member → Prop
  | [] => True
  | first :: rest => first.Proper ∧ Member.ProperAll rest

end

mutual

/-- The tokens of a value. -/
def Json.tokenList : Json → List Token
  | .null => [.scalar .null]
  | .bool value => [.scalar (.bool value)]
  | .number spelling => [.scalar (.number spelling)]
  | .string body => [.string body]
  | .array items => .openArray :: (Json.tokenListAll items ++ [.closeArray])
  | .object members => .openObject :: (Member.tokenListAll members ++ [.closeObject])

/-- The tokens of several values with commas between them. -/
def Json.tokenListAll : List Json → List Token
  | [] => []
  | [last] => last.tokenList
  | first :: second :: rest => first.tokenList ++ .comma :: Json.tokenListAll (second :: rest)

/-- The tokens of a member. -/
def Member.tokenList : Member → List Token
  | .mk key value => .string key :: .colon :: value.tokenList

/-- The tokens of several members with commas between them. -/
def Member.tokenListAll : List Member → List Token
  | [] => []
  | [last] => last.tokenList
  | first :: second :: rest => first.tokenList ++ .comma :: Member.tokenListAll (second :: rest)

end

theorem Json.scalar_number {spelling : List Char} (number : isNumber spelling = true) :
    scalar spelling = some (.number spelling) := by
  unfold scalar
  split
  iterate 3 exact absurd number (by decide)
  rw [if_pos number]

mutual

/-- **The text of a proper value has the tokens of that value.** -/
theorem Json.lexes_write : (json : Json) → json.Proper → Lexes json.write json.tokenList
  | .null, _ => .scalar rfl (List.all_eq_true.mp rfl) (List.cons_ne_nil _ _)
  | .bool true, _ => .scalar rfl (List.all_eq_true.mp rfl) (List.cons_ne_nil _ _)
  | .bool false, _ => .scalar rfl (List.all_eq_true.mp rfl) (List.cons_ne_nil _ _)
  | .number spelling, proper => by
    have number : isNumber spelling = true := proper
    refine .scalar (scalar_number number) (isScalarChar_of_isNumber number) ?_
    rintro rfl
    cases number
  | .string body, proper => Lexes.nil.quoted proper
  | .array items, proper =>
    ((Json.lexes_writeAll items proper).around rfl .nil).cons rfl
  | .object members, proper =>
    ((Member.lexes_writeAll members proper).around rfl .nil).cons rfl

/-- The texts of several values have the tokens of these, with commas between. -/
theorem Json.lexes_writeAll :
    (items : List Json) → Json.ProperAll items → Lexes (Json.writeAll items) (Json.tokenListAll items)
  | [], _ => .nil
  | [last], ⟨proper, _⟩ => last.lexes_write proper
  | first :: second :: rest, ⟨proper, others⟩ =>
    (first.lexes_write proper).around rfl (Json.lexes_writeAll (second :: rest) others)

/-- The text of a member has the tokens of its key and its value. -/
theorem Member.lexes_write : (member : Member) → member.Proper → Lexes member.write member.tokenList
  | .mk _ value, ⟨closed, proper⟩ => .quoted closed ((value.lexes_write proper).cons rfl)

theorem Member.lexes_writeAll :
    (members : List Member) → Member.ProperAll members →
      Lexes (Member.writeAll members) (Member.tokenListAll members)
  | [], _ => .nil
  | [last], ⟨proper, _⟩ => last.lexes_write proper
  | first :: second :: rest, ⟨proper, others⟩ =>
    (first.lexes_write proper).around rfl (Member.lexes_writeAll (second :: rest) others)

end

/-! ### The reader -/

mutual

/-- **The reader goes over the tokens of a value as over one token.** -/
theorem Json.finish_tokenList : (json : Json) → (frames : List Frame) → (orEnd : Bool) →
    (rest : List Token) →
      Reader.finish ⟨frames, .value orEnd⟩ (json.tokenList ++ rest) =
        Reader.finish ⟨frames, .separator json⟩ rest
  | .null, _, _, _ => rfl
  | .bool _, _, _, _ => rfl
  | .number _, _, _, _ => rfl
  | .string _, _, _, _ => rfl
  | .array items, frames, _, rest => by
    rw [Json.tokenList, List.cons_append, List.append_assoc]
    by_cases empty : items = []
    · subst empty
      rfl
    · exact Json.finish_tokenListAll items empty [] frames true rest
  | .object members, frames, _, rest => by
    rw [Json.tokenList, List.cons_append, List.append_assoc]
    by_cases empty : members = []
    · subst empty
      rfl
    · exact Member.finish_tokenListAll members empty [] frames true rest

/-- The reader fills an open array up to its end. -/
theorem Json.finish_tokenListAll : (items : List Json) → items ≠ [] → (done : List Json) →
    (frames : List Frame) → (orEnd : Bool) → (rest : List Token) →
      Reader.finish ⟨.array done :: frames, .value orEnd⟩
          (Json.tokenListAll items ++ .closeArray :: rest) =
        Reader.finish ⟨frames, .separator (.array (done ++ items))⟩ rest
  | [], nonempty, _, _, _, _ => absurd rfl nonempty
  | [last], _, done, frames, orEnd, rest => by
    rw [Json.tokenListAll, last.finish_tokenList]
    rfl
  | first :: second :: others, _, done, frames, orEnd, rest => by
    have onwards := Json.finish_tokenListAll (second :: others) (List.cons_ne_nil _ _)
      (done ++ [first]) frames false rest
    rw [List.append_assoc] at onwards
    rw [Json.tokenListAll, List.append_assoc, first.finish_tokenList]
    exact onwards

/-- The reader goes over a member as over its key, a colon and its value. -/
theorem Member.finish_tokenList : (member : Member) → (done : List Member) →
    (frames : List Frame) → (orEnd : Bool) → (rest : List Token) →
      Reader.finish ⟨frames, .key done orEnd⟩ (member.tokenList ++ rest) =
        Reader.finish ⟨.object done member.key :: frames, .separator member.value⟩ rest
  | .mk _ value, _, _, _, rest => value.finish_tokenList _ false rest

/-- The reader fills an open object up to its end. -/
theorem Member.finish_tokenListAll : (members : List Member) → members ≠ [] →
    (done : List Member) → (frames : List Frame) → (orEnd : Bool) → (rest : List Token) →
      Reader.finish ⟨frames, .key done orEnd⟩
          (Member.tokenListAll members ++ .closeObject :: rest) =
        Reader.finish ⟨frames, .separator (.object (done ++ members))⟩ rest
  | [], nonempty, _, _, _, _ => absurd rfl nonempty
  | [.mk key value], _, done, frames, orEnd, rest => by
    rw [Member.tokenListAll, Member.finish_tokenList]
    rfl
  | .mk key value :: second :: others, _, done, frames, orEnd, rest => by
    have onwards := Member.finish_tokenListAll (second :: others) (List.cons_ne_nil _ _)
      (done ++ [.mk key value]) frames false rest
    rw [List.append_assoc] at onwards
    rw [Member.tokenListAll, List.append_assoc, Member.finish_tokenList]
    exact onwards

end

/-- **The text of a proper document is read as that document.** -/
theorem Json.read_write {json : Json} (proper : json.Proper) :
    Json.read (String.ofList json.write) = some json := by
  have found := json.lexes_write proper [] (by rintro _ _ ⟨⟩)
  rw [List.append_nil, tokens, Option.map_some, List.append_nil] at found
  have finished := json.finish_tokenList [] false []
  rw [List.append_nil] at finished
  rw [Json.read, String.toList_ofList, found]
  exact finished

end CelTree
