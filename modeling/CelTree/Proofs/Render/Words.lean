/-
**Names and constants read from their end.**

Names and unquoted constants hold no delimiter, and delimiters stand before them. A quoted constant
starts at its last double quote that no backslash escapes.

* **`name_unique`**, **`message_unique`** — a name is read off the end of a text.
* **`function_unique`** — so is a function name, although the conditional operator's name holds
  delimiters.
* **`literal_unique`** — so is a constant, up to what is not a number.
-/

import CelTree.Proofs.Double.Characters
import CelTree.Proofs.Render.Quoted
import CelTree.Proofs.Render.Reading

namespace CelTree.Render

open Text

variable {before before' : List Char}

/-! ### Names -/

/-- No character of a plain name is a delimiter. -/
theorem not_isDelimiter_of_plain {c : Char} (plain : IsPlainCharacter c) : ¬ IsDelimiter c := by
  rintro (rfl | rfl | rfl) <;> exact absurd plain (by decide)

/-- A text without delimiters is read off the end, behind a delimiter. -/
theorem word_unique {word word' : List Char} (free : ∀ c ∈ word, ¬ IsDelimiter c)
    (free' : ∀ c ∈ word', ¬ IsDelimiter c) (opens : Opens before) (opens' : Opens before')
    (same : before ++ word = before' ++ word') : before = before' ∧ word = word' := by
  have stops {front : List Char} (opens : Opens front) :
      ∀ c ∈ front.getLast?, ¬ ¬ IsDelimiter c :=
    fun c member => not_not.mpr (opens.delimited c member)
  exact run_unique free free' (stops opens) (stops opens') same

/-- A plain name behind what is no part of one. -/
theorem name_unique {name name' : String} (plain : IsPlain name) (plain' : IsPlain name')
    (stops : ∀ c ∈ before.getLast?, ¬ IsPlainCharacter c)
    (stops' : ∀ c ∈ before'.getLast?, ¬ IsPlainCharacter c)
    (same : before ++ name.toList = before' ++ name'.toList) : before = before' ∧ name = name' := by
  obtain ⟨fronts, names⟩ := run_unique plain.2 plain'.2 stops stops' same
  exact ⟨fronts, String.toList_injective names⟩

/-- A plain name does not extend into what opens it. -/
theorem Opens.stops_plain (opens : Opens before) : ∀ c ∈ before.getLast?, ¬ IsPlainCharacter c :=
  fun c member plain => not_isDelimiter_of_plain plain (opens.delimited c member)

theorem stops_plain_point (before : List Char) :
    ∀ c ∈ (before ++ ['.']).getLast?, ¬ IsPlainCharacter c := by
  intro c member
  rw [mem_getLast?_concat member]
  decide

/-- The name of a message holds no delimiter. -/
theorem not_isDelimiter_of_message {message : String} (named : IsMessageName message) :
    ∀ c ∈ message.toList, ¬ IsDelimiter c := by
  obtain ⟨parts, plain, rfl⟩ := named
  induction parts with
  | nil => exact fun c member => absurd member (by simp)
  | cons first rest ih =>
    have here : ∀ c ∈ first.toList, ¬ IsDelimiter c := fun c member =>
      not_isDelimiter_of_plain ((plain first List.mem_cons_self).2 c member)
    have there := ih fun part member => plain part (List.mem_cons_of_mem first member)
    by_cases last : rest = []
    · rw [last, String.intercalate_singleton]
      exact here
    · rw [String.intercalate_cons_of_ne_nil last]
      intro c member
      simp only [String.toList_append, List.mem_append] at member
      rcases member with (inside | point) | later
      · exact here c inside
      · rw [List.mem_singleton.mp point]
        decide
      · exact there c later

/-- A message name behind an opening is determined by the text. -/
theorem message_unique {message message' : String} (named : IsMessageName message)
    (named' : IsMessageName message') (opens : Opens before) (opens' : Opens before')
    (same : before ++ message.toList = before' ++ message'.toList) :
    before = before' ∧ message = message' := by
  obtain ⟨fronts, names⟩ := word_unique (not_isDelimiter_of_message named)
    (not_isDelimiter_of_message named') opens opens' same
  exact ⟨fronts, String.toList_injective names⟩

/-! ### Function names -/

/-- A delimiter or a point. -/
def IsBound (c : Char) : Prop := IsDelimiter c ∨ c = '.'

instance (c : Char) : Decidable (IsBound c) := inferInstanceAs (Decidable (_ ∨ _))

theorem not_isBound_of_plain {c : Char} (plain : IsPlainCharacter c) : ¬ IsBound c := by
  rintro (delimiter | rfl)
  · exact not_isDelimiter_of_plain plain delimiter
  · exact absurd plain (by decide)

/-- No function name but that of the conditional operator holds a bound. -/
theorem not_isBound_of_function {function : String} (named : IsFunctionName function) :
    function = "_?_:_" ∨ ∀ c ∈ function.toList, ¬ IsBound c := by
  have operators {operator : String} (operator' : IsOperator operator) :
      ∀ c ∈ operator.toList, ¬ IsBound c := by
    have each : ∀ c ∈ ['+', '-', '*', '/', '%', '<', '>', '=', '!', '&', '|'], ¬ IsBound c :=
      List.all_iff_forall_prop.mp (by decide)
    exact fun c member => each c (operator'.2 c member)
  cases named with
  | plain plain => exact .inr fun c member => not_isBound_of_plain (plain.2 c member)
  | internal plain =>
    refine .inr fun c member => ?_
    rw [String.toList_append] at member
    rcases List.mem_append.mp member with sign | inside
    · rw [List.mem_singleton.mp sign]
      decide
    · exact not_isBound_of_plain (plain.2 c inside)
  | index => exact .inr (List.all_iff_forall_prop.mp (by decide))
  | conditional => exact .inl rfl
  | unary operator' =>
    refine .inr fun c member => ?_
    rw [String.toList_append] at member
    rcases List.mem_append.mp member with inside | blank
    · exact operators operator' c inside
    · rw [List.mem_singleton.mp blank]
      decide
  | binary operator' =>
    refine .inr fun c member => ?_
    rw [String.toList_append, String.toList_append] at member
    rcases List.mem_append.mp member with left | blank
    · rcases List.mem_append.mp left with blank | inside
      · rw [List.mem_singleton.mp blank]
        decide
      · exact operators operator' c inside
    · rw [List.mem_singleton.mp blank]
      decide

/-- A function name ends in no shorter one, if what remains of it bounds a function name. -/
theorem head_eq_nil_of_split {function function' : String} {front head : List Char}
    (named : IsFunctionName function) (named' : IsFunctionName function')
    (bounds : Bounds (front ++ head)) (split : function.toList = head ++ function'.toList) :
    head = [] := by
  rcases List.eq_nil_or_concat head with empty | ⟨others, last, rfl⟩
  · exact empty
  · rw [List.concat_eq_append] at bounds split ⊢
    have bound : IsBound last := bounds.bounded last (by
      rw [← List.append_assoc]
      exact List.getLast?_concat)
    rcases not_isBound_of_function named with rfl | free
    · -- what remains of the conditional operator's name ends in a question mark or a colon
      rcases not_isBound_of_function named' with rfl | free'
      · have lengths := congrArg List.length split
        simp at lengths
      · have whole : others ++ [last] ++ function'.toList = ['_', '?', '_'] ++ [':'] ++ ['_'] :=
          split.symm
        have stops {c : Char} (bound : IsBound c) (front : List Char) :
            ∀ d ∈ (front ++ [c]).getLast?, ¬ ¬ IsBound d := by
          intro d member
          rw [mem_getLast?_concat member]
          exact not_not.mpr bound
        have heads := (run_unique free' (List.all_iff_forall_prop.mp (by decide)) (stops bound others)
          (stops (by decide) ['_', '?', '_']) whole).1
        rw [heads] at bounds
        exact absurd ⟨front, rfl⟩ bounds.notConditional
    · exact absurd bound (free last (by rw [split]; simp))

/-- A function name behind a bound is determined by the text. -/
theorem function_unique {function function' : String} (named : IsFunctionName function)
    (named' : IsFunctionName function') (bounds : Bounds before) (bounds' : Bounds before')
    (same : before ++ function.toList = before' ++ function'.toList) :
    before = before' ∧ function = function' := by
  obtain ⟨fronts, names⟩ := cuts_agree same
    (fun _ front split => head_eq_nil_of_split named named' (front ▸ bounds') split)
    (fun _ front split => head_eq_nil_of_split named' named (front ▸ bounds) split)
  exact ⟨fronts, String.toList_injective names⟩

/-! ### Constants -/

theorem not_isDelimiter_of_digit {c : Char} (digit : isDigitOf 10 c = true) : ¬ IsDelimiter c := by
  exact of_isDigitOf digit (by decide)

theorem not_isDelimiter_text (x : Double) : ∀ c ∈ x.text, ¬ IsDelimiter c := by
  intro c member
  rcases Double.mem_text member with digit | other
  · exact not_isDelimiter_of_digit digit
  · have each : ∀ c ∈ ['.', '+', '-', 'e', 'I', 'n', 'f', 'N', 'a'], ¬ IsDelimiter c :=
      List.all_iff_forall_prop.mp (by decide)
    exact each c other

theorem not_isDelimiter_writeDecimal (value : Nat) : ∀ c ∈ writeDecimal value, ¬ IsDelimiter c :=
  fun _ member => not_isDelimiter_of_digit (isDigitOf_of_mem_writeDecimal member)

theorem not_isDelimiter_writeInteger (value : Int) : ∀ c ∈ writeInteger value, ¬ IsDelimiter c := by
  intro c member
  rcases mem_writeInteger member with digit | rfl
  · exact not_isDelimiter_of_digit digit
  · decide

/-- A quoted body is read off the end, behind what is no backslash. -/
theorem quoted_unique {α : Type} {meaning : QuotedUnit → List α} {values values' : List α}
    {body body' : List Char} (spells : Spells meaning values body)
    (spells' : Spells meaning values' body') (stops : '\\' ∉ before.getLast?)
    (stops' : '\\' ∉ before'.getLast?)
    (same : before ++ '"' :: (body ++ ['"']) = before' ++ '"' :: (body' ++ ['"'])) :
    before = before' ∧ values = values' := by
  have oneWay {front front' body body' middle : List Char} {values : List α}
      (spells : Spells meaning values body) (stops' : '\\' ∉ front'.getLast?)
      (head : front' = front ++ middle) (tail : '"' :: body = middle ++ '"' :: body') :
      middle = [] := by
    cases middle with
    | nil => rfl
    | cons first others =>
      obtain ⟨rfl, inBody⟩ := List.cons.inj tail
      obtain ⟨escaped, rfl⟩ := spells.quote_escaped inBody
      refine absurd ?_ stops'
      rw [head, ← List.cons_append, ← List.append_assoc]
      exact List.getLast?_concat
  have heads : before ++ '"' :: body = before' ++ '"' :: body' := by
    rw [← List.cons_append, ← List.cons_append, ← List.append_assoc, ← List.append_assoc] at same
    exact (last_unique same).1
  obtain ⟨fronts, bodies⟩ := cuts_agree heads
    (fun _ head tail => oneWay spells stops' head tail)
    (fun _ head tail => oneWay spells' stops head tail)
  obtain ⟨-, rfl⟩ := List.cons.inj bodies
  exact ⟨fronts, spells.unique spells'⟩

theorem Opens.stops_backslash (opens : Opens before) : '\\' ∉ before.getLast? :=
  fun member => absurd (opens.delimited '\\' member) (by decide)

theorem stops_backslash_concat {last : Char} (other : '\\' ≠ last) (before : List Char) :
    '\\' ∉ (before ++ [last]).getLast? := fun member => other (mem_getLast?_concat member)

/-- **A constant is read off the end**, up to what is not a number. -/
theorem literal_unique {value value' : Constant} (kinds : value.kind = value'.kind)
    (opens : Opens before) (opens' : Opens before')
    (same : before ++ literalText value = before' ++ literalText value') :
    before = before' ∧ value.identifyNaN = value'.identifyNaN := by
  have words {word word' : List Char} (free : ∀ c ∈ word, ¬ IsDelimiter c)
      (free' : ∀ c ∈ word', ¬ IsDelimiter c) (same : before ++ word = before' ++ word') :
      before = before' ∧ word = word' := word_unique free free' opens opens' same
  cases value with
  | null =>
    cases value' with
    | null => exact ⟨List.append_cancel_right same, rfl⟩
    | _ => simp [Constant.kind] at kinds
  | bool value =>
    cases value' with
    | bool value' =>
      have free (value : Bool) : ∀ c ∈ literalText (.bool value), ¬ IsDelimiter c := by
        cases value <;> exact List.all_iff_forall_prop.mp (by decide)
      obtain ⟨fronts, values⟩ := words (free value) (free value') same
      have equal : value = value' := by
        cases value <;> cases value' <;> first | rfl | exact absurd values (by decide)
      exact ⟨fronts, by rw [equal]⟩
    | _ => simp [Constant.kind] at kinds
  | int64 value =>
    cases value' with
    | int64 value' =>
      obtain ⟨fronts, values⟩ :=
        words (not_isDelimiter_writeInteger _) (not_isDelimiter_writeInteger _) same
      exact ⟨fronts, by rw [Int64.toInt_inj.mp (writeInteger_injective values)]⟩
    | _ => simp [Constant.kind] at kinds
  | uint64 value =>
    cases value' with
    | uint64 value' =>
      have digits : before ++ writeDecimal value.toNat = before' ++ writeDecimal value'.toNat := by
        have ended : before ++ writeDecimal value.toNat ++ ['u'] =
            before' ++ writeDecimal value'.toNat ++ ['u'] := by
          rw [List.append_assoc, List.append_assoc]
          exact same
        exact List.append_cancel_right ended
      obtain ⟨fronts, values⟩ :=
        words (not_isDelimiter_writeDecimal _) (not_isDelimiter_writeDecimal _) digits
      exact ⟨fronts, by rw [UInt64.toNat_inj.mp (writeDecimal_injective values)]⟩
    | _ => simp [Constant.kind] at kinds
  | double value =>
    cases value' with
    | double value' =>
      obtain ⟨fronts, values⟩ := words (not_isDelimiter_text _) (not_isDelimiter_text _) same
      exact ⟨fronts, congrArg Constant.double (Double.identifyNaN_eq_of_text_eq values)⟩
    | _ => simp [Constant.kind] at kinds
  | string value =>
    cases value' with
    | string value' =>
      obtain ⟨fronts, values⟩ := quoted_unique (spells_quoteString value)
        (spells_quoteString value') opens.stops_backslash opens'.stops_backslash same
      exact ⟨fronts, by rw [String.toList_injective values]⟩
    | _ => simp [Constant.kind] at kinds
  | bytes value =>
    cases value' with
    | bytes value' =>
      have letter : before ++ ['b'] ++ '"' :: (quoteBytesWith isPrintable value ++ ['"']) =
          before' ++ ['b'] ++ '"' :: (quoteBytesWith isPrintable value' ++ ['"']) := by
        rw [List.append_assoc, List.append_assoc]
        exact same
      obtain ⟨fronts, values⟩ := quoted_unique (spells_quoteBytesWith isPrintable value)
        (spells_quoteBytesWith isPrintable value') (stops_backslash_concat (by decide) before)
        (stops_backslash_concat (by decide) before') letter
      exact ⟨(last_unique fronts).1, by rw [values]⟩
    | _ => simp [Constant.kind] at kinds

end CelTree.Render
