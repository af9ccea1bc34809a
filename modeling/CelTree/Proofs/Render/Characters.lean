/-
**The characters of a constant's text.**

Whatever is printable, whatever counts as a mark and however a string falls into clusters, the
quoted form of a string or of bytes shows printable characters, marks and visible characters of ASCII
only, and so do the texts of all other constants. A constant stays on its line.

* `Shows`: a character that takes a place on the line.
* `PrintsIn`: a character may stand bare in its cluster. So it may where quoting prints it
  (`printsIn_of_printed`).
* `mem_quoteStringWith`, `mem_quoteBytesAs`: the characters inside and around quotes.
* **`mem_literalTextWith`** — every character of a constant's text takes a place on the line;
  `newline_not_mem_literalText`.
-/

import CelTree.Proofs.Double.Characters
import CelTree.Proofs.Render.Quoted
import CelTree.Render.Literal

namespace CelTree.Render

open Text

/-! ### ASCII -/

/-- The blank and the visible characters of ASCII. -/
def isVisible (c : Char) : Bool := decide (' ' ≤ c ∧ c ≤ '~')

/-- Digits of every base up to thirty-six are letters and digits of ASCII. -/
theorem isVisible_of_isDigitOf {base : Nat} {c : Char} (digit : isDigitOf base c = true) :
    isVisible c = true := by
  have between {first last : Char} (low : first ≤ c) (high : c ≤ last) (start : ' ' ≤ first)
      (stop : last ≤ '~') : isVisible c = true :=
    decide_eq_true ⟨Char.le_trans start low, Char.le_trans high stop⟩
  unfold isDigitOf digitValue at digit
  by_cases decimal : '0' ≤ c ∧ c ≤ '9'
  · exact between decimal.1 decimal.2 (by decide) (by decide)
  by_cases lower : 'a' ≤ c ∧ c ≤ 'z'
  · exact between lower.1 lower.2 (by decide) (by decide)
  by_cases upper : 'A' ≤ c ∧ c ≤ 'Z'
  · exact between upper.1 upper.2 (by decide) (by decide)
  rw [if_neg decimal, if_neg lower, if_neg upper] at digit
  cases digit

/-! ### Escapes -/

variable {c : Char}

/-- The escape of a control character by a letter is written in ASCII. -/
theorem isVisible_of_mem_short {code : Nat} {letter : Char}
    (short : shortEscape code = some letter) (member : c ∈ ['\\', letter]) :
    isVisible c = true := by
  have letters : ['\\', letter].all isVisible = true := by
    unfold shortEscape at short
    split at short <;> cases short <;> decide
  exact List.all_eq_true.mp letters c member

/-- An escape by hexadecimal digits is written in ASCII if its letter is. -/
theorem isVisible_of_mem_hexEscape {letter : Char} (visible : isVisible letter = true)
    {width value : Nat} (member : c ∈ '\\' :: letter :: hexDigits width value) :
    isVisible c = true := by
  rcases List.mem_cons.mp member with rfl | behind
  · decide
  rcases List.mem_cons.mp behind with rfl | digit
  · exact visible
  · exact isVisible_of_isDigitOf (isDigitOf_of_mem_hexDigits digit)

theorem isVisible_of_mem_escapeCharacter {escaped : Char} (member : c ∈ escapeCharacter escaped) :
    isVisible c = true := by
  unfold escapeCharacter at member
  split at member
  · rename_i letter short
    exact isVisible_of_mem_short short member
  · split at member
    · exact isVisible_of_mem_hexEscape (by decide) member
    · exact isVisible_of_mem_hexEscape (by decide) member

theorem isVisible_of_mem_escapeByte {byte : UInt8} (member : c ∈ escapeByte byte) :
    isVisible c = true := by
  unfold escapeByte at member
  split at member
  · rename_i letter short
    exact isVisible_of_mem_short short member
  · exact isVisible_of_mem_hexEscape (by decide) member

/-! ### Quoted forms -/

/-- The character takes a place on the line: it is a visible one of ASCII, a printable one or a
mark. -/
def Shows (printable mark : Char → Bool) (c : Char) : Prop :=
  isVisible c = true ∨ printable c = true ∨ mark c = true

instance (printable mark : Char → Bool) (c : Char) : Decidable (Shows printable mark c) :=
  inferInstanceAs (Decidable (_ ∨ _ ∨ _))

/-- The character may stand bare in the cluster: it is printable, or it is a mark and the cluster is
a printable character and marks behind it. -/
def PrintsIn (printable mark : Char → Bool) (cluster : List Char) (c : Char) : Prop :=
  printable c = true ∨
    mark c = true ∧ ∃ base marks, cluster = base :: marks ∧ c ∈ marks ∧ printable base = true ∧
      ∀ other ∈ marks, mark other = true

section Classes

variable {printable mark : Char → Bool}

theorem PrintsIn.shows {cluster : List Char} (prints : PrintsIn printable mark cluster c) :
    Shows printable mark c := .inr (prints.imp id And.left)

/-- A character is printed if its cluster prints as a whole, or the character by itself. -/
theorem printsIn_of_printed {cluster : List Char} (inside : c ∈ cluster)
    (printed : (printsWhole printable mark cluster || printable c) = true) :
    PrintsIn printable mark cluster c := by
  rcases Bool.or_eq_true_iff.mp printed with whole | alone
  · cases cluster with
    | nil => cases inside
    | cons base marks =>
      obtain ⟨printable, marked⟩ := Bool.and_eq_true_iff.mp whole
      have all := List.all_eq_true.mp marked
      rcases List.mem_cons.mp inside with rfl | behind
      · exact .inl printable
      · exact .inr ⟨all c behind, base, marks, rfl, behind, printable, all⟩
  · exact .inl alone

/-- A backslash before a character adds nothing but itself. -/
theorem shows_of_mem_verbatim {shown : Char} (shows : Shows printable mark shown)
    (member : c ∈ verbatim shown) : Shows printable mark c := by
  unfold verbatim at member
  split at member
  · rcases List.mem_cons.mp member with rfl | inside
    · exact .inl (by decide)
    · rw [List.mem_singleton.mp inside]
      exact shows
  · rw [List.mem_singleton.mp member]
    exact shows

theorem shows_of_mem_quoteCluster {cluster : List Char}
    (member : c ∈ quoteCluster printable mark cluster) : Shows printable mark c := by
  obtain ⟨written, inside, member⟩ := List.mem_flatMap.mp member
  split at member
  · rename_i printed
    exact shows_of_mem_verbatim (printsIn_of_printed inside printed).shows member
  · exact .inl (isVisible_of_mem_escapeCharacter member)

/-- A quoted string shows what takes a place on the line, however it falls into parts. -/
theorem mem_quoteStringWith {parts : List (List Char)}
    (member : c ∈ quoteStringWith printable mark parts) : Shows printable mark c := by
  rcases List.mem_cons.mp member with rfl | inside
  · exact .inl (by decide)
  rcases List.mem_append.mp inside with body | closing
  · obtain ⟨cluster, -, member⟩ := List.mem_flatMap.mp body
    exact shows_of_mem_quoteCluster member
  · rw [List.mem_singleton.mp closing]
    exact .inl (by decide)

/-- Bytes are printed where they encode a printable character, and escaped elsewhere. -/
theorem shows_of_mem_quoteBytesWith {bytes : List UInt8}
    (member : c ∈ quoteBytesWith printable bytes) : Shows printable mark c := by
  induction bytes using quoteBytesWith.induct printable with
  | case1 =>
    rw [quoteBytesWith] at member
    cases member
  | case2 byte rest head found ih =>
    rw [quoteBytesWith, found] at member
    rcases List.mem_append.mp member with here | behind
    · obtain ⟨-, -, prints⟩ := printableHead_eq_some_iff.mp found
      exact shows_of_mem_verbatim (.inr (.inl prints)) here
    · exact ih behind
  | case3 byte rest missing ih =>
    rw [quoteBytesWith, missing] at member
    rcases List.mem_append.mp member with here | behind
    · exact .inl (isVisible_of_mem_escapeByte here)
    · exact ih behind

/-- Quoted bytes show what takes a place on the line, whatever counts as a mark. -/
theorem mem_quoteBytesAs {bytes : List UInt8} (member : c ∈ quoteBytesAs printable bytes) :
    Shows printable mark c := by
  rcases List.mem_cons.mp member with rfl | inside
  · exact .inl (by decide)
  rcases List.mem_cons.mp inside with rfl | inside
  · exact .inl (by decide)
  rcases List.mem_append.mp inside with body | closing
  · exact shows_of_mem_quoteBytesWith body
  · rw [List.mem_singleton.mp closing]
    exact .inl (by decide)

/-- **Every character of a constant's text takes a place on the line.** -/
theorem mem_literalTextWith {split : List Char → List (List Char)} {value : Constant}
    (member : c ∈ literalTextWith printable mark split value) : Shows printable mark c := by
  have word (letters : List Char) (visible : letters.all isVisible = true)
      (member : c ∈ letters) : Shows printable mark c :=
    .inl (List.all_eq_true.mp visible c member)
  cases value with
  | null => exact word "null".toList (by decide) member
  | bool value =>
    cases value with
    | true => exact word "true".toList (by decide) member
    | false => exact word "false".toList (by decide) member
  | int64 value =>
    rcases mem_writeInteger member with digit | rfl
    · exact .inl (isVisible_of_isDigitOf digit)
    · exact .inl (by decide)
  | uint64 value =>
    rcases List.mem_append.mp member with digit | ending
    · exact .inl (isVisible_of_isDigitOf (isDigitOf_of_mem_writeDecimal digit))
    · exact word ['u'] (by decide) ending
  | double value =>
    rcases Double.mem_text member with digit | other
    · exact .inl (isVisible_of_isDigitOf digit)
    · exact word _ (by decide) other
  | string value => exact mem_quoteStringWith member
  | bytes value => exact mem_quoteBytesAs member

end Classes

/-- A rendered constant does not break its line. -/
theorem newline_not_mem_literalText (value : Constant) : '\n' ∉ literalText value :=
  fun member => absurd (mem_literalTextWith member) (by decide +kernel)

end CelTree.Render
