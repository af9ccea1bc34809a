/-
**Quoted text can be read.**

Inside quotes stand units: characters as they are, and escapes. Each unit ends where reading it ends,
so a body of units has one reading, and the only double quotes in it are escaped.

* `readUnit`: the unit that a body starts with.
* `Spells`: a body of units spells some values. `Spells.unique`: it spells nothing else;
  `Spells.quote_escaped`: a double quote in it follows a backslash.
* **`spells_quoteClusters`**, **`spells_quoteBytesWith`** — quoting spells the characters, or the
  bytes, for any clusters and any classes of printable characters and marks.
-/

import CelTree.Proofs.Text.Numeral
import CelTree.Proofs.Text.Utf8
import CelTree.Render.Quoted

namespace CelTree.Render

open Text

/-! ### Reading -/

/-- A unit of a quoted body: a character as it is, or the code of an escape. -/
inductive QuotedUnit
  | text (c : Char)
  | code (value : Nat)

/-- The code of a letter after a backslash. -/
def shortCode (letter : Char) : Option Nat :=
  match letter with
  | 'a' => some 0x07
  | 'b' => some 0x08
  | 't' => some 0x09
  | 'n' => some 0x0a
  | 'v' => some 0x0b
  | 'f' => some 0x0c
  | 'r' => some 0x0d
  | '\\' => some 0x5c
  | '"' => some 0x22
  | _ => none

/-- The number of hexadecimal digits that follow a letter after a backslash. -/
def escapeWidth (letter : Char) : Option Nat :=
  match letter with
  | 'x' => some 2
  | 'u' => some 4
  | 'U' => some 8
  | _ => none

/-- The code of the escape that a text starts with after its backslash, and what follows. -/
def readEscape : List Char → Option (Nat × List Char)
  | [] => none
  | letter :: rest =>
    match shortCode letter with
    | some code => some (code, rest)
    | none => do
      let width ← escapeWidth letter
      let code ← readNumeral 16 (rest.take width)
      return (code, rest.drop width)

/-- The unit that a body starts with, and what follows. -/
def readUnit : List Char → Option (QuotedUnit × List Char)
  | [] => none
  | c :: rest =>
    if c = '\\' then (readEscape rest).map fun (code, rest) => (.code code, rest)
    else some (.text c, rest)

/-- The unit that a character becomes where it is printed: itself, or its code after a backslash. -/
def printedUnit (c : Char) : QuotedUnit :=
  if c = '\\' ∨ c = '"' then .code c.toNat else .text c

/-- A printed character is one unit, its backslash included. -/
theorem readUnit_verbatim (c : Char) (rest : List Char) :
    readUnit (verbatim c ++ rest) = some (printedUnit c, rest) := by
  unfold verbatim printedUnit
  by_cases special : c = '\\' ∨ c = '"'
  · rw [if_pos special, if_pos special]
    rcases special with rfl | rfl <;> rfl
  · rw [if_neg special, if_neg special]
    rw [not_or] at special
    show (if c = '\\' then _ else some (QuotedUnit.text c, rest)) = _
    rw [if_neg special.1]

/-- A letter of a control character reads back as its code. -/
theorem shortCode_of_shortEscape {code : Nat} {letter : Char}
    (short : shortEscape code = some letter) : shortCode letter = some code := by
  unfold shortEscape at short
  split at short <;> cases short <;> rfl

/-- An escape by a letter is read as the code that it stands for. -/
theorem readEscape_short {code : Nat} {letter : Char} (short : shortEscape code = some letter)
    (rest : List Char) : readEscape (letter :: rest) = some (code, rest) := by
  rw [readEscape, shortCode_of_shortEscape short]

/-- Hexadecimal digits of the width that belongs to a letter read back as their number. -/
theorem readEscape_hexDigits {letter : Char} {width value : Nat} (long : shortCode letter = none)
    (wide : escapeWidth letter = some (width + 1)) (enough : value < 16 ^ (width + 1))
    (rest : List Char) :
    readEscape (letter :: (hexDigits (width + 1) value ++ rest)) = some (value, rest) := by
  have length := hexDigits_length (width + 1) value
  rw [readEscape, long, wide]
  show (readNumeral 16 (List.take (width + 1) (hexDigits (width + 1) value ++ rest))).bind _ = _
  rw [List.take_left' length, readNumeral_hexDigits enough]
  show some (value, List.drop (width + 1) (hexDigits (width + 1) value ++ rest)) = _
  rw [List.drop_left' length]

theorem readUnit_backslash {text : List Char} {code : Nat} {rest : List Char}
    (escape : readEscape text = some (code, rest)) :
    readUnit ('\\' :: text) = some (.code code, rest) := by
  show (readEscape text).map _ = _
  rw [escape]
  rfl

/-- The escape of a character is one unit with its code. -/
theorem readUnit_escapeCharacter (c : Char) (rest : List Char) :
    readUnit (escapeCharacter c ++ rest) = some (.code c.toNat, rest) := by
  unfold escapeCharacter
  split
  · rename_i letter short
    exact readUnit_backslash (readEscape_short short rest)
  · split
    · rename_i small
      exact readUnit_backslash (readEscape_hexDigits rfl rfl (by omega) rest)
    · have bounded : c.toNat < 16 ^ 8 := c.val.toNat_lt
      exact readUnit_backslash (readEscape_hexDigits rfl rfl bounded rest)

theorem readUnit_escapeByte (byte : UInt8) (rest : List Char) :
    readUnit (escapeByte byte ++ rest) = some (.code byte.toNat, rest) := by
  unfold escapeByte
  split
  · rename_i letter short
    exact readUnit_backslash (readEscape_short short rest)
  · exact readUnit_backslash (readEscape_hexDigits rfl rfl byte.toNat_lt rest)

/-! ### Bodies -/

/-- A body of units spells the values of its units, one after the other. Whatever follows a unit,
reading ends where the unit does, and a double quote is in no unit but its own escape. -/
inductive Spells {α : Type} (meaning : QuotedUnit → List α) : List α → List Char → Prop
  | nil : Spells meaning [] []
  | unit {read : QuotedUnit} {piece : List Char} {values : List α} {body : List Char}
    (reads : ∀ rest, readUnit (piece ++ rest) = some (read, rest))
    (guarded : piece = ['\\', '"'] ∨ '"' ∉ piece) (rest : Spells meaning values body) :
    Spells meaning (meaning read ++ values) (piece ++ body)

section Spells

variable {α : Type} {meaning : QuotedUnit → List α} {values values' : List α} {body : List Char}

/-- A body spells one list of values only. -/
theorem Spells.unique (spells : Spells meaning values body)
    (spells' : Spells meaning values' body) : values = values' := by
  induction spells generalizing values' with
  | nil =>
    generalize empty : ([] : List Char) = body at spells'
    cases spells' with
    | nil => rfl
    | @unit read piece values' body reads guarded rest =>
      have read := reads body
      rw [← empty] at read
      cases read
  | @unit read piece values body reads guarded rest ih =>
    have here := reads body
    generalize whole : piece ++ body = text at here spells'
    cases spells' with
    | nil => cases here
    | @unit read' piece' values' body' reads' guarded' rest' =>
      rw [reads' body'] at here
      cases here
      rw [ih rest']

/-- A double quote in a body follows a backslash. -/
theorem Spells.quote_escaped (spells : Spells meaning values body) {before after : List Char}
    (split : body = before ++ '"' :: after) : ∃ front, before = front ++ ['\\'] := by
  induction spells generalizing before with
  | nil => exact absurd split (by simp)
  | @unit read piece values body reads guarded rest ih =>
    rcases List.append_eq_append_iff.mp split with ⟨middle, inBefore, inBody⟩ | ⟨middle, inPiece, tail⟩
    · -- the quote is behind the first unit
      obtain ⟨front, same⟩ := ih inBody
      exact ⟨piece ++ front, by rw [inBefore, same, List.append_assoc]⟩
    · cases middle with
      | nil =>
        obtain ⟨front, same⟩ := ih (show body = [] ++ '"' :: after from tail.symm)
        exact absurd same.symm (by simp)
      | cons c others =>
        obtain ⟨rfl, -⟩ := List.cons.inj tail
        rcases guarded with escape | free
        · rw [escape] at inPiece
          match before, inPiece with
          | [], wrong => cases wrong
          | [c], same => exact ⟨[], by rw [(List.cons.inj same).1]; rfl⟩
          | _ :: _ :: _, wrong => simp at wrong
        · exact absurd (by rw [inPiece]; simp) free

end Spells

/-! ### Pieces -/

theorem quote_not_mem_hexDigits (width value : Nat) : '"' ∉ hexDigits width value := by
  intro member
  exact absurd (isDigitOf_of_mem_hexDigits member) (by decide)

/-- A quote is printed behind a backslash. -/
theorem guarded_verbatim (c : Char) : verbatim c = ['\\', '"'] ∨ '"' ∉ verbatim c := by
  unfold verbatim
  split
  · rename_i special
    rcases special with rfl | rfl
    · exact .inr (by decide)
    · exact .inl rfl
  · rename_i special
    refine .inr fun member => special (.inr ?_)
    exact (List.mem_singleton.mp member).symm

theorem quote_not_mem_short {code : Nat} {letter : Char} (short : shortEscape code = some letter) :
    '"' ∉ ['\\', letter] := by
  unfold shortEscape at short
  split at short <;> cases short <;> decide

theorem quote_not_mem_escapeCharacter (c : Char) : '"' ∉ escapeCharacter c := by
  unfold escapeCharacter
  split
  · rename_i letter short
    exact quote_not_mem_short short
  · split <;> simp [quote_not_mem_hexDigits]

theorem quote_not_mem_escapeByte (byte : UInt8) : '"' ∉ escapeByte byte := by
  unfold escapeByte
  split
  · rename_i letter short
    exact quote_not_mem_short short
  · simp [quote_not_mem_hexDigits]

/-! ### Strings -/

/-- The character that a unit of a quoted string stands for. -/
def QuotedUnit.character : QuotedUnit → Char
  | .text c => c
  | .code value => Char.ofNat value

/-- The characters that a unit of a quoted string stands for. -/
def QuotedUnit.characters (read : QuotedUnit) : List Char := [read.character]

/-- A printed unit stands for its character. -/
theorem character_printedUnit (c : Char) : (printedUnit c).character = c := by
  unfold printedUnit
  split
  · exact Char.ofNat_toNat c
  · rfl

/-- A printed character spells itself. -/
theorem Spells.verbatim (c : Char) {text body : List Char}
    (rest : Spells QuotedUnit.characters text body) :
    Spells QuotedUnit.characters (c :: text) (Render.verbatim c ++ body) := by
  have spells := rest.unit (readUnit_verbatim c) (guarded_verbatim c)
  rwa [QuotedUnit.characters, character_printedUnit] at spells

/-- An escaped character spells itself. -/
theorem Spells.escapeCharacter (c : Char) {text body : List Char}
    (rest : Spells QuotedUnit.characters text body) :
    Spells QuotedUnit.characters (c :: text) (Render.escapeCharacter c ++ body) := by
  have spells := rest.unit (readUnit_escapeCharacter c) (.inr (quote_not_mem_escapeCharacter c))
  rwa [QuotedUnit.characters, QuotedUnit.character, Char.ofNat_toNat] at spells

/-- A quoted cluster spells its characters, printed or escaped. -/
theorem Spells.quoteCluster (printable mark : Char → Bool) (cluster : List Char)
    {text body : List Char} (rest : Spells QuotedUnit.characters text body) :
    Spells QuotedUnit.characters (cluster ++ text)
      (Render.quoteCluster printable mark cluster ++ body) := by
  unfold Render.quoteCluster
  -- whether the cluster prints as a whole is decided before the first character
  generalize printsWhole printable mark cluster = whole
  induction cluster with
  | nil => exact rest
  | cons c others ih =>
    rw [List.flatMap_cons, List.append_assoc]
    split
    · exact ih.verbatim c
    · exact ih.escapeCharacter c

/-- Quoting clusters spells their characters, whatever is printable and whatever is a mark. -/
theorem spells_quoteClusters (printable mark : Char → Bool) (clusters : List (List Char)) :
    Spells QuotedUnit.characters clusters.flatten (quoteClusters printable mark clusters) := by
  induction clusters with
  | nil => exact .nil
  | cons cluster others ih =>
    rw [List.flatten_cons, quoteClusters, List.flatMap_cons]
    exact ih.quoteCluster printable mark cluster

/-- A quoted string spells the string. -/
theorem spells_quoteString (text : String) :
    Spells QuotedUnit.characters text.toList
      (quoteClusters isPrintable isMark (clusters text.toList)) := by
  have spells := spells_quoteClusters isPrintable isMark (clusters text.toList)
  rwa [clusters_flatten] at spells

/-! ### Bytes -/

/-- The bytes that a unit of quoted bytes stands for. -/
def QuotedUnit.bytes : QuotedUnit → List UInt8
  | .text c => String.utf8EncodeChar c
  | .code value => [UInt8.ofNat value]

theorem bytes_printedUnit (c : Char) : (printedUnit c).bytes = String.utf8EncodeChar c := by
  unfold printedUnit
  split
  · rename_i special
    rcases special with rfl | rfl <;> rfl
  · rfl

/-- What is printed of bytes is the character whose encoding they start with, if it is printable. -/
theorem printableHead_eq_some_iff {printable : Char → Bool} {bytes : List UInt8} {c : Char} :
    printableHead printable bytes = some c ↔
      String.utf8EncodeChar c <+: bytes ∧ c.toNat ≠ 0xfffd ∧ printable c = true := by
  rw [← utf8Head_eq_some_iff, printableHead]
  cases utf8Head bytes with
  | none => simp
  | some head =>
    show (if head.toNat ≠ 0xfffd ∧ printable head = true then some head else none) = some c ↔ _
    rw [Option.ite_none_right_eq_some]
    constructor
    · rintro ⟨prints, ⟨⟩⟩
      exact ⟨rfl, prints⟩
    · rintro ⟨⟨⟩, prints⟩
      exact ⟨prints, rfl⟩

/-- Quoting bytes spells them, whatever is printable. -/
theorem spells_quoteBytesWith (printable : Char → Bool) (bytes : List UInt8) :
    Spells QuotedUnit.bytes bytes (quoteBytesWith printable bytes) := by
  fun_induction quoteBytesWith printable bytes with
  | case1 => exact .nil
  | case2 byte rest c found ih =>
    obtain ⟨starts, -⟩ := printableHead_eq_some_iff.mp found
    have encoded := eq_of_utf8Head (utf8Head_eq_some_iff.mpr starts)
    have spells := ih.unit (readUnit_verbatim c) (guarded_verbatim c)
    have size := c.utf8Size_pos
    have split : (byte :: rest).drop c.utf8Size = rest.drop (c.utf8Size - 1) := by
      obtain ⟨fewer, same⟩ : ∃ fewer, c.utf8Size = fewer + 1 := ⟨c.utf8Size - 1, by omega⟩
      rw [same]
      rfl
    rw [bytes_printedUnit, ← split, ← encoded] at spells
    rwa [split] at spells
  | case3 byte rest absent ih =>
    have spells := ih.unit (readUnit_escapeByte byte) (.inr (quote_not_mem_escapeByte byte))
    rwa [QuotedUnit.bytes, UInt8.ofNat_toNat] at spells

end CelTree.Render
