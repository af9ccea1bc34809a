/-
**Quoted strings and bytes are literals of what was quoted.**

Whatever is printable, whatever counts as a mark and however a string falls into clusters, its
quoted form is a string literal of it, and the quoted form of bytes is a bytes literal of them.

* `QuotedPiece`: what stands inside quotes, a printed character or an escape.
* `decodePrintable`: the printable character that some bytes start with, where the first byte is
  trusted for the width of the encoding. `decodePrintable_eq_some_iff`: what is accepted is exactly
  the encoding of the character.
* `Rounds`: quoting bytes round by round, one piece in each. No byte is skipped and none is read
  twice.
* **`quoteString_readsBack`**, **`quoteBytes_readsBack`** — what was quoted is read back.
-/

import CelTree.Proofs.Literal.Fragment
import CelTree.Proofs.Render.QuotedBody

namespace CelTree.Render

open Text

/-! ### Escapes and printed characters -/

/-- A backslash, a letter and hexadecimal digits. -/
theorem passesQuote_hexDigits (letter : Char) (width value : Nat) :
    PassesQuote ('\\' :: letter :: hexDigits width value) := by
  refine (PassesQuote.escape letter).append (.text fun c member => ?_)
  have digit := isDigitOf_of_mem_hexDigits member
  constructor <;>
  · rintro rfl
    exact absurd digit (by decide)

theorem writes_verbatim (digitLetters : List Char) (c : Char) :
    Writes digitLetters [printedUnit c] (verbatim c) := by
  refine .unit (fun rest => ?_) (readUnit_verbatim c) ?_
  · unfold verbatim
    by_cases special : c = '\\' ∨ c = '"'
    · rw [if_pos special]
      rcases special with rfl | rfl <;> rfl
    · rw [if_neg special]
      rw [not_or] at special
      show (if c = '\\' then _ else decide (c ≠ '"')) = true
      rw [if_neg special.1]
      exact decide_eq_true special.2
  · unfold verbatim
    by_cases special : c = '\\' ∨ c = '"'
    · rw [if_pos special]
      exact .escape c
    · rw [if_neg special]
      rw [not_or] at special
      exact .character special.2 special.1

theorem startsUnit_short {code : Nat} {letter : Char} (short : shortEscape code = some letter)
    (digitLetters rest : List Char) : startsUnit digitLetters ('\\' :: letter :: rest) = true := by
  show startsEscape digitLetters (letter :: rest) = true
  rw [startsEscape, shortCode_of_shortEscape short]
  rfl

theorem startsUnit_hexDigits {digitLetters : List Char} {letter : Char} {width : Nat}
    (allowed : letter ∈ digitLetters) (wide : escapeWidth letter = some width) (value : Nat)
    (rest : List Char) :
    startsUnit digitLetters ('\\' :: letter :: (hexDigits width value ++ rest)) = true := by
  have enough : width ≤ (hexDigits width value ++ rest).length := by
    rw [List.length_append, hexDigits_length]
    exact Nat.le_add_right _ _
  show startsEscape digitLetters (letter :: (hexDigits width value ++ rest)) = true
  rw [startsEscape, List.contains_iff_mem.mpr allowed, wide]
  simp only [Option.any_some, enough, decide_true, Bool.and_true, Bool.or_true]

/-- An escaped character is written as one unit. -/
theorem writes_escapeCharacter (c : Char) :
    Writes ['u', 'U'] [.code c.toNat] (escapeCharacter c) := by
  refine .unit (fun rest => ?_) (readUnit_escapeCharacter c) ?_
  · unfold escapeCharacter
    split
    · rename_i letter short
      exact startsUnit_short short _ rest
    · split
      · exact startsUnit_hexDigits (by decide) rfl _ rest
      · exact startsUnit_hexDigits (by decide) rfl _ rest
  · unfold escapeCharacter
    split
    · exact .escape _
    · split <;> exact passesQuote_hexDigits _ _ _

theorem writes_escapeByte (byte : UInt8) : Writes ['x'] [.code byte.toNat] (escapeByte byte) := by
  refine .unit (fun rest => ?_) (readUnit_escapeByte byte) ?_
  · unfold escapeByte
    split
    · rename_i letter short
      exact startsUnit_short short _ rest
    · exact startsUnit_hexDigits (by decide) rfl _ rest
  · unfold escapeByte
    split
    · exact .escape _
    · exact passesQuote_hexDigits _ _ _

/-! ### Pieces -/

/-- What stands inside quotes: a character as it is, or an escape. -/
inductive QuotedPiece (α : Type)
  | printed (c : Char)
  | escaped (value : α)

namespace QuotedPiece

variable {α : Type}

/-- The text of a piece. -/
def text (escape : α → List Char) : QuotedPiece α → List Char
  | .printed c => verbatim c
  | .escaped value => escape value

/-- The unit of a piece. -/
def unit (code : α → Nat) : QuotedPiece α → QuotedUnit
  | .printed c => printedUnit c
  | .escaped value => .code (code value)

/-- The character of a piece of a string. -/
def character : QuotedPiece Char → Char
  | .printed c => c
  | .escaped c => c

/-- The bytes of a piece of quoted bytes. -/
def bytes : QuotedPiece UInt8 → List UInt8
  | .printed c => String.utf8EncodeChar c
  | .escaped byte => [byte]

/-- Pieces with the escapes of some letters can be read one after the other. -/
theorem writes {digitLetters : List Char} {escape : α → List Char} {code : α → Nat}
    (escapes : ∀ value, Writes digitLetters [.code (code value)] (escape value))
    (pieces : List (QuotedPiece α)) :
    Writes digitLetters (pieces.map (unit code)) (pieces.flatMap (text escape)) := by
  refine .flatMap (fun piece => ?_) pieces
  cases piece with
  | printed c => exact writes_verbatim digitLetters c
  | escaped value => exact escapes value

/-- The codes among the units are those of escapes, of a backslash and of a double quote. -/
theorem code_mem_units {code : α → Nat} {pieces : List (QuotedPiece α)} {value : Nat}
    (member : .code value ∈ pieces.map (unit code)) :
    (∃ escaped, value = code escaped) ∨ value = '\\'.toNat ∨ value = '"'.toNat := by
  obtain ⟨piece, -, same⟩ := List.mem_map.mp member
  cases piece with
  | escaped original => exact .inl ⟨original, (QuotedUnit.code.inj same).symm⟩
  | printed c =>
    rw [unit, printedUnit] at same
    by_cases special : c = '\\' ∨ c = '"'
    · rw [if_pos special] at same
      have value_eq := (QuotedUnit.code.inj same).symm
      rcases special with rfl | rfl
      · exact .inr (.inl value_eq)
      · exact .inr (.inr value_eq)
    · rw [if_neg special] at same
      cases same

/-- The bare characters among the units are those of printed pieces. -/
theorem text_mem_units {code : α → Nat} {pieces : List (QuotedPiece α)} {c : Char}
    (member : .text c ∈ pieces.map (unit code)) : .printed c ∈ pieces := by
  obtain ⟨piece, inside, same⟩ := List.mem_map.mp member
  cases piece with
  | escaped value => cases same
  | printed original =>
    rw [unit, printedUnit] at same
    by_cases special : original = '\\' ∨ original = '"'
    · rw [if_pos special] at same
      cases same
    · rw [if_neg special] at same
      obtain rfl := QuotedUnit.text.inj same
      exact inside

end QuotedPiece

/-! ### Strings -/

/-- A string literal. -/
def stringForm : QuotedForm String := ⟨['"'], ['u', 'U'], assembleString⟩

/-- Units whose codes are those of characters are assembled to what they stand for. -/
theorem assembleString_fragmentsOf {units : List QuotedUnit}
    (scalars : ∀ value, .code value ∈ units → ∃ c : Char, value = c.toNat) :
    assembleString (fragmentsOf units) = .ok (String.ofList (units.map QuotedUnit.character)) := by
  have verbatim (text : String) : Fragment.codes (.verbatim text) =
      text.toList.flatMap fun c => [(QuotedUnit.text c).character.toNat] := List.map_eq_flatMap
  have escape (value : Nat) (member : .code value ∈ units) :
      Fragment.codes (.numbers [value]) = [(QuotedUnit.code value).character.toNat] := by
    obtain ⟨c, rfl⟩ := scalars value member
    show [c.toNat] = [(Char.ofNat c.toNat).toNat]
    rw [Char.ofNat_toNat]
  have codes : (fragmentsOf units).flatMap Fragment.codes =
      units.flatMap fun read => [read.character.toNat] := flatMap_fragmentsOf verbatim escape
  refine assembleString_of_codes ?_
  rw [codes, String.toList_ofList, List.map_map, List.map_eq_flatMap]
  rfl

/-- The pieces of a cluster: a character is printed if the whole cluster prints, or the character by
itself. -/
def clusterPieces (printable mark : Char → Bool) (cluster : List Char) : List (QuotedPiece Char) :=
  cluster.map fun c =>
    if printsWhole printable mark cluster || printable c then .printed c else .escaped c

/-- A quoted cluster is made of its pieces. -/
theorem quoteCluster_eq_flatMap (printable mark : Char → Bool) (cluster : List Char) :
    quoteCluster printable mark cluster =
      (clusterPieces printable mark cluster).flatMap (QuotedPiece.text escapeCharacter) := by
  rw [quoteCluster, clusterPieces, List.flatMap_map]
  congr 1
  funext c
  split <;> rfl

/-- The pieces of a cluster stand for its characters. -/
theorem character_clusterPieces (printable mark : Char → Bool) (cluster : List Char) :
    (clusterPieces printable mark cluster).map QuotedPiece.character = cluster := by
  rw [clusterPieces, List.map_map]
  refine (List.map_congr_left fun c _ => ?_).trans (List.map_id cluster)
  show QuotedPiece.character (if _ then _ else _) = c
  split <;> rfl

/-- The unit of a piece stands for its character. -/
theorem character_unit (piece : QuotedPiece Char) :
    (piece.unit Char.toNat).character = piece.character := by
  cases piece with
  | printed c => exact character_printedUnit c
  | escaped c => exact Char.ofNat_toNat c

/-- A unit stands for the character of its piece. -/
theorem characters_units (pieces : List (QuotedPiece Char)) :
    (pieces.map (QuotedPiece.unit Char.toNat)).map QuotedUnit.character =
      pieces.map QuotedPiece.character := by
  rw [List.map_map]
  exact congrArg (pieces.map ·) (funext character_unit)

/-- The pieces of all parts stand for the text that falls into them. -/
theorem characters_flatMap_clusterPieces (printable mark : Char → Bool)
    (parts : List (List Char)) :
    (parts.flatMap (clusterPieces printable mark)).map QuotedPiece.character = parts.flatten := by
  rw [List.map_flatMap, ← List.flatMap_id]
  exact congrArg (parts.flatMap ·) (funext (character_clusterPieces printable mark))

/-- Quoted clusters are made of the pieces of all of them. -/
theorem quoteClusters_eq_flatMap (printable mark : Char → Bool) (parts : List (List Char)) :
    quoteClusters printable mark parts =
      (parts.flatMap (clusterPieces printable mark)).flatMap (QuotedPiece.text escapeCharacter) := by
  rw [List.flatMap_assoc]
  exact congrArg (parts.flatMap ·) (funext (quoteCluster_eq_flatMap printable mark))

/-- A quoted string is a literal of the string. -/
theorem reads_quoteStringWith (printable mark : Char → Bool) {parts : List (List Char)}
    {text : String} (split : parts.flatten = text.toList) :
    stringForm.Reads (quoteStringWith printable mark parts) text := by
  let pieces := parts.flatMap (clusterPieces printable mark)
  have body : quoteClusters printable mark parts =
      pieces.flatMap (QuotedPiece.text escapeCharacter) := quoteClusters_eq_flatMap _ _ _
  have standFor : (pieces.map (QuotedPiece.unit Char.toNat)).map QuotedUnit.character =
      text.toList := by
    rw [characters_units, characters_flatMap_clusterPieces, split]
  have assembled : assembleString (fragmentsOf (pieces.map (QuotedPiece.unit Char.toNat))) =
      .ok text := by
    rw [assembleString_fragmentsOf, standFor, String.ofList_toList]
    intro value member
    rcases QuotedPiece.code_mem_units member with ⟨c, code⟩ | code | code
    · exact ⟨c, code⟩
    · exact ⟨_, code⟩
    · exact ⟨_, code⟩
  have reads :=
    stringForm.reads_of_writes (QuotedPiece.writes writes_escapeCharacter pieces) assembled
  rwa [← body] at reads

/-- **A quoted string is a literal of the string**, whatever is printable, whatever counts as a mark
and however the string falls into clusters. So different strings are quoted differently, even where
the classes and the clusters differ. -/
theorem quoteString_readsBack (printable mark : Char → Bool) {parts : List (List Char)}
    {text : String} (split : parts.flatten = text.toList) :
    stringForm.Reads (quoteStringWith printable mark parts) text ∧
      stringForm.Reads (quoteString text) text ∧
      ∀ (printable' mark' : Char → Bool) (parts' : List (List Char)) (text' : String),
        parts'.flatten = text'.toList →
          quoteStringWith printable mark parts = quoteStringWith printable' mark' parts' →
          text = text' := by
  have here := reads_quoteStringWith printable mark split
  refine ⟨here, reads_quoteStringWith isPrintable isMark (clusters_flatten _), ?_⟩
  intro printable' mark' parts' text' split' same
  rw [same] at here
  exact here.unique (reads_quoteStringWith printable' mark' split')

/-- A double quote and a backslash in one cluster, a control character, the last code with four
digits, a code with eight and a digit right behind its escape. -/
theorem quoteString_readsBack_escapes :
    [['"', '\\'], [Char.ofNat 7], [Char.ofNat 0xffff], [Char.ofNat 0x1f600, '1']].flatten =
        (String.ofList
          ['"', '\\', Char.ofNat 7, Char.ofNat 0xffff, Char.ofNat 0x1f600, '1']).toList ∧
      stringForm.Reads
        (quoteStringWith (fun c => c == '"' || c.isAlphanum) (fun _ => false)
          [['"', '\\'], [Char.ofNat 7], [Char.ofNat 0xffff], [Char.ofNat 0x1f600, '1']])
        (String.ofList ['"', '\\', Char.ofNat 7, Char.ofNat 0xffff, Char.ofNat 0x1f600, '1']) :=
  ⟨by decide, (quoteString_readsBack _ _ (by decide)).1⟩

/-! ### Bytes -/

/-- A bytes literal. -/
def bytesForm : QuotedForm (List UInt8) := ⟨['b', '"'], ['x'], assembleBytes⟩

/-- Units whose codes are those of bytes are assembled to what they stand for. -/
theorem assembleBytes_fragmentsOf {units : List QuotedUnit}
    (small : ∀ value, .code value ∈ units → value ≤ 0xff) :
    assembleBytes (fragmentsOf units) = .ok (units.flatMap QuotedUnit.bytes) := by
  have verbatim (text : String) : Fragment.octets (.verbatim text) =
      text.toList.flatMap fun c => (QuotedUnit.text c).bytes.map UInt8.toNat := List.map_flatMap
  have escape (value : Nat) (member : .code value ∈ units) :
      Fragment.octets (.numbers [value]) = (QuotedUnit.code value).bytes.map UInt8.toNat := by
    show [value] = [(UInt8.ofNat value).toNat]
    rw [UInt8.toNat_ofNat_of_lt' (Nat.lt_succ_of_le (small value member))]
  have octets : (fragmentsOf units).flatMap Fragment.octets =
      units.flatMap fun read => read.bytes.map UInt8.toNat := flatMap_fragmentsOf verbatim escape
  refine assembleBytes_of_octets ?_
  rw [octets, List.map_flatMap]

/-- The printable character that some bytes start with, and the number of bytes that the first of
them announces for it. The replacement character counts as not printable. -/
def decodePrintable (printable : Char → Bool) (bytes : List UInt8) : Option (Char × Nat) := do
  let (c, width) ← announcedHead bytes
  if c.toNat = 0xfffd ∨ printable c = false then none else some (c, width)

theorem decodePrintable_eq (printable : Char → Bool) (bytes : List UInt8) :
    decodePrintable printable bytes =
      (printableHead printable bytes).map fun c => (c, c.utf8Size) := by
  rw [decodePrintable, announcedHead_eq, printableHead]
  cases utf8Head bytes with
  | none => rfl
  | some c =>
    show (if c.toNat = 0xfffd ∨ printable c = false then none else some (c, c.utf8Size)) =
      (if c.toNat ≠ 0xfffd ∧ printable c = true then some c else none).map _
    by_cases replacement : c.toNat = 0xfffd <;> cases prints : printable c <;> simp [replacement]

/-- **What is accepted is exactly the encoding of the character**: as many bytes as are announced
are its encoding, and it is printable and not the replacement character. -/
theorem decodePrintable_eq_some_iff {printable : Char → Bool} {bytes : List UInt8} {c : Char}
    {width : Nat} :
    decodePrintable printable bytes = some (c, width) ↔
      (bytes.take width = String.utf8EncodeChar c ∧ width = c.utf8Size) ∧
        c.toNat ≠ 0xfffd ∧ printable c = true := by
  have starts : bytes.take c.utf8Size = String.utf8EncodeChar c ↔
      String.utf8EncodeChar c <+: bytes := by
    rw [List.prefix_iff_eq_take, String.length_utf8EncodeChar, eq_comm]
  rw [decodePrintable_eq, Option.map_eq_some_iff]
  constructor
  · rintro ⟨head, found, same⟩
    cases same
    obtain ⟨encoded, prints⟩ := printableHead_eq_some_iff.mp found
    exact ⟨⟨starts.mpr encoded, rfl⟩, prints⟩
  · rintro ⟨⟨encoded, rfl⟩, prints⟩
    exact ⟨c, printableHead_eq_some_iff.mpr ⟨starts.mp encoded, prints⟩, rfl⟩

/-- The rounds of quoting bytes. In each, a printable character is taken off the front with its
encoding, or a single byte is. -/
inductive Rounds (printable : Char → Bool) : List UInt8 → List (QuotedPiece UInt8) → Prop
  | done : Rounds printable [] []
  | printed {bytes : List UInt8} {c : Char} {width : Nat} {pieces : List (QuotedPiece UInt8)}
    (accepted : decodePrintable printable bytes = some (c, width))
    (others : Rounds printable (bytes.drop width) pieces) :
    Rounds printable bytes (.printed c :: pieces)
  | escaped {byte : UInt8} {rest : List UInt8} {pieces : List (QuotedPiece UInt8)}
    (refused : decodePrintable printable (byte :: rest) = none)
    (others : Rounds printable rest pieces) :
    Rounds printable (byte :: rest) (.escaped byte :: pieces)

namespace Rounds

variable {printable : Char → Bool} {bytes : List UInt8} {pieces : List (QuotedPiece UInt8)}

/-- The rounds take the bytes off the front in their order: none is skipped or read twice. -/
theorem bytes_eq (rounds : Rounds printable bytes pieces) :
    pieces.flatMap QuotedPiece.bytes = bytes := by
  induction rounds with
  | done => rfl
  | @printed bytes c width pieces accepted others ih =>
    obtain ⟨⟨encoding, -⟩, -⟩ := decodePrintable_eq_some_iff.mp accepted
    rw [List.flatMap_cons, ih, QuotedPiece.bytes, ← encoding, List.take_append_drop]
  | @escaped byte rest pieces refused others ih => rw [List.flatMap_cons, ih]; rfl

/-- What is printed in a round is printable. -/
theorem printable_of_printed (rounds : Rounds printable bytes pieces) {c : Char}
    (member : .printed c ∈ pieces) : printable c = true := by
  induction rounds with
  | done => cases member
  | @printed bytes first width pieces accepted others ih =>
    rcases List.mem_cons.mp member with same | behind
    · obtain rfl := QuotedPiece.printed.inj same
      exact (decodePrintable_eq_some_iff.mp accepted).2.2
    · exact ih behind
  | @escaped byte rest pieces refused others ih =>
    rcases List.mem_cons.mp member with same | behind
    · cases same
    · exact ih behind

/-- Each round takes a byte, so there are at most as many rounds as bytes. -/
theorem length_le (rounds : Rounds printable bytes pieces) : pieces.length ≤ bytes.length := by
  induction rounds with
  | done => exact Nat.le_refl 0
  | @printed bytes c width pieces accepted others ih =>
    obtain ⟨⟨encoding, rfl⟩, -⟩ := decodePrintable_eq_some_iff.mp accepted
    have positive := c.utf8Size_pos
    have enough := congrArg List.length encoding
    rw [List.length_take, String.length_utf8EncodeChar] at enough
    rw [List.length_drop] at ih
    rw [List.length_cons]
    omega
  | @escaped byte rest pieces refused others ih => exact Nat.succ_le_succ ih

/-- The bytes determine the rounds. -/
theorem unique (rounds : Rounds printable bytes pieces) {pieces' : List (QuotedPiece UInt8)}
    (rounds' : Rounds printable bytes pieces') : pieces = pieces' := by
  -- what is accepted at the front decides which round comes next
  induction rounds generalizing pieces' with
  | done =>
    cases rounds' with
    | done => rfl
    | printed accepted' others' => cases accepted'
  | @printed bytes c width pieces accepted others ih =>
    cases rounds' with
    | done => cases accepted
    | printed accepted' others' =>
      rw [accepted] at accepted'
      cases accepted'
      rw [ih others']
    | escaped refused' others' =>
      rw [accepted] at refused'
      cases refused'
  | @escaped byte rest pieces refused others ih =>
    cases rounds' with
    | printed accepted' others' =>
      rw [refused] at accepted'
      cases accepted'
    | escaped refused' others' => rw [ih others']

end Rounds

/-- Quoting bytes goes through rounds until none is left, and writes the piece of each round. -/
theorem rounds_quoteBytesWith (printable : Char → Bool) (bytes : List UInt8) :
    ∃ pieces, Rounds printable bytes pieces ∧
      quoteBytesWith printable bytes = pieces.flatMap (QuotedPiece.text escapeByte) := by
  fun_induction quoteBytesWith printable bytes with
  | case1 => exact ⟨[], .done, rfl⟩
  | case2 byte rest c found ih =>
    obtain ⟨pieces, rounds, quoted⟩ := ih
    have accepted : decodePrintable printable (byte :: rest) = some (c, c.utf8Size) := by
      rw [decodePrintable_eq, found]
      rfl
    -- quoting drops what is left of the encoding behind its first byte, a round all of it
    have behind : rest.drop (c.utf8Size - 1) = (byte :: rest).drop c.utf8Size := by
      rw [← List.drop_succ_cons, Nat.sub_add_cancel c.utf8Size_pos]
    rw [behind] at rounds
    exact ⟨.printed c :: pieces, .printed accepted rounds, by rw [quoted]; rfl⟩
  | case3 byte rest absent ih =>
    obtain ⟨pieces, rounds, quoted⟩ := ih
    have refused : decodePrintable printable (byte :: rest) = none := by
      rw [decodePrintable_eq, absent]
      rfl
    exact ⟨.escaped byte :: pieces, .escaped refused rounds, by rw [quoted]; rfl⟩

/-- The unit of a piece stands for its bytes. -/
theorem bytes_unit (piece : QuotedPiece UInt8) :
    (piece.unit UInt8.toNat).bytes = piece.bytes := by
  cases piece with
  | printed c => exact bytes_printedUnit c
  | escaped byte => exact congrArg ([·]) UInt8.ofNat_toNat

/-- The units of the rounds stand for the bytes. -/
theorem Rounds.bytes_units {printable : Char → Bool} {bytes : List UInt8}
    {pieces : List (QuotedPiece UInt8)} (rounds : Rounds printable bytes pieces) :
    (pieces.map (QuotedPiece.unit UInt8.toNat)).flatMap QuotedUnit.bytes = bytes := by
  rw [List.flatMap_map, funext bytes_unit]
  exact rounds.bytes_eq

/-- Quoted bytes are a literal of the bytes. -/
theorem reads_quoteBytesAs (printable : Char → Bool) (bytes : List UInt8) :
    bytesForm.Reads (quoteBytesAs printable bytes) bytes := by
  obtain ⟨pieces, rounds, body⟩ := rounds_quoteBytesWith printable bytes
  have standFor := rounds.bytes_units
  have assembled : assembleBytes (fragmentsOf (pieces.map (QuotedPiece.unit UInt8.toNat))) =
      .ok bytes := by
    rw [assembleBytes_fragmentsOf, standFor]
    intro value member
    rcases QuotedPiece.code_mem_units member with ⟨byte, rfl⟩ | rfl | rfl
    · exact Nat.le_of_lt_succ byte.toNat_lt
    · decide
    · decide
  have reads := bytesForm.reads_of_writes (QuotedPiece.writes writes_escapeByte pieces) assembled
  rwa [← body] at reads

/-- **Quoted bytes are a literal of the bytes**, whether these are a text in UTF-8 or not and
whatever is printable. Trusting the first byte for the width finds the same characters, and what is
printed as a character is exactly its encoding. Quoting ends after at most as many rounds as there
are bytes, and these take each byte once. So different bytes are quoted differently, even where the
classes differ. -/
theorem quoteBytes_readsBack (printable : Char → Bool) (bytes : List UInt8) :
    (printableHead printable bytes).map (fun c => (c, c.utf8Size)) =
        decodePrintable printable bytes ∧
      (∀ c width, decodePrintable printable bytes = some (c, width) ↔
        (bytes.take width = String.utf8EncodeChar c ∧ width = c.utf8Size) ∧
          c.toNat ≠ 0xfffd ∧ printable c = true) ∧
      (∃ pieces, (∀ others, Rounds printable bytes others ↔ others = pieces) ∧
        pieces.length ≤ bytes.length ∧ pieces.flatMap QuotedPiece.bytes = bytes ∧
        quoteBytesAs printable bytes =
          'b' :: '"' :: pieces.flatMap (QuotedPiece.text escapeByte) ++ ['"']) ∧
      bytesForm.Reads (quoteBytesAs printable bytes) bytes ∧
      bytesForm.Reads (quoteBytes bytes) bytes ∧
      ∀ (printable' : Char → Bool) (bytes' : List UInt8),
        quoteBytesAs printable bytes = quoteBytesAs printable' bytes' → bytes = bytes' := by
  have here := reads_quoteBytesAs printable bytes
  refine ⟨(decodePrintable_eq printable bytes).symm, fun c width => decodePrintable_eq_some_iff, ?_,
    here, reads_quoteBytesAs isPrintable bytes, ?_⟩
  · obtain ⟨pieces, rounds, body⟩ := rounds_quoteBytesWith printable bytes
    refine ⟨pieces, fun others => ⟨fun rounds' => rounds'.unique rounds, ?_⟩, rounds.length_le,
      rounds.bytes_eq, by rw [quoteBytesAs, body]⟩
    rintro rfl
    exact rounds
  · intro printable' bytes' same
    rw [same] at here
    exact here.unique (reads_quoteBytesAs printable' bytes')

end CelTree.Render
