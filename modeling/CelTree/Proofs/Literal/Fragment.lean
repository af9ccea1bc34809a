/-
**Fragment boundaries are invisible.**

A quoted literal is one sequence of numbers: the codes of its verbatim text, or the bytes of its
encoding, with the values of its escapes in between. They are read one by one, up to the first that
is refused, and which fragment a number belongs to plays no part.

* `Fragment.codes`, `Fragment.octets`: the numbers of a fragment in a string and in a bytes literal.
* `mapM_flatten`: parts that are read one by one are read as one sequence.
* `assembleString_eq`, `assembleBytes_eq`: so are the fragments of a literal.
* `Decides`: what a sequence of numbers is read as, or which of them is refused.
* **`assemble_decided`** — the numbers of the fragments decide what these are assembled to.
-/

import CelTree.Literal.Fragment
import CelTree.Proofs.Text.Utf8

namespace CelTree

/-! ### Reading one by one -/

section Reading

variable {α β ε φ : Type} {read : α → Except ε β} {value : α} {values : List α}

theorem mapM_cons_ok {result : β} (here : read value = .ok result) :
    (value :: values).mapM read = (result :: ·) <$> values.mapM read := by
  rw [List.mapM_cons, here]
  cases values.mapM read <;> rfl

theorem mapM_cons_error {error : ε} (here : read value = .error error) :
    (value :: values).mapM read = .error error := by
  rw [List.mapM_cons, here]
  rfl

theorem exists_mapM_ok (each : ∀ value ∈ values, ∃ result, read value = .ok result) :
    ∃ results, values.mapM read = .ok results := by
  induction values with
  | nil => exact ⟨[], rfl⟩
  | cons value rest ih =>
    obtain ⟨⟨result, here⟩, others⟩ := List.forall_mem_cons.mp each
    obtain ⟨results, below⟩ := ih others
    exact ⟨result :: results, by rw [mapM_cons_ok here, below]; rfl⟩

/-- Reading is refused exactly with the error of the first value that is refused. -/
theorem mapM_eq_error_iff {error : ε} : values.mapM read = .error error ↔
    ∃ before value behind, values = before ++ value :: behind ∧
      (∀ earlier ∈ before, ∃ result, read earlier = .ok result) ∧ read value = .error error := by
  constructor
  · intro fails
    induction values with
    | nil => cases fails
    | cons value rest ih =>
      cases here : read value with
      | error reason =>
        rw [mapM_cons_error here] at fails
        cases fails
        exact ⟨[], value, rest, rfl, List.forall_mem_nil _, here⟩
      | ok result =>
        rw [mapM_cons_ok here] at fails
        cases below : rest.mapM read with
        | ok others =>
          rw [below] at fails
          cases fails
        | error reason =>
          rw [below] at fails
          cases fails
          obtain ⟨before, refused, behind, rfl, accepted, reads⟩ := ih below
          exact ⟨value :: before, refused, behind, rfl,
            List.forall_mem_cons.mpr ⟨⟨result, here⟩, accepted⟩, reads⟩
  · rintro ⟨before, value, behind, rfl, accepted, refused⟩
    obtain ⟨results, first⟩ := exists_mapM_ok accepted
    rw [List.mapM_append, first, mapM_cons_error refused]
    rfl

/-- Parts that are read one by one are read as one sequence. -/
theorem mapM_flatten {part : φ → List α} {whole : φ → Except ε (List β)}
    (each : ∀ fragment, whole fragment = (part fragment).mapM read) (fragments : List φ) :
    List.flatten <$> fragments.mapM whole = (fragments.flatMap part).mapM read := by
  induction fragments with
  | nil => rfl
  | cons first rest ih =>
    rw [List.mapM_cons, List.flatMap_cons, List.mapM_append, ← ih, each]
    simp only [map_bind, map_pure, List.flatten_cons, bind_map_left]

/-- Where every value has a code and is read from it alone, codes are read as their values. -/
theorem mapM_eq_ok_iff {code : β → α} {results : List β}
    (reads : ∀ value result, read value = .ok result ↔ code result = value) :
    values.mapM read = .ok results ↔ results.map code = values := by
  constructor
  · intro succeeds
    induction values generalizing results with
    | nil =>
      cases succeeds
      rfl
    | cons value rest ih =>
      cases here : read value with
      | error error =>
        rw [mapM_cons_error here] at succeeds
        cases succeeds
      | ok result =>
        rw [mapM_cons_ok here] at succeeds
        cases below : rest.mapM read with
        | error error =>
          rw [below] at succeeds
          cases succeeds
        | ok others =>
          rw [below] at succeeds
          cases succeeds
          rw [List.map_cons, (reads value result).mp here, ih below]
  · rintro rfl
    induction results with
    | nil => rfl
    | cons first rest ih =>
      rw [List.map_cons, mapM_cons_ok ((reads _ first).mpr rfl), ih]
      rfl

end Reading

/-! ### The numbers of a literal -/

namespace Fragment

/-- The codes that a fragment of a string literal stands for. -/
def codes : Fragment → List Nat
  | .verbatim text => text.toList.map Char.toNat
  | .numbers values => values

/-- The values that a fragment of a bytes literal stands for: verbatim text in UTF-8. -/
def octets : Fragment → List Nat
  | .verbatim text => (Text.utf8Bytes text.toList).map UInt8.toNat
  | .numbers values => values

theorem character_toNat (c : Char) : character c.toNat = .ok c := by
  have valid : c.toNat < 0xd800 ∨ 0xdfff < c.toNat ∧ c.toNat < 0x110000 := c.valid
  rw [character, if_neg (by omega), if_neg (by omega), Char.ofNat_toNat]

/-- A code stands for a character exactly if it is the code of that character. -/
theorem character_eq_ok_iff {code : Nat} {c : Char} :
    character code = .ok c ↔ c.toNat = code := by
  constructor
  · intro accepted
    unfold character at accepted
    split at accepted
    · cases accepted
    · split at accepted
      · cases accepted
      · cases accepted
        have valid : code.isValidChar := by omega
        rw [Char.ofNat, dif_pos valid]
        rfl
  · rintro rfl
    exact character_toNat c

theorem byte_toNat (b : UInt8) : byte b.toNat = .ok b := by
  rw [byte, if_pos (Nat.le_of_lt_succ b.toNat_lt), UInt8.ofNat_toNat]

theorem byte_eq_ok_iff {value : Nat} {b : UInt8} : byte value = .ok b ↔ b.toNat = value := by
  constructor
  · intro accepted
    unfold byte at accepted
    split at accepted
    · rename_i small
      cases accepted
      exact UInt8.toNat_ofNat_of_lt' (Nat.lt_succ_of_le small)
    · cases accepted
  · rintro rfl
    exact byte_toNat b

/-- The characters of a fragment are read from its codes, one by one. -/
theorem characters_eq (fragment : Fragment) :
    fragment.characters = fragment.codes.mapM character := by
  cases fragment with
  | verbatim text => exact (mapM_eq_ok_iff (fun _ _ => character_eq_ok_iff) |>.mpr rfl).symm
  | numbers values => rfl

theorem bytes_eq (fragment : Fragment) : fragment.bytes = fragment.octets.mapM byte := by
  cases fragment with
  | verbatim text => exact (mapM_eq_ok_iff (fun _ _ => byte_eq_ok_iff) |>.mpr rfl).symm
  | numbers values => rfl

end Fragment

open Fragment

/-- A string is read from the codes of all fragments, one by one. -/
theorem assembleString_eq (fragments : List Fragment) :
    assembleString fragments = String.ofList <$> (fragments.flatMap codes).mapM character := by
  rw [← mapM_flatten characters_eq, assembleString]
  cases fragments.mapM characters <;> rfl

theorem assembleBytes_eq (fragments : List Fragment) :
    assembleBytes fragments = (fragments.flatMap octets).mapM byte := by
  rw [← mapM_flatten bytes_eq, assembleBytes]
  cases fragments.mapM bytes <;> rfl

/-- Fragments with the codes of a text are assembled to that text. -/
theorem assembleString_of_codes {fragments : List Fragment} {text : String}
    (same : fragments.flatMap codes = text.toList.map Char.toNat) :
    assembleString fragments = .ok text := by
  rw [assembleString_eq, (mapM_eq_ok_iff fun _ _ => character_eq_ok_iff).mpr same.symm]
  exact congrArg Except.ok String.ofList_toList

theorem assembleBytes_of_octets {fragments : List Fragment} {bytes : List UInt8}
    (same : fragments.flatMap octets = bytes.map UInt8.toNat) :
    assembleBytes fragments = .ok bytes := by
  rw [assembleBytes_eq, (mapM_eq_ok_iff fun _ _ => byte_eq_ok_iff).mpr same.symm]

/-! ### Numbers that are accepted, and numbers that are refused -/

/-- A number that is the code of no character, and why. -/
inductive RefusesCode : Nat → LiteralError → Prop
  | surrogate {code : Nat} (low : 0xd800 ≤ code) (high : code ≤ 0xdfff) :
    RefusesCode code (.surrogate code)
  | beyond {code : Nat} (high : 0x10ffff < code) : RefusesCode code (.codePointRange code)

/-- A number that is no byte, and why. -/
inductive RefusesByte : Nat → LiteralError → Prop
  | beyond {value : Nat} (high : 0xff < value) : RefusesByte value (.byteRange value)

/-- A code is valid if it is the code of some character. -/
theorem isValidChar_iff {code : Nat} : code.isValidChar ↔ ∃ c : Char, c.toNat = code := by
  constructor
  · intro valid
    exact ⟨.ofNatAux code valid, rfl⟩
  · rintro ⟨c, rfl⟩
    exact c.valid

/-- A code is refused exactly if it stands for no character. -/
theorem character_eq_error_iff {code : Nat} {error : LiteralError} :
    character code = .error error ↔ RefusesCode code error := by
  unfold character
  constructor
  · intro refused
    split at refused
    · rename_i between
      cases refused
      exact .surrogate between.1 between.2
    · split at refused
      · rename_i high
        cases refused
        exact .beyond high
      · cases refused
  · rintro (⟨low, high⟩ | high)
    · rw [if_pos ⟨low, high⟩]
    · rw [if_neg (by omega), if_pos (Nat.succ_le_of_lt high)]

theorem isByte_iff {value : Nat} : value ≤ 0xff ↔ ∃ b : UInt8, b.toNat = value := by
  constructor
  · intro small
    exact ⟨.ofNat value, UInt8.toNat_ofNat_of_lt' (Nat.lt_succ_of_le small)⟩
  · rintro ⟨b, rfl⟩
    exact Nat.le_of_lt_succ b.toNat_lt

theorem byte_eq_error_iff {value : Nat} {error : LiteralError} :
    byte value = .error error ↔ RefusesByte value error := by
  unfold byte
  constructor
  · intro refused
    split at refused
    · cases refused
    · rename_i high
      cases refused
      exact .beyond (Nat.lt_of_not_le high)
  · rintro ⟨high⟩
    rw [if_neg (Nat.not_le_of_lt high)]

/-! ### What a sequence of numbers is read as -/

/-- A sequence of numbers decides an outcome: a value that consists of just these numbers, if all of
them are accepted, and otherwise the error of the first one that is refused. -/
structure Decides {β : Type} (accepts : Nat → Prop) (refuses : Nat → LiteralError → Prop)
    (numbersOf : β → List Nat) (numbers : List Nat) (outcome : Except LiteralError β) : Prop where
  succeeds_iff : (∃ value, outcome = .ok value) ↔ ∀ number ∈ numbers, accepts number
  numbers_eq : ∀ value, outcome = .ok value → numbersOf value = numbers
  fails_iff : ∀ error, outcome = .error error ↔
    ∃ before number behind, numbers = before ++ number :: behind ∧
      (∀ earlier ∈ before, accepts earlier) ∧ refuses number error

section Decides

variable {α β γ : Type} {accepts : Nat → Prop} {refuses : Nat → LiteralError → Prop}
  {read : Nat → Except LiteralError α} {number : α → Nat}

/-- Numbers that are read one by one decide what they are read as. -/
theorem decides_mapM (reads : ∀ code value, read code = .ok value ↔ number value = code)
    (refused : ∀ code error, read code = .error error ↔ refuses code error)
    (accepted : ∀ code, accepts code ↔ ∃ value, number value = code) (numbers : List Nat) :
    Decides accepts refuses (List.map number) numbers (numbers.mapM read) := by
  have accepts_iff (code : Nat) : accepts code ↔ ∃ value, read code = .ok value := by
    simp only [accepted, reads]
  have succeeds_iff {values : List α} :
      numbers.mapM read = .ok values ↔ values.map number = numbers := mapM_eq_ok_iff reads
  refine ⟨⟨?_, ?_⟩, fun _ => succeeds_iff.mp, fun error => ?_⟩
  · rintro ⟨values, succeeds⟩ code member
    rw [← succeeds_iff.mp succeeds] at member
    obtain ⟨value, -, same⟩ := List.mem_map.mp member
    exact (accepted code).mpr ⟨value, same⟩
  · intro each
    exact exists_mapM_ok fun code member => (accepts_iff code).mp (each code member)
  · simp only [mapM_eq_error_iff, accepts_iff, refused]

/-- What is read can be put in another form that consists of the same numbers. -/
theorem Decides.map {numbersOf : β → List Nat} {numbersOf' : γ → List Nat} {numbers : List Nat}
    {outcome : Except LiteralError β}
    (decides : Decides accepts refuses numbersOf numbers outcome) (form : β → γ)
    (same : ∀ value, numbersOf' (form value) = numbersOf value) :
    Decides accepts refuses numbersOf' numbers (form <$> outcome) := by
  obtain ⟨succeeds, numbers_eq, fails⟩ := decides
  cases outcome with
  | error reason =>
    refine ⟨?_, nofun, fun error => ?_⟩
    · rw [← succeeds]
      exact iff_of_false nofun nofun
    · rw [← fails]
      exact ⟨fun | rfl => rfl, fun | rfl => rfl⟩
  | ok value =>
    refine ⟨?_, ?_, fun error => ?_⟩
    · rw [← succeeds]
      exact iff_of_true ⟨_, rfl⟩ ⟨_, rfl⟩
    · rintro _ ⟨⟩
      rw [same, numbers_eq value rfl]
    · rw [← fails]
      exact iff_of_false nofun nofun

end Decides

/-- The codes of its fragments decide what a string literal is assembled to. -/
theorem assembleString_decided (fragments : List Fragment) :
    Decides Nat.isValidChar RefusesCode (fun text => text.toList.map Char.toNat)
      (fragments.flatMap codes) (assembleString fragments) := by
  rw [assembleString_eq]
  have decided := decides_mapM (fun _ _ => character_eq_ok_iff) (fun _ _ => character_eq_error_iff)
    (fun _ => isValidChar_iff) (fragments.flatMap codes)
  exact decided.map String.ofList fun text => by rw [String.toList_ofList]

/-- The octets of its fragments decide what a bytes literal is assembled to. -/
theorem assembleBytes_decided (fragments : List Fragment) :
    Decides (· ≤ 0xff) RefusesByte (List.map UInt8.toNat) (fragments.flatMap octets)
      (assembleBytes fragments) := by
  rw [assembleBytes_eq]
  exact decides_mapM (fun _ _ => byte_eq_ok_iff) (fun _ _ => byte_eq_error_iff)
    (fun _ => isByte_iff) _

/-! ### Escapes of ASCII -/

namespace Fragment

/-- A character of ASCII is a single byte. -/
theorem map_utf8EncodeChar {c : Char} (ascii : c.toNat < 0x80) :
    (String.utf8EncodeChar c).map UInt8.toNat = [c.toNat] := by
  have size : c.utf8Size = 1 := Char.utf8Size_eq_one_iff.mpr (Nat.le_of_lt_succ ascii)
  have small : c.val.toNat % 256 = c.toNat :=
    Nat.mod_eq_of_lt (Nat.lt_trans ascii (by decide))
  rw [String.utf8EncodeChar_eq_singleton size, List.map_singleton, UInt32.toNat_toUInt8, small]

/-- Verbatim ASCII stands for the same numbers in a string and in bytes. -/
theorem octets_verbatim {text : String} (ascii : ∀ c ∈ text.toList, c.toNat < 0x80) :
    octets (.verbatim text) = codes (.verbatim text) := by
  rw [octets, codes, Text.utf8Bytes, List.map_flatMap, List.map_eq_flatMap]
  rw [List.flatMap_def, List.flatMap_def]
  exact congrArg List.flatten
    (List.map_congr_left fun c member => map_utf8EncodeChar (ascii c member))

/-- Escapes of ASCII stand for the same numbers as some verbatim text. -/
theorem exists_verbatim_numbers {values : List Nat} (ascii : ∀ value ∈ values, value < 0x80) :
    ∃ text, codes (.verbatim text) = values ∧ octets (.verbatim text) = values := by
  obtain ⟨text, listed⟩ : ∃ text : String, codes (.verbatim text) = values := by
    have valid : ∀ value ∈ values, ∃ c, character value = .ok c := by
      intro value member
      have small := ascii value member
      obtain ⟨c, same⟩ := isValidChar_iff.mp (.inl (by omega) : value.isValidChar)
      exact ⟨c, character_eq_ok_iff.mpr same⟩
    obtain ⟨characters, read⟩ := exists_mapM_ok valid
    refine ⟨String.ofList characters, ?_⟩
    rw [codes, String.toList_ofList]
    exact (mapM_eq_ok_iff fun _ _ => character_eq_ok_iff).mp read
  refine ⟨text, listed, ?_⟩
  rw [octets_verbatim, listed]
  intro c member
  refine ascii c.toNat ?_
  rw [← listed]
  exact List.mem_map_of_mem member

/-- If all escapes are of ASCII, the fragments stand for the same numbers as one verbatim text. -/
theorem exists_verbatim {fragments : List Fragment}
    (ascii : ∀ values, .numbers values ∈ fragments → ∀ value ∈ values, value < 0x80) :
    ∃ text, codes (.verbatim text) = fragments.flatMap codes ∧
      octets (.verbatim text) = fragments.flatMap octets := by
  induction fragments with
  | nil => exact ⟨"", rfl, rfl⟩
  | cons first rest ih =>
    obtain ⟨text', codes', octets'⟩ :=
      ih fun values member => ascii values (List.mem_cons_of_mem _ member)
    obtain ⟨text, here, there⟩ : ∃ text,
        codes (.verbatim text) = codes first ∧ octets (.verbatim text) = octets first := by
      cases first with
      | verbatim text => exact ⟨text, rfl, rfl⟩
      | numbers values => exact exists_verbatim_numbers (ascii values List.mem_cons_self)
    refine ⟨text ++ text', ?_, ?_⟩
    · rw [List.flatMap_cons, ← here, ← codes', codes, String.toList_append, List.map_append]
      rfl
    · rw [List.flatMap_cons, ← there, ← octets', octets, String.toList_append, Text.utf8Bytes,
        List.flatMap_append, List.map_append]
      rfl

end Fragment

/-! ### Assembled literals -/

/-- **Fragment boundaries are invisible.** The codes of its fragments, one fragment after the other,
decide what a string literal is assembled to: the text of just these codes if all of them are
Unicode scalar values, and otherwise the error of the first one that is not, by its kind. The octets
decide in the same way about a bytes literal, where every byte is accepted. So splitting, merging or
re-tagging fragments without a change of the sequence changes nothing. A surrogate pair that is
given as two codes is refused, in one fragment or across two. Where all escapes are of ASCII both
literals are assembled, and the bytes are the encoding of the text. -/
theorem assemble_decided (fragments : List Fragment) :
    Decides Nat.isValidChar RefusesCode (fun text => text.toList.map Char.toNat)
        (fragments.flatMap codes) (assembleString fragments) ∧
      Decides (· ≤ 0xff) RefusesByte (List.map UInt8.toNat) (fragments.flatMap octets)
        (assembleBytes fragments) ∧
      (∀ others : List Fragment,
        (others.flatMap codes = fragments.flatMap codes →
          assembleString others = assembleString fragments) ∧
        (others.flatMap octets = fragments.flatMap octets →
          assembleBytes others = assembleBytes fragments)) ∧
      (∀ before high low behind, fragments.flatMap codes = before ++ high :: low :: behind →
        0xd800 ≤ high ∧ high ≤ 0xdbff → 0xdc00 ≤ low ∧ low ≤ 0xdfff →
        (∃ error, assembleString fragments = .error error) ∧
          ((∀ code ∈ before, code.isValidChar) →
            assembleString fragments = .error (.surrogate high))) ∧
      ((∀ values, .numbers values ∈ fragments → ∀ value ∈ values, value < 0x80) →
        ∃ text, assembleString fragments = .ok text ∧
          assembleBytes fragments = .ok (Text.utf8Bytes text.toList)) := by
  have decided := assembleString_decided fragments
  refine ⟨decided, assembleBytes_decided fragments, fun others => ⟨fun same => ?_, fun same => ?_⟩,
    ?_, ?_⟩
  · rw [assembleString_eq, assembleString_eq, same]
  · rw [assembleBytes_eq, assembleBytes_eq, same]
  · intro before high low behind split highHalf lowHalf
    refine ⟨?_, fun valid => ?_⟩
    · cases outcome : assembleString fragments with
      | error error => exact ⟨error, rfl⟩
      | ok text =>
        have valid := decided.succeeds_iff.mp ⟨text, outcome⟩ high (by rw [split]; simp)
        omega
    · exact (decided.fails_iff _).mpr ⟨before, high, low :: behind, split, valid,
        .surrogate highHalf.1 (by omega)⟩
  · intro ascii
    obtain ⟨text, sameCodes, sameOctets⟩ := exists_verbatim ascii
    exact ⟨text, assembleString_of_codes sameCodes.symm, assembleBytes_of_octets sameOctets.symm⟩

/-- A pair of surrogates behind a text, one half in each of two fragments, and escapes of ASCII
before a text. -/
theorem assemble_decided_splitPair :
    assembleString [.verbatim "é", .numbers [0xd83d], .numbers [0xde00, 0x110000]] =
        .error (.surrogate 0xd83d) ∧
      ∃ text, assembleString [.numbers [0x41, 0x7f], .verbatim "é"] = .ok text ∧
        assembleBytes [.numbers [0x41, 0x7f], .verbatim "é"] =
          .ok (Text.utf8Bytes text.toList) := by
  constructor
  · obtain ⟨-, -, -, pair, -⟩ :=
      assemble_decided [.verbatim "é", .numbers [0xd83d], .numbers [0xde00, 0x110000]]
    exact (pair [0xe9] 0xd83d 0xde00 [0x110000] (by decide) (by decide) (by decide)).2 (by decide)
  · obtain ⟨-, -, -, -, ascii⟩ := assemble_decided [.numbers [0x41, 0x7f], .verbatim "é"]
    exact ascii (by simp)

end CelTree
