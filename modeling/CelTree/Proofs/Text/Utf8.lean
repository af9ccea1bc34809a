/-
**The character at the head of some bytes.**

* `eq_of_utf8Head`: bytes that start with the encoding of a character consist of that and the rest.
* `utf8Head_eq_some_iff`: the head is the character whose encoding the bytes start with.
* `announcedHead`: the head as a decoder finds it that trusts the first byte for the width of the
  encoding. `announcedHead_eq`: this is the same character, and the width is that of its encoding.
* `AtBoundary`: bytes where a character may start. `utf8Head_append`: what follows there is no part
  of a character that starts before.
-/

import CelTree.Text.Utf8

namespace CelTree.Text

/-- The character that bytes start with is encoded by the first of them. -/
theorem eq_of_utf8Head {bytes : List UInt8} {c : Char} (found : utf8Head bytes = some c) :
    bytes = String.utf8EncodeChar c ++ bytes.drop c.utf8Size := by
  obtain ⟨rest, split⟩ := ByteArray.exists_of_utf8DecodeChar?_eq_some found
  have listed := congrArg (fun array => array.data.toList) split
  have first : bytes.take 4 = String.utf8EncodeChar c ++ rest.data.toList := by
    simpa using listed
  have encoded : String.utf8EncodeChar c = bytes.take c.utf8Size := by
    have size := c.utf8Size_le_four
    have same := congrArg (List.take c.utf8Size) first
    rw [List.take_take, Nat.min_eq_left size,
      List.take_left' (String.length_utf8EncodeChar c)] at same
    exact same.symm
  rw [encoded, List.take_append_drop]

/-- **The head is the character whose encoding the bytes start with**, if there is one. -/
theorem utf8Head_eq_some_iff {bytes : List UInt8} {c : Char} :
    utf8Head bytes = some c ↔ String.utf8EncodeChar c <+: bytes := by
  constructor
  · intro found
    exact ⟨bytes.drop c.utf8Size, (eq_of_utf8Head found).symm⟩
  · rintro ⟨rest, rfl⟩
    have size := c.utf8Size_le_four
    rw [utf8Head, List.take_append, List.take_of_length_le (by rwa [String.length_utf8EncodeChar]),
      List.toByteArray_append]
    exact ByteArray.utf8DecodeChar?_utf8EncodeChar_append

/-! ### The width that the first byte announces -/

/-- The number of bytes of an encoding, as its first byte announces it. -/
def announcedWidth (byte : UInt8) : Option Nat :=
  if byte ≤ 0x7f then some 1
  else if 0xc0 ≤ byte ∧ byte ≤ 0xdf then some 2
  else if 0xe0 ≤ byte ∧ byte ≤ 0xef then some 3
  else if 0xf0 ≤ byte ∧ byte ≤ 0xf4 then some 4
  else none

/-- The first character of as many bytes as the first of them announces, and their number, if there
are as many and they are a text in UTF-8. -/
def announcedHead (bytes : List UInt8) : Option (Char × Nat) := do
  let width ← bytes.head?.bind announcedWidth
  if bytes.length < width then none
  else do
    let text ← String.fromUTF8? (bytes.take width).toByteArray
    let c ← text.toList.head?
    return (c, width)

/-- What holds of each of the 256 bytes holds of all. -/
theorem forall_byte {p : UInt8 → Prop} (each : ∀ value < 256, p (UInt8.ofNat value))
    (byte : UInt8) : p byte := by
  rw [← UInt8.ofNat_toNat (x := byte)]
  exact each byte.toNat byte.toNat_lt

/-- The first byte of the encoding of a character announces its width. -/
theorem announcedWidth_encoding (c : Char) (rest : List UInt8) :
    (String.utf8EncodeChar c ++ rest).head?.bind announcedWidth = some c.utf8Size := by
  rcases c.utf8Size_eq with size | size | size | size
  · have small : c.val.toNat ≤ 127 := Char.utf8Size_eq_one_iff.mp size
    have low : c.val.toUInt8 ≤ 0x7f := by
      rw [UInt8.le_iff_toNat_le, UInt32.toNat_toUInt8]
      exact Nat.le_trans (Nat.mod_le _ _) small
    rw [String.utf8EncodeChar_eq_singleton size, size]
    exact if_pos low
  · have two : ∀ byte : UInt8, announcedWidth (byte &&& 0x1f ||| 0xc0) = some 2 :=
      forall_byte (by decide +kernel)
    rw [String.utf8EncodeChar_eq_cons_cons size, size]
    exact two _
  · have three : ∀ byte : UInt8, announcedWidth (byte &&& 0x0f ||| 0xe0) = some 3 :=
      forall_byte (by decide +kernel)
    rw [String.utf8EncodeChar_eq_cons_cons_cons size, size]
    exact three _
  · have four : ∀ byte : UInt8, byte ≤ 4 → announcedWidth (byte &&& 0x07 ||| 0xf0) = some 4 :=
      forall_byte (by decide +kernel)
    -- first bytes above F4 would announce codes beyond U+10FFFF
    have high : (c.val >>> 18).toUInt8 ≤ 4 := by
      have bounded : c.val.toNat < 0x110000 := c.valid.elim (Nat.lt_trans · (by decide)) (·.2)
      rw [UInt8.le_iff_toNat_le, UInt32.toNat_toUInt8, UInt32.toNat_shiftRight]
      show c.val.toNat >>> 18 % 256 ≤ 4
      rw [Nat.shiftRight_eq_div_pow]
      omega
    rw [String.utf8EncodeChar_eq_cons_cons_cons_cons size, size]
    exact four _ high

theorem fromUTF8?_eq_some_iff {bytes : ByteArray} {text : String} :
    String.fromUTF8? bytes = some text ↔ text.toByteArray = bytes := by
  unfold String.fromUTF8?
  constructor
  · intro decoded
    split at decoded
    · cases decoded
      rfl
    · cases decoded
  · rintro rfl
    rw [dif_pos text.isValidUTF8]
    rfl

/-- A text in UTF-8 starts with the encoding of its first character. -/
theorem encoding_isPrefix_of_head {bytes : List UInt8} {text : String} {c : Char}
    (decoded : String.fromUTF8? bytes.toByteArray = some text)
    (head : text.toList.head? = some c) : String.utf8EncodeChar c <+: bytes := by
  obtain ⟨others, listed⟩ := List.head?_eq_some_iff.mp head
  have same : (c :: others).utf8Encode = bytes.toByteArray := by
    rw [← listed, ← String.toByteArray_ofList, String.ofList_toList]
    exact fromUTF8?_eq_some_iff.mp decoded
  rw [List.utf8Encode_cons, List.utf8Encode_singleton] at same
  have bytesSame := congrArg (·.data.toList) same
  refine ⟨others.utf8Encode.data.toList, ?_⟩
  simpa using bytesSame

theorem announcedHead_eq_some_iff {bytes : List UInt8} {c : Char} {width : Nat} :
    announcedHead bytes = some (c, width) ↔
      String.utf8EncodeChar c <+: bytes ∧ width = c.utf8Size := by
  constructor
  · intro found
    obtain ⟨width', announced, found⟩ := Option.bind_eq_some_iff.mp found
    split at found
    · cases found
    · obtain ⟨text, decoded, found⟩ := Option.bind_eq_some_iff.mp found
      obtain ⟨c', head, found⟩ := Option.bind_eq_some_iff.mp found
      cases found
      have starts := (encoding_isPrefix_of_head decoded head).trans (List.take_prefix _ _)
      refine ⟨starts, ?_⟩
      obtain ⟨rest, rfl⟩ := starts
      rw [announcedWidth_encoding] at announced
      cases announced
      rfl
  · rintro ⟨⟨rest, rfl⟩, rfl⟩
    have length := String.length_utf8EncodeChar c
    have long : ¬(String.utf8EncodeChar c ++ rest).length < c.utf8Size := by
      rw [List.length_append, length]
      exact Nat.not_lt.mpr (Nat.le_add_right _ _)
    have decoded : String.fromUTF8? (String.utf8EncodeChar c).toByteArray =
        some (String.ofList [c]) := by
      rw [fromUTF8?_eq_some_iff, String.toByteArray_ofList, List.utf8Encode_singleton]
    show (Option.bind _ _) = _
    rw [announcedWidth_encoding, Option.bind_some, if_neg long, List.take_left' length, decoded]
    show Option.bind (String.ofList [c]).toList.head? _ = _
    rw [String.toList_ofList]
    rfl

/-- **Trusting the first byte for the width finds the same character**, and the width is the number
of bytes of its encoding. -/
theorem announcedHead_eq (bytes : List UInt8) :
    announcedHead bytes = (utf8Head bytes).map fun c => (c, c.utf8Size) := by
  refine Option.ext fun ⟨c, width⟩ => ?_
  rw [announcedHead_eq_some_iff, Option.map_eq_some_iff]
  constructor
  · rintro ⟨starts, rfl⟩
    exact ⟨c, utf8Head_eq_some_iff.mpr starts, rfl⟩
  · rintro ⟨head, found, same⟩
    cases same
    exact ⟨utf8Head_eq_some_iff.mp found, rfl⟩

/-! ### Bytes that continue an encoding -/

/-- A byte that stands behind the first one of an encoding. -/
def isContinuation (byte : UInt8) : Bool := 0x80 ≤ byte && byte ≤ 0xbf

/-- All bytes of an encoding but the first continue it. -/
theorem isContinuation_of_mem_tail {c : Char} {byte : UInt8}
    (member : byte ∈ (String.utf8EncodeChar c).tail) : isContinuation byte = true := by
  have low : ∀ bits : UInt8, isContinuation (bits &&& 0x3f ||| 0x80) = true :=
    forall_byte (by decide +kernel)
  rcases c.utf8Size_eq with size | size | size | size
  · rw [String.utf8EncodeChar_eq_singleton size] at member
    cases member
  · rw [String.utf8EncodeChar_eq_cons_cons size] at member
    rw [List.mem_singleton.mp member]
    exact low _
  · rw [String.utf8EncodeChar_eq_cons_cons_cons size] at member
    rcases List.mem_cons.mp member with rfl | member
    · exact low _
    · rw [List.mem_singleton.mp member]
      exact low _
  · rw [String.utf8EncodeChar_eq_cons_cons_cons_cons size] at member
    rcases List.mem_cons.mp member with rfl | member
    · exact low _
    rcases List.mem_cons.mp member with rfl | member
    · exact low _
    · rw [List.mem_singleton.mp member]
      exact low _

/-- A character may start here: nothing follows, or no byte that continues an encoding does. -/
def AtBoundary (bytes : List UInt8) : Prop := ∀ byte ∈ bytes.head?, isContinuation byte = false

instance (bytes : List UInt8) : Decidable (AtBoundary bytes) :=
  inferInstanceAs (Decidable (∀ byte ∈ bytes.head?, isContinuation byte = false))

theorem atBoundary_encoding (c : Char) (rest : List UInt8) :
    AtBoundary (String.utf8EncodeChar c ++ rest) := by
  intro byte first
  have announced := announcedWidth_encoding c rest
  rw [first, Option.bind_some] at announced
  have none : ∀ byte : UInt8, isContinuation byte = true → announcedWidth byte = none :=
    forall_byte (by decide +kernel)
  rw [Bool.eq_false_iff]
  intro continues
  rw [none byte continues] at announced
  cases announced

/-- What follows at a boundary cannot complete an encoding. -/
theorem encoding_isPrefix_append_iff {c : Char} {before behind : List UInt8}
    (nonempty : before ≠ []) (boundary : AtBoundary behind) :
    String.utf8EncodeChar c <+: before ++ behind ↔ String.utf8EncodeChar c <+: before := by
  refine ⟨?_, fun starts => starts.trans (List.prefix_append _ _)⟩
  rintro ⟨rest, split⟩
  rcases List.append_eq_append_iff.mp split with ⟨others, inside, -⟩ | ⟨others, across, tail⟩
  · exact ⟨others, inside.symm⟩
  · cases others with
    | nil => exact ⟨[], by rw [across, List.append_nil, List.append_nil]⟩
    | cons byte others =>
      -- a byte behind the boundary would continue the encoding
      obtain ⟨first, front, rfl⟩ := List.exists_cons_of_ne_nil nonempty
      have continues : isContinuation byte = true := isContinuation_of_mem_tail (c := c) (by
        rw [across]
        exact List.mem_append_right _ List.mem_cons_self)
      rw [boundary byte (by rw [tail]; rfl)] at continues
      cases continues

theorem utf8Head_append {before behind : List UInt8} (nonempty : before ≠ [])
    (boundary : AtBoundary behind) : utf8Head (before ++ behind) = utf8Head before := by
  refine Option.ext fun c => ?_
  rw [utf8Head_eq_some_iff, utf8Head_eq_some_iff, encoding_isPrefix_append_iff nonempty boundary]

end CelTree.Text
