/-
**Bytes are quoted character by character.**

However far a decoder looks ahead, quoting bytes starts anew wherever a character may start. So what
stands before a printable character, whole or broken off, is quoted by itself, and a text of
printable characters is quoted as bytes in the same way as it is as a string.

* `quoteBytesWith_append`: quoting starts anew at every boundary.
* `quoteBytesWith_encoding`: a printable character is printed, whatever follows it.
* `quoteBytesWith_of_unprintable`: bytes among which no printable character starts are escaped one
  by one.
* **`quoteBytes_resumes`** — quoting resumes at every boundary.
* **`quoteBytes_utf8Bytes`** — printable text is quoted alike as bytes and as a string.
-/

import CelTree.Proofs.Render.ReadBack

namespace CelTree.Render

open Text

section Bytes

variable {printable : Char → Bool} {before behind bytes : List UInt8} {c : Char}

/-! ### Boundaries -/

theorem printableHead_append (nonempty : before ≠ []) (boundary : AtBoundary behind) :
    printableHead printable (before ++ behind) = printableHead printable before := by
  rw [printableHead, utf8Head_append nonempty boundary, printableHead]

/-- What is decoded before a boundary does not depend on what is behind it. -/
theorem decodePrintable_append (nonempty : before ≠ []) (boundary : AtBoundary behind) :
    decodePrintable printable (before ++ behind) = decodePrintable printable before := by
  rw [decodePrintable_eq, decodePrintable_eq, printableHead_append nonempty boundary]

/-- **Quoting starts anew at every boundary.** -/
theorem quoteBytesWith_append (printable : Char → Bool) (before : List UInt8)
    (boundary : AtBoundary behind) :
    quoteBytesWith printable (before ++ behind) =
      quoteBytesWith printable before ++ quoteBytesWith printable behind := by
  fun_induction quoteBytesWith printable before with
  | case1 => rfl
  | case2 byte rest c found ih =>
    have same := (printableHead_append (by simp) boundary).trans found
    obtain ⟨starts, -⟩ := printableHead_eq_some_iff.mp found
    have enough : c.utf8Size - 1 ≤ rest.length := by
      have long := starts.length_le
      rw [String.length_utf8EncodeChar, List.length_cons] at long
      omega
    rw [List.cons_append] at same ⊢
    rw [quoteBytesWith, same]
    show verbatim c ++ quoteBytesWith printable ((rest ++ behind).drop (c.utf8Size - 1)) = _
    rw [List.drop_append_of_le_length enough, ih, List.append_assoc]
  | case3 byte rest absent ih =>
    have same := (printableHead_append (by simp) boundary).trans absent
    rw [List.cons_append] at same ⊢
    rw [quoteBytesWith, same]
    show escapeByte byte ++ quoteBytesWith printable (rest ++ behind) = _
    rw [ih, List.append_assoc]

/-! ### Characters -/

/-- A printable character is printed, whatever follows it. -/
theorem quoteBytesWith_encoding (prints : c.toNat ≠ 0xfffd ∧ printable c = true)
    (rest : List UInt8) :
    quoteBytesWith printable (String.utf8EncodeChar c ++ rest) =
      verbatim c ++ quoteBytesWith printable rest := by
  have head : printableHead printable (String.utf8EncodeChar c ++ rest) = some c :=
    printableHead_eq_some_iff.mpr ⟨List.prefix_append _ _, prints⟩
  have length := String.length_utf8EncodeChar c
  cases encoding : String.utf8EncodeChar c with
  | nil =>
    rw [encoding] at length
    exact absurd length.symm (Nat.ne_of_gt c.utf8Size_pos)
  | cons byte others =>
    rw [encoding] at head length
    have others_length : others.length = c.utf8Size - 1 := by
      rw [← length]
      rfl
    rw [List.cons_append] at head ⊢
    rw [quoteBytesWith, head]
    show verbatim c ++ quoteBytesWith printable ((others ++ rest).drop (c.utf8Size - 1)) = _
    rw [List.drop_left' others_length]

/-- Bytes among which no printable character starts are escaped one by one. -/
theorem quoteBytesWith_of_unprintable
    (unprintable : ∀ rest, rest <:+ bytes → printableHead printable rest = none) :
    quoteBytesWith printable bytes = bytes.flatMap escapeByte := by
  induction bytes with
  | nil => rw [quoteBytesWith]; rfl
  | cons byte rest ih =>
    have here := unprintable _ (List.suffix_refl _)
    have below := ih fun others inside => unprintable others (inside.trans (List.suffix_cons _ _))
    rw [quoteBytesWith, here, List.flatMap_cons, ← below]

/-- The encoding of printable characters is quoted as these characters. -/
theorem quoteBytesWith_utf8Bytes {text : List Char}
    (prints : ∀ c ∈ text, c.toNat ≠ 0xfffd ∧ printable c = true) :
    quoteBytesWith printable (utf8Bytes text) = text.flatMap verbatim := by
  induction text with
  | nil =>
    rw [utf8Bytes, List.flatMap_nil, quoteBytesWith]
    rfl
  | cons c rest ih =>
    obtain ⟨here, others⟩ := List.forall_mem_cons.mp prints
    rw [utf8Bytes, List.flatMap_cons, quoteBytesWith_encoding here, List.flatMap_cons, ← ih others]
    rfl

end Bytes

/-! ### Strings -/

/-- Where every character is printable it plays no part which characters are marks and how they fall
into clusters. -/
theorem quoteClusters_of_printable {printable mark : Char → Bool} {parts : List (List Char)}
    (prints : ∀ c ∈ parts.flatten, printable c = true) :
    quoteClusters printable mark parts = parts.flatten.flatMap verbatim := by
  induction parts with
  | nil => rfl
  | cons cluster others ih =>
    rw [List.flatten_cons] at prints ⊢
    obtain ⟨here, below⟩ := List.forall_mem_append.mp prints
    have cluster_eq : quoteCluster printable mark cluster = cluster.flatMap verbatim := by
      rw [quoteCluster, List.flatMap_def, List.flatMap_def]
      refine congrArg List.flatten (List.map_congr_left fun c member => ?_)
      rw [here c member, Bool.or_true, if_pos rfl]
    rw [List.flatMap_append, ← cluster_eq, ← ih below]
    rfl

/-! ### Quoted bytes and quoted strings -/

/-- What stands between the quotes of quoted bytes. -/
def bytesBody (quoted : List Char) : List Char := (quoted.drop 2).dropLast

theorem bytesBody_quoteBytesAs (printable : Char → Bool) (bytes : List UInt8) :
    bytesBody (quoteBytesAs printable bytes) = quoteBytesWith printable bytes :=
  List.dropLast_concat

/-- **Quoting resumes at every boundary**, whatever is printable. If the bytes behind start a
character or there are none, all bytes are quoted as those before and those behind by themselves.
The decoder finds before the boundary what it finds there without the bytes behind, whatever width
was announced. So nothing that stands before a printable character hides or alters it, and garbage,
in which no printable character starts, is escaped byte by byte. -/
theorem quoteBytes_resumes (printable : Char → Bool) (before : List UInt8) :
    (∀ behind, AtBoundary behind →
      bytesBody (quoteBytesAs printable (before ++ behind)) =
          bytesBody (quoteBytesAs printable before) ++ bytesBody (quoteBytesAs printable behind) ∧
        ∀ rest, rest <:+ before → rest ≠ [] →
          decodePrintable printable (rest ++ behind) = decodePrintable printable rest) ∧
      (∀ c behind, c.toNat ≠ 0xfffd ∧ printable c = true →
        bytesBody (quoteBytesAs printable (before ++ (String.utf8EncodeChar c ++ behind))) =
          bytesBody (quoteBytesAs printable before) ++
            (verbatim c ++ bytesBody (quoteBytesAs printable behind))) ∧
      ((∀ rest, rest <:+ before → decodePrintable printable rest = none) →
        bytesBody (quoteBytesAs printable before) = before.flatMap escapeByte) := by
  simp only [bytesBody_quoteBytesAs]
  refine ⟨fun behind boundary => ⟨quoteBytesWith_append printable before boundary, ?_⟩, ?_, ?_⟩
  · exact fun rest _ nonempty => decodePrintable_append nonempty boundary
  · intro c behind prints
    rw [quoteBytesWith_append printable before (atBoundary_encoding c behind),
      quoteBytesWith_encoding prints]
  · intro garbage
    refine quoteBytesWith_of_unprintable fun rest inside => ?_
    have refused := garbage rest inside
    rw [decodePrintable_eq] at refused
    exact Option.map_eq_none_iff.mp refused

/-- Two bytes that promise a third do not hide the letter behind them. -/
theorem quoteBytes_resumes_brokenOff :
    decodePrintable isPrintable [0xe2, 0x82, 0x41] = none ∧
      bytesBody (quoteBytes [0xe2, 0x82, 0x41]) = "\\xe2\\x82A".toList := by
  obtain ⟨split, resumes, escapes⟩ := quoteBytes_resumes isPrintable [0xe2, 0x82]
  have boundary : AtBoundary [0x41] := by decide +kernel
  have garbage : ∀ rest, rest <:+ [0xe2, 0x82] → decodePrintable isPrintable rest = none := by
    intro rest inside
    rw [List.suffix_cons_iff, List.suffix_cons_iff, List.suffix_nil] at inside
    obtain rfl | rfl | rfl := inside <;> decide +kernel
  refine ⟨((split _ boundary).2 _ (List.suffix_refl _) (by simp)).trans
    (garbage _ (List.suffix_refl _)), ?_⟩
  have body := resumes 'A' [] (by decide +kernel)
  rw [escapes garbage] at body
  exact body.trans (by decide +kernel)

/-- **Printable text is quoted alike as bytes and as a string.** Let all characters of a text be
printable by themselves, whatever that means, and none of them the replacement character. Then the
quoted bytes of its encoding are the letter `b` and the quoted string, whatever counts as a mark and
whatever clusters the string falls into, and in both stands the text with a backslash before each
backslash and each double quote. -/
theorem quoteBytes_utf8Bytes {printable : Char → Bool} {text : String}
    (prints : ∀ c ∈ text.toList, c.toNat ≠ 0xfffd ∧ printable c = true) :
    ∀ (mark : Char → Bool) (parts : List (List Char)), parts.flatten = text.toList →
      quoteBytesAs printable (utf8Bytes text.toList) =
          'b' :: quoteStringWith printable mark parts ∧
        quoteStringWith printable mark parts =
          '"' :: text.toList.flatMap (fun c => if c = '\\' ∨ c = '"' then ['\\', c] else [c]) ++
            ['"'] := by
  intro mark parts split
  have string : quoteStringWith printable mark parts =
      '"' :: text.toList.flatMap verbatim ++ ['"'] := by
    rw [← split] at prints ⊢
    rw [quoteStringWith, quoteClusters_of_printable fun c member => (prints c member).2]
  refine ⟨?_, string⟩
  rw [string, quoteBytesAs, quoteBytesWith_utf8Bytes prints]
  rfl

/-- Characters of every width, with a quote and a backslash among them. -/
theorem quoteBytes_utf8Bytes_widths :
    (∀ c ∈ "\"aé\\€𝄞".toList, c.toNat ≠ 0xfffd ∧ isPrintable c = true) ∧
      quoteBytes (utf8Bytes "\"aé\\€𝄞".toList) = 'b' :: quoteString "\"aé\\€𝄞" ∧
      quoteString "\"aé\\€𝄞" = "\"\\\"aé\\\\€𝄞\"".toList := by
  have prints : ∀ c ∈ "\"aé\\€𝄞".toList, c.toNat ≠ 0xfffd ∧ isPrintable c = true := by
    have all : "\"aé\\€𝄞".toList.all fun c => c.toNat ≠ 0xfffd ∧ isPrintable c = true := by
      decide +kernel
    exact fun c member => of_decide_eq_true (List.all_eq_true.mp all c member)
  obtain ⟨alike, string⟩ := quoteBytes_utf8Bytes prints isMark _ (clusters_flatten _)
  exact ⟨prints, alike, string.trans (by decide +kernel)⟩

end CelTree.Render
