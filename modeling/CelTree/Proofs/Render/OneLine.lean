/-
**A constant stays on its line.**

No text of a constant holds a control character or any whitespace but the blank. Inside quotes, only
those characters stand bare that are printable, and the marks of a cluster that begins with a
printable character and goes on with marks only. The classes of characters and the way a string falls
into clusters play no part in this, as long as the characters of the classes stay on the line and the
clusters concatenate to the string.

* `StaysOnLine`: a character is no control character and no whitespace but the blank.
* `exists_units_quoteClusters`, `exists_units_quoteBytesWith`: quoted text, read unit by unit.
* **`literalText_staysOnLine`** — every constant stays on its line, and what is bare in it may be.
* `staysOnLine_of_shown`: the classes of Unicode are such classes.
-/

import CelTree.Proofs.Render.Characters
import CelTree.Proofs.Render.ReadBack
import Mathlib.Data.List.Forall2

namespace CelTree

namespace Text

/-! ### Characters on a line -/

/-- Ranges of the control characters. -/
def controlCodeRanges : Ranges := [(0x0, 0x1f), (0x7f, 0x9f)]

/-- Ranges of the whitespace characters, the blank apart. -/
def otherSpaceRanges : Ranges :=
  [(0x9, 0xd), (0x85, 0x85), (0xa0, 0xa0), (0x1680, 0x1680), (0x2000, 0x200a), (0x2028, 0x2029),
   (0x202f, 0x202f), (0x205f, 0x205f), (0x3000, 0x3000)]

/-- A control character. -/
def isControl (c : Char) : Bool := inRanges controlCodeRanges c.toNat

/-- A whitespace character. -/
def isWhitespace (c : Char) : Bool := c == ' ' || inRanges otherSpaceRanges c.toNat

/-- The character is no control character and no whitespace but the blank. -/
def StaysOnLine (c : Char) : Prop := isControl c = false ∧ (isWhitespace c = true → c = ' ')

/-- No range of one list meets a range of the other. -/
def rangesApart (ranges ranges' : Ranges) : Bool :=
  ranges.all fun range => ranges'.all fun range' => range.2 < range'.1 || range'.2 < range.1

theorem not_inRanges_of_apart {ranges ranges' : Ranges} (apart : rangesApart ranges ranges' = true)
    {code : Nat} (inside : inRanges ranges' code = true) : inRanges ranges code = false := by
  rw [Bool.eq_false_iff]
  intro both
  obtain ⟨range, member, low, high⟩ := (inRanges_iff ranges code).mp both
  obtain ⟨range', member', low', high'⟩ := (inRanges_iff ranges' code).mp inside
  have side := List.all_eq_true.mp (List.all_eq_true.mp apart range member) range' member'
  rw [Bool.or_eq_true, decide_eq_true_eq, decide_eq_true_eq] at side
  omega

theorem inRanges_append (ranges ranges' : Ranges) (code : Nat) :
    inRanges (ranges ++ ranges') code = (inRanges ranges code || inRanges ranges' code) :=
  List.any_append

/-- Characters of ranges that meet neither control characters nor whitespace stay on their line. -/
theorem staysOnLine_of_inRanges {ranges : Ranges}
    (apart : rangesApart (controlCodeRanges ++ otherSpaceRanges) ranges = true) {c : Char}
    (inside : inRanges ranges c.toNat = true) : StaysOnLine c := by
  have others := not_inRanges_of_apart apart inside
  rw [inRanges_append, Bool.or_eq_false_iff] at others
  refine ⟨others.1, fun space => ?_⟩
  rw [isWhitespace, others.2, Bool.or_false, beq_iff_eq] at space
  exact space

/-- No printable character and no mark of Unicode is a control character, and none is whitespace but
the blank. -/
theorem staysOnLine_of_shown {c : Char} (shown : isPrintable c = true ∨ isMark c = true) :
    StaysOnLine c := by
  have apart : rangesApart (controlCodeRanges ++ otherSpaceRanges)
      (printableRanges ++ markRanges) = true := by decide +kernel
  refine staysOnLine_of_inRanges apart ?_
  rw [inRanges_append, Bool.or_eq_true]
  exact shown

end Text

namespace Render

open Text

/-- Whatever takes a place on the line stays on it if the classes do: the visible characters of
ASCII always stay. -/
theorem staysOnLine_of_shows {printable mark : Char → Bool}
    (classes : ∀ c, printable c = true ∨ mark c = true → StaysOnLine c) {c : Char}
    (shows : Shows printable mark c) : StaysOnLine c := by
  rcases shows with visible | shown
  · have apart :
        rangesApart (controlCodeRanges ++ otherSpaceRanges) [(' '.toNat, '~'.toNat)] = true := by
      decide
    refine staysOnLine_of_inRanges apart ((inRanges_iff _ _).mpr ?_)
    exact ⟨_, List.mem_singleton_self _, of_decide_eq_true visible⟩
  · exact classes c shown

/-! ### What is bare inside quotes -/

section Bare

variable {printable mark : Char → Bool}

/-- What is printed of a cluster may stand bare in it. -/
theorem printsIn_of_mem_clusterPieces {cluster : List Char} {c : Char}
    (member : .printed c ∈ clusterPieces printable mark cluster) :
    PrintsIn printable mark cluster c := by
  obtain ⟨original, inside, same⟩ := List.mem_map.mp member
  split at same
  · rename_i printed
    obtain rfl := QuotedPiece.printed.inj same
    exact printsIn_of_printed inside printed
  · cases same

/-- **What is bare in a quoted string may be.** Read unit by unit, the body of a quoted string falls
into as many runs of units as the string has clusters. Each run stands for its cluster, and what is
bare in it may stand bare in the cluster. -/
theorem exists_units_quoteClusters (printable mark : Char → Bool) (parts : List (List Char)) :
    ∃ units : List (List QuotedUnit),
      readUnits ['u', 'U'] (quoteClusters printable mark parts) = some units.flatten ∧
      units.flatten.map QuotedUnit.character = parts.flatten ∧
      List.Forall₂ (fun cluster run => run.map QuotedUnit.character = cluster ∧
        ∀ c, .text c ∈ run → PrintsIn printable mark cluster c) parts units := by
  let pieces := parts.flatMap (clusterPieces printable mark)
  have whole : (parts.map fun cluster =>
      (clusterPieces printable mark cluster).map (QuotedPiece.unit Char.toNat)).flatten =
        pieces.map (QuotedPiece.unit Char.toNat) := List.map_flatMap.symm
  refine ⟨_, ?_, (congrArg _ whole).trans ?_, ?_⟩
  · rw [whole, quoteClusters_eq_flatMap]
    exact (QuotedPiece.writes writes_escapeCharacter pieces).readUnits_eq
  · rw [characters_units, characters_flatMap_clusterPieces]
  · rw [List.forall₂_map_right_iff, List.forall₂_same]
    refine fun cluster _ => ⟨?_, fun c bare => ?_⟩
    · rw [characters_units, character_clusterPieces]
    · exact printsIn_of_mem_clusterPieces (QuotedPiece.text_mem_units bare)

/-- **What is bare in quoted bytes is printable.** Read unit by unit, the body of quoted bytes
stands for the bytes. -/
theorem exists_units_quoteBytesWith (printable : Char → Bool) (bytes : List UInt8) :
    ∃ units, readUnits ['x'] (quoteBytesWith printable bytes) = some units ∧
      units.flatMap QuotedUnit.bytes = bytes ∧ ∀ c, .text c ∈ units → printable c = true := by
  obtain ⟨pieces, rounds, body⟩ := rounds_quoteBytesWith printable bytes
  have writes := QuotedPiece.writes writes_escapeByte pieces
  rw [← body] at writes
  exact ⟨_, writes.readUnits_eq, rounds.bytes_units, fun c bare =>
    rounds.printable_of_printed (QuotedPiece.text_mem_units bare)⟩

end Bare

/-! ### Constants -/

/-- **A constant stays on its line.** Let the characters of two classes, those that are printable
and those that are marks, be no control characters and no whitespace but the blank, and let the
clusters of a text concatenate to it. Then no text of a constant holds a control character, or any
whitespace but the blank. Of each cluster of a string, only those characters stand bare inside the
quotes that are printable, or that are marks in a cluster of a printable character and marks behind
it. Of bytes, only printable characters stand bare. -/
theorem literalText_staysOnLine {printable mark : Char → Bool}
    {split : List Char → List (List Char)}
    (classes : ∀ c, printable c = true ∨ mark c = true → StaysOnLine c)
    (concatenate : ∀ text, (split text).flatten = text) :
    (∀ value : Constant, ∀ c ∈ literalTextWith printable mark split value, StaysOnLine c) ∧
    (∀ text : String, ∃ body units,
      literalTextWith printable mark split (.string text) = '"' :: body ++ ['"'] ∧
      readUnits ['u', 'U'] body = some units.flatten ∧
      units.flatten.map QuotedUnit.character = text.toList ∧
      List.Forall₂ (fun cluster run => run.map QuotedUnit.character = cluster ∧
        ∀ c, .text c ∈ run → PrintsIn printable mark cluster c) (split text.toList) units) ∧
    ∀ bytes : List UInt8, ∃ body units,
      literalTextWith printable mark split (.bytes bytes) = 'b' :: '"' :: body ++ ['"'] ∧
      readUnits ['x'] body = some units ∧ units.flatMap QuotedUnit.bytes = bytes ∧
      ∀ c, .text c ∈ units → printable c = true := by
  refine ⟨fun value c member => staysOnLine_of_shows classes (mem_literalTextWith member),
    fun text => ?_, fun bytes => ?_⟩
  · obtain ⟨units, read, standFor, runs⟩ :=
      exists_units_quoteClusters printable mark (split text.toList)
    exact ⟨_, units, rfl, read, standFor.trans (concatenate text.toList), runs⟩
  · obtain ⟨units, read, standFor, bare⟩ := exists_units_quoteBytesWith printable bytes
    exact ⟨_, units, rfl, read, standFor, bare⟩

/-- The classes and the clusters of Unicode are such, so every constant of a tree stays on its line.
In a string, a mark behind a letter is bare. A line end in one cluster, a mark behind it and a
joiner are escaped. -/
theorem literalText_staysOnLine_unicode :
    (∀ c, isPrintable c = true ∨ isMark c = true → StaysOnLine c) ∧
    (∀ text, (clusters text).flatten = text) ∧
    (∀ value, ∀ c ∈ literalText value, StaysOnLine c) ∧
    literalText (.string (String.ofList
      ['e', Char.ofNat 0x301, '\r', '\n', Char.ofNat 0x301, Char.ofNat 0x200d])) =
      ['"', 'e', Char.ofNat 0x301] ++ "\\r\\n\\u0301\\u200d\"".toList := by
  have classes : ∀ c, isPrintable c = true ∨ isMark c = true → StaysOnLine c :=
    fun _ => staysOnLine_of_shown
  obtain ⟨stays, -, -⟩ := literalText_staysOnLine classes clusters_flatten
  exact ⟨classes, clusters_flatten, stays, by decide +kernel⟩

end Render

end CelTree
