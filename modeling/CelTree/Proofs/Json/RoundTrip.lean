/-
**Texts read back.**

* `TextReader.Faithful`: a reader to which nothing is lost that was written. `TextReader.nearest` is
  one.
* `Codec.Lossless`: the documents of a type are proper, they read back as far as they keep to the
  bound, and what is read has a document that does.
* `Codec.RoundTrips`: values survive being written and read, and what was read and is written
  anew stays as it is.
* `Codec.Lossless.roundTrips`: lossless documents have texts that round-trip.
* **`Codec.dataTypes_roundTrip`** — for a faithful reader, trees, entries, constants, source
  information, options, macros and sets of macros round-trip.
* `Codec.nestedLists_refused`: a tree whose document is too deep is written, but not read.
-/

import CelTree.Json.Codec
import CelTree.Proofs.Json.SourceInfo

namespace CelTree

open Json

/-- The reader returns what was written: the document of a compact text, and the finite double of
its shortest digits. -/
structure TextReader.Faithful (reader : TextReader) : Prop where
  document : ∀ json : Json, json.Proper → reader.document (String.ofList json.write) = some json
  double : ReadsBack reader.double

/-- Documents by the machine that goes over their tokens, and every double as the nearest one. -/
def TextReader.nearest : TextReader := ⟨Json.read, Double.read⟩

/-- Reading the nearest double loses nothing that was written. -/
theorem TextReader.faithful_nearest : TextReader.nearest.Faithful where
  document _ proper := Json.read_write proper
  double := readsBack_read

namespace Codec

variable {α : Type} {reader : TextReader}

/-- The documents of the values for which `Storable` holds lose nothing, as far as doubles read
back. -/
structure Lossless (codec : Codec α) (Storable : α → Prop) : Prop where
  proper : ∀ value, (codec.toJson value).Proper
  reads : ∀ readDouble, ReadsBack readDouble → ∀ value, Storable value →
    codec.ofJson? readDouble maxDepth (codec.toJson value) =
      (codec.toJson value).within maxDepth value
  fits : ∀ readDouble json value, codec.ofJson? readDouble maxDepth json = some value →
    Storable value ∧ (codec.toJson value).depth ≤ maxDepth

/-- What is written reads back, unless its document opens too many containers at once: that one is
refused. What was read from any text and is written anew denotes the same value, and writing it
again changes nothing. -/
def RoundTrips (reader : TextReader) (codec : Codec α) (Storable : α → Prop) : Prop :=
  (∀ value, Storable value → codec.decodeWith reader (codec.encode value) =
    if (codec.toJson value).depth ≤ maxDepth then some value else none) ∧
  ∀ text again, codec.recodeWith reader text = some again →
    codec.decodeWith reader again = codec.decodeWith reader text ∧
      codec.recodeWith reader again = some again

namespace Lossless

variable {codec : Codec α} {Storable : α → Prop}

/-- The text of a value is read like its document. -/
theorem decode_encode (lossless : codec.Lossless Storable) (faithful : reader.Faithful) {value : α}
    (storable : Storable value) :
    codec.decodeWith reader (codec.encode value) =
      (codec.toJson value).within maxDepth value := by
  rw [decodeWith, encode, faithful.document _ (lossless.proper value), Option.bind_some,
    lossless.reads reader.double faithful.double value storable]

/-- A value that was read is read again from its text. -/
theorem decode_encode_of_decode (lossless : codec.Lossless Storable) (faithful : reader.Faithful)
    {text : String} {value : α} (found : codec.decodeWith reader text = some value) :
    codec.decodeWith reader (codec.encode value) = some value := by
  obtain ⟨json, -, read⟩ := Option.bind_eq_some_iff.mp found
  obtain ⟨storable, fits⟩ := lossless.fits reader.double json value read
  rw [lossless.decode_encode faithful storable, within_of_le fits]

/-- Lossless documents have texts that round-trip. -/
theorem roundTrips (lossless : codec.Lossless Storable) (faithful : reader.Faithful) :
    codec.RoundTrips reader Storable := by
  refine ⟨fun value storable => lossless.decode_encode faithful storable,
    fun text again found => ?_⟩
  obtain ⟨value, read, rfl⟩ := Option.map_eq_some_iff.mp found
  have reread := lossless.decode_encode_of_decode faithful read
  refine ⟨reread.trans read.symm, ?_⟩
  rw [recodeWith, reread, Option.map_some]

end Lossless

/-! ### The types -/

theorem lossless_expr : expr.Lossless Expr.Storable where
  proper := Expr.proper_toJson
  reads _ readsBack tree storable := tree.ofJson?_toJson readsBack storable maxDepth
  fits _ _ _ found := Expr.fits_of_ofJson? maxDepth found

theorem lossless_entry : entry.Lossless Entry.Storable where
  proper := Entry.proper_toJson
  reads _ readsBack entry storable := entry.ofJson?_toJson readsBack storable maxDepth
  fits _ _ _ found := Entry.fits_of_ofJson? maxDepth found

theorem lossless_constant : constant.Lossless Constant.Storable where
  proper := Constant.proper_toJson
  reads _ readsBack _ storable := Constant.ofJson?_toJson readsBack storable maxDepth
  fits _ _ _ found := Constant.fits_of_ofJson? found

theorem lossless_sourceInfo : sourceInfo.Lossless SourceInfo.Storable where
  proper := SourceInfo.proper_toJson
  reads _ readsBack _ storable := SourceInfo.ofJson?_toJson readsBack storable maxDepth
  fits _ _ _ found := SourceInfo.fits_of_ofJson? found

theorem lossless_options : options.Lossless fun _ => True where
  proper := Options.proper_toJson
  reads _ _ options _ := options.ofJson?_toJson maxDepth
  fits _ _ options _ := ⟨trivial, by
    show options.toJson.depth ≤ maxDepth
    rw [Options.depth_toJson]
    decide⟩

theorem lossless_singleMacro : singleMacro.Lossless fun _ => True where
  proper m := proper_ofText m.function
  reads _ _ m _ := m.ofJson?_toJson maxDepth
  fits _ _ _ _ := ⟨trivial, Nat.zero_le _⟩

theorem lossless_macroSet : macroSet.Lossless fun _ => True where
  proper := MacroSet.proper_toJson
  reads _ _ set _ := set.ofJson?_toJson maxDepth
  fits _ _ set _ := ⟨trivial, by
    show set.toJson.depth ≤ maxDepth
    rw [MacroSet.depth_toJson]
    decide⟩

/-- **The data types round-trip through their texts**, if texts are read faithfully: the document of
a compact text is read back, and so is a finite double that is written with its shortest digits. -/
theorem dataTypes_roundTrip (faithful : reader.Faithful) :
    expr.RoundTrips reader Expr.Storable ∧
    entry.RoundTrips reader Entry.Storable ∧
    constant.RoundTrips reader Constant.Storable ∧
    sourceInfo.RoundTrips reader SourceInfo.Storable ∧
    options.RoundTrips reader (fun _ => True) ∧
    singleMacro.RoundTrips reader (fun _ => True) ∧
    macroSet.RoundTrips reader (fun _ => True) :=
  ⟨lossless_expr.roundTrips faithful, lossless_entry.roundTrips faithful,
    lossless_constant.roundTrips faithful, lossless_sourceInfo.roundTrips faithful,
    lossless_options.roundTrips faithful, lossless_singleMacro.roundTrips faithful,
    lossless_macroSet.roundTrips faithful⟩

/-- A message with an extreme id, whose texts need escapes and whose double is minus zero. -/
def escapedMessage : Expr :=
  .struct (-0x8000000000000000) "\u0007\"\\"
    [.field 1 "\u2028" (.literal 2 (.double (.ofMagnitude true 0))) true,
      .map 3 (.literal 4 (.string "𝔸")) (.literal 5 (.uint64 0xffffffffffffffff)) false]

/-- Source information with negative ids, the greatest offset, and a version in one extension. -/
def extremeInfo : SourceInfo where
  location := "\n"
  lineOffsets := [-0x80000000]
  positions := IdMap.empty.insert (-1) 0xffffffffffffffff
  macroCalls := IdMap.empty.insert (-2) escapedMessage
  extensions := [⟨"", [], none⟩, ⟨"dated", [1], some ⟨1, -1⟩⟩]

/-- Reading the nearest double is faithful. For the one double of the extreme source information,
minus zero, the standard reader has the same. -/
theorem dataTypes_roundTrip_extremeInfo :
    TextReader.nearest.Faithful ∧ extremeInfo.Storable ∧
      sourceInfo.decodeWith .nearest (sourceInfo.encode extremeInfo) = some extremeInfo ∧
      (Double.ofMagnitude true 0).writeFinite doubleLayout .even = "-0.0".toList ∧
      TextReader.standard.double "-0.0".toList = TextReader.nearest.double "-0.0".toList := by
  have finite : (Double.ofMagnitude true 0).isFinite = true := by decide
  have message : escapedMessage.Storable :=
    ⟨by decide, ⟨by decide, by decide, finite⟩, ⟨by decide, ⟨by decide, trivial⟩, by decide,
      trivial⟩, trivial⟩
  have storable : extremeInfo.Storable := by
    constructor
    · intro entry member
      cases List.mem_singleton.mp member
      exact ⟨by decide, trivial⟩
    · intro entry member
      cases List.mem_singleton.mp member
      exact ⟨by decide, message⟩
  have fits : (sourceInfo.toJson extremeInfo).depth ≤ maxDepth := by decide
  obtain ⟨-, -, -, ⟨survives, -⟩, -⟩ := dataTypes_roundTrip TextReader.faithful_nearest
  exact ⟨TextReader.faithful_nearest, storable,
    (survives extremeInfo storable).trans (if_pos fits), by decide +kernel, by decide +kernel⟩

/-! ### Too deep to be read -/

/-- The empty list within as many further lists. -/
def nestedLists : Nat → Expr
  | 0 => .list 1 []
  | count + 1 => .list 1 [nestedLists count]

theorem storable_nestedLists (count : Nat) : (nestedLists count).Storable := by
  induction count with
  | zero => exact ⟨by decide, trivial⟩
  | succ count ih => exact ⟨by decide, ih, trivial⟩

/-- Every list opens four containers: the node, its kind, its record and its array. -/
theorem depth_nestedLists (count : Nat) : (nestedLists count).toJson.depth = 4 * (count + 1) := by
  induction count with
  | zero => rfl
  | succ count ih =>
    rw [nestedLists, Expr.toJson, depth_ofNode]
    show max (max (nestedLists count).toJson.depth 0 + 1) 0 + 1 + 2 = _
    rw [ih]
    omega

/-- Nested lists hold no doubles, so it does not matter how those are read. -/
theorem ofJson?_nestedLists (readDouble : List Char → Option Double) (count bound : Nat) :
    Expr.ofJson? readDouble bound (nestedLists count).toJson =
      (nestedLists count).toJson.within bound (nestedLists count) := by
  induction count generalizing bound with
  | zero => exact Expr.ofJson?_list (by decide) (List.forall_mem_nil _) bound
  | succ count ih =>
    exact Expr.ofJson?_list (by decide) (List.forall_mem_singleton.mpr fun bound => ih bound) bound

/-- **Deep trees are written but not read**: of 32 nested lists 128 containers are open at once. -/
theorem nestedLists_refused :
    (nestedLists 31).Storable ∧ expr.decode (expr.encode (nestedLists 31)) = none := by
  refine ⟨storable_nestedLists 31, ?_⟩
  show (Json.read (String.ofList (nestedLists 31).toJson.write)).bind _ = none
  rw [Json.read_write (nestedLists 31).proper_toJson, Option.bind_some]
  refine (ofJson?_nestedLists _ 31 maxDepth).trans (within_of_gt ?_ _)
  rw [depth_nestedLists]
  decide

end Codec

end CelTree
