/-
**Source information reads back.**

* `IdMap.Storable`: a map whose ids have 64 bits and whose values have documents.
  `IdMap.ofJson?_toJson`: written maps read back, since their entries stand in ascending order.
* `SourceInfo.Storable`: so do both maps of source information.
* **`SourceInfo.ofJson?_toJson`**: where doubles read back, written source information does if the
  bound allows the containers of its document, and is refused otherwise.
* **`SourceInfo.fits_of_ofJson?`**: source information that is read has a document that keeps to the
  bound.
-/

import CelTree.Json.SourceInfo
import CelTree.Proofs.Json.Trees

namespace CelTree

open Json

/-! ### Maps -/

/-- The decimal of an id stands between quotes as it is. -/
theorem Json.closedBody_writeInteger (id : Int) : ClosedBody (Text.writeInteger id) := by
  refine closedBody_of_verbatim fun c member => ?_
  rcases Text.mem_writeInteger member with digit | rfl
  · exact Text.of_isDigitOf digit (by decide)
  · rfl

namespace IdMap

variable {α : Type}

/-- Entries above those of a map come after them, in their order. -/
theorem entries_foldl_insert {entries : List (Int × α)} {start : IdMap α}
    (ascending : (start.entries ++ entries).Pairwise fun first second => first.1 < second.1) :
    (entries.foldl (fun map entry => map.insert entry.1 entry.2) start).entries =
      start.entries ++ entries := by
  induction entries generalizing start with
  | nil => exact (List.append_nil _).symm
  | cons first rest ih =>
    have above : ∀ key ∈ start.keys, key < first.1 := by
      intro key member
      obtain ⟨entry, present, rfl⟩ := List.mem_map.mp member
      exact (List.pairwise_append.mp ascending).2.2 entry present first List.mem_cons_self
    have grown := start.entries_insert first.2 above
    rw [List.append_cons, ← grown] at ascending
    rw [List.foldl_cons, ih ascending, grown, ← List.append_cons]

/-- A map is the map of its entries. -/
theorem ofList_entries (map : IdMap α) : ofList map.entries = map := by
  have entries : (ofList map.entries).entries = [] ++ map.entries :=
    entries_foldl_insert map.ascending
  exact ext_entries entries

/-- Updates add no entries but their own. -/
theorem mem_foldl_insert {entries : List (Int × α)} {start : IdMap α} {entry : Int × α}
    (member : entry ∈
      (entries.foldl (fun map entry => map.insert entry.1 entry.2) start).entries) :
    entry ∈ start.entries ∨ entry ∈ entries := by
  induction entries generalizing start with
  | nil => exact .inl member
  | cons first rest ih =>
    rcases ih member with before | after
    · rcases mem_place before with rfl | old
      · exact .inr List.mem_cons_self
      · exact .inl old
    · exact .inr (List.mem_cons_of_mem _ after)

/-- The map of a list has no other entries. -/
theorem mem_of_mem_ofList {entries : List (Int × α)} {entry : Int × α}
    (member : entry ∈ (ofList entries).entries) : entry ∈ entries :=
  (mem_foldl_insert member).resolve_left List.not_mem_nil

/-- The map has a document: every id has 64 bits, and every value has a document. -/
def Storable (value : α → Prop) (map : IdMap α) : Prop :=
  ∀ entry ∈ map.entries, IsInt64 entry.1 ∧ value entry.2

section Documents

variable {write : α → Json} {read : Json → Option α} {map : IdMap α} {bound : Nat}

/-- A map is proper if its values are; its keys are bare decimals. -/
theorem proper_toJson (each : ∀ value, (write value).Proper) (map : IdMap α) :
    (map.toJson write).Proper := by
  refine Member.properAll_iff.mpr (List.forall_mem_map.mpr fun entry _ => ?_)
  exact ⟨closedBody_writeInteger entry.1, each entry.2⟩

/-- A map opens one container around those of its values. -/
theorem depth_toJson_le_iff :
    (map.toJson write).depth ≤ bound + 1 ↔
      ∀ entry ∈ map.entries, (write entry.2).depth ≤ bound := by
  rw [toJson, depth_object_le_iff, List.forall_mem_map]
  rfl

/-- **A written map reads back** as far as its values keep to the bound. -/
theorem ofJson?_toJson
    (each : ∀ entry ∈ map.entries, IsInt64 entry.1 ∧
      read (write entry.2) = (write entry.2).within bound entry.2) :
    ofJson? read (map.toJson write) = (map.toJson write).within (bound + 1) map := by
  have members : ∀ entry ∈ map.entries,
      ofMember? read (.mk (Text.writeInteger entry.1) (write entry.2)) =
        if (write entry.2).depth ≤ bound then some entry else none := by
    intro entry member
    obtain ⟨inside, reads⟩ := each entry member
    have id : (Json.number (Text.writeInteger entry.1)).toInt64 = some entry.1 :=
      toInt64_ofInteger inside
    rw [ofMember?, Member.key, Member.value, id, reads]
    exact bind_within bound _ entry.2 fun value => some (entry.1, value)
  show ((map.entries.map fun entry => Member.mk (Text.writeInteger entry.1) (write entry.2)).mapM
    (ofMember? read)).map ofList = _
  rw [mapM_ite members]
  by_cases fits : ∀ entry ∈ map.entries, (write entry.2).depth ≤ bound
  · rw [if_pos fits, within_of_le (depth_toJson_le_iff.mpr fits), Option.map_some, ofList_entries]
  · rw [if_neg fits, within_of_gt (Nat.not_le.mp fun more => fits (depth_toJson_le_iff.mp more)),
      Option.map_none]

/-- A map that is read has ids of 64 bits, and each of its values was read. -/
theorem exists_of_ofJson? {json : Json} (found : ofJson? read json = some map) :
    ∀ entry ∈ map.entries, IsInt64 entry.1 ∧ ∃ json, read json = some entry.2 := by
  intro entry member
  unfold ofJson? at found
  split at found
  · obtain ⟨entries, given, rfl⟩ := Option.map_eq_some_iff.mp found
    obtain ⟨part, -, reads⟩ := exists_of_mapM given entry (mem_of_mem_ofList member)
    simp only [ofMember?, Option.bind_eq_bind, Option.bind_eq_some_iff, Option.pure_def,
      Option.some.injEq] at reads
    obtain ⟨id, key, value, held, rfl⟩ := reads
    exact ⟨isInt64_of_toInt64 key, part.value, held⟩
  · cases found

end Documents

end IdMap

/-! ### Extensions -/

theorem Json.proper_ofInt32s (values : List Int32) : (ofInt32s values).Proper :=
  proper_array (List.forall_mem_map.mpr fun value _ => proper_ofInteger value.toInt)

theorem Json.depth_ofInt32s_le (values : List Int32) (bound : Nat) :
    (ofInt32s values).depth ≤ bound + 1 :=
  depth_array_le_iff.mpr (List.forall_mem_map.mpr fun _ _ => Nat.zero_le bound)

/-- Written integers of 32 bits read back. -/
theorem Json.toInt32s_ofInt32s (values : List Int32) (bound : Nat) :
    (ofInt32s values).toInt32s bound = (ofInt32s values).within bound values := by
  cases bound with
  | zero => exact (within_of_gt (Nat.succ_pos _) _).symm
  | succ bound =>
    refine mapM_within fun value _ => ?_
    rw [toInt32_ofInteger, within_of_le (Nat.zero_le _)]

/-- Integers of 32 bits that are read have a document that keeps to the bound. -/
theorem Json.fits_of_toInt32s {bound : Nat} {json : Json} {values : List Int32}
    (found : json.toInt32s bound = some values) : (ofInt32s values).depth ≤ bound := by
  cases bound with
  | zero => cases found
  | succ bound => exact depth_ofInt32s_le values bound

namespace ExtensionVersion

theorem proper_toJson (version : ExtensionVersion) : version.toJson.Proper := by
  refine proper_ofFields ?_
  simp [proper_ofInteger]

theorem toJson_ne_null (version : ExtensionVersion) : version.toJson ≠ .null := Json.noConfusion

/-- **A written version reads back.** -/
theorem ofJson?_toJson (version : ExtensionVersion) (bound : Nat) :
    ofJson? bound version.toJson = version.toJson.within bound version := by
  cases bound with
  | zero => rw [ofJson?, toJson, within_zero_ofFields]
  | succ bound =>
    rw [ofJson?, toJson]
    simp [record_ofFields, within_ofFields, toInt64_ofInteger, isInt64_toInt]

/-- A version that is read has a document that keeps to the bound. -/
theorem fits_of_ofJson? {bound : Nat} {json : Json} {version : ExtensionVersion}
    (found : ofJson? bound json = some version) : version.toJson.depth ≤ bound := by
  cases bound with
  | zero => cases found
  | succ bound =>
    rw [toJson, depth_ofFields_le_iff]
    simp

end ExtensionVersion

namespace Extension

theorem proper_toJson (extension : Extension) : extension.toJson.Proper := by
  refine proper_ofFields ?_
  have version : ((extension.version.map ExtensionVersion.toJson).getD .null).Proper := by
    cases extension.version with
    | none => trivial
    | some version => exact version.proper_toJson
  simp [proper_ofText, proper_ofInt32s, version]

/-- **A written extension reads back.** -/
theorem ofJson?_toJson (extension : Extension) (bound : Nat) :
    ofJson? bound extension.toJson = extension.toJson.within bound extension := by
  cases bound with
  | zero => rw [ofJson?, toJson, within_zero_ofFields]
  | succ bound =>
    have version : nullable (ExtensionVersion.ofJson? bound)
        (some ((extension.version.map ExtensionVersion.toJson).getD .null)) =
          ((extension.version.map ExtensionVersion.toJson).getD .null).within bound
            extension.version := by
      cases extension.version with
      | none => exact (within_of_le (Nat.zero_le bound) none).symm
      | some version => exact nullable_within version.toJson_ne_null (version.ofJson?_toJson bound)
    rw [ofJson?, toJson]
    simp [record_ofFields, within_ofFields, toText_ofText, toInt32s_ofInt32s, version, bind_within,
      ← ite_and]

/-- An extension that is read has a document that keeps to the bound. -/
theorem fits_of_ofJson? {bound : Nat} {json : Json} {extension : Extension}
    (found : ofJson? bound json = some extension) : extension.toJson.depth ≤ bound := by
  cases bound with
  | zero => cases found
  | succ bound =>
    simp only [ofJson?, Option.bind_eq_bind, Option.bind_eq_some_iff] at found
    obtain ⟨fields, -, found⟩ := found
    split at found
    · simp only [Option.bind_eq_some_iff, Option.pure_def, Option.some.injEq] at found
      obtain ⟨id, -, components, given, version, held, rfl⟩ := found
      have versionFits : ((version.map ExtensionVersion.toJson).getD .null).depth ≤ bound := by
        cases version with
        | none => exact Nat.zero_le bound
        | some version =>
          obtain ⟨json, given⟩ := exists_of_nullable held
          exact ExtensionVersion.fits_of_ofJson? given
      rw [toJson, depth_ofFields_le_iff]
      simp [fits_of_toInt32s given, versionFits]
    · cases found

end Extension

/-! ### Source information -/

namespace SourceInfo

/-- The source information has a document: so have both maps. -/
structure Storable (info : SourceInfo) : Prop where
  positions : info.positions.Storable fun _ => True
  macroCalls : info.macroCalls.Storable Expr.Storable

variable {info : SourceInfo} {bound : Nat} {readDouble : List Char → Option Double}

theorem proper_toJson (info : SourceInfo) : info.toJson.Proper := by
  refine proper_ofFields ?_
  have positions := info.positions.proper_toJson fun offset => proper_ofInteger offset.toNat
  have macroCalls := info.macroCalls.proper_toJson Expr.proper_toJson
  have extensions : (Json.array (info.extensions.map Extension.toJson)).Proper :=
    proper_array (List.forall_mem_map.mpr fun extension _ => extension.proper_toJson)
  simp [proper_ofText, proper_ofInt32s, positions, macroCalls, extensions]

/-- A written map of trees reads back. -/
theorem macroCalls?_toJson (readsBack : ReadsBack readDouble) {calls : IdMap Expr}
    (storable : calls.Storable Expr.Storable) (bound : Nat) :
    macroCalls? readDouble bound (calls.toJson Expr.toJson) =
      (calls.toJson Expr.toJson).within bound calls := by
  cases bound with
  | zero => exact (within_of_gt (Nat.succ_pos _) _).symm
  | succ bound =>
    exact IdMap.ofJson?_toJson fun entry member =>
      ⟨(storable entry member).1,
        entry.2.ofJson?_toJson readsBack (storable entry member).2 bound⟩

/-- Written extensions read back. -/
theorem extensions?_toJson (extensions : List Extension) (bound : Nat) :
    extensions? bound (.array (extensions.map Extension.toJson)) =
      (Json.array (extensions.map Extension.toJson)).within bound extensions := by
  cases bound with
  | zero => exact (within_of_gt (Nat.succ_pos _) _).symm
  | succ bound => exact mapM_within fun extension _ => extension.ofJson?_toJson bound

/-- Positions open one container. -/
theorem depth_positions_le (positions : IdMap Offset) (bound : Nat) :
    (positions.toJson fun offset => ofInteger offset.toNat).depth ≤ bound + 1 :=
  IdMap.depth_toJson_le_iff.mpr fun _ _ => Nat.zero_le bound

/-- Written positions read back: they hold no containers. -/
theorem positions_toJson {positions : IdMap Offset} (storable : positions.Storable fun _ => True) :
    IdMap.ofJson? toUInt64 (positions.toJson fun offset => ofInteger offset.toNat) =
      some positions := by
  rw [← within_of_le (depth_positions_le positions 0) positions]
  refine IdMap.ofJson?_toJson fun entry member => ⟨(storable entry member).1, ?_⟩
  rw [toUInt64_ofInteger, within_of_le (Nat.zero_le _)]

/-- **Written source information reads back** if the bound allows its containers, and is refused
otherwise. -/
theorem ofJson?_toJson (readsBack : ReadsBack readDouble) (storable : info.Storable)
    (bound : Nat) : ofJson? readDouble bound info.toJson = info.toJson.within bound info := by
  match bound with
  | 0 => rw [ofJson?, toJson, within_zero_ofFields]
  | 1 =>
    -- The arrays and maps of the record do not open, even if they are empty.
    rw [ofJson?, toJson]
    simp [record_ofFields, within_ofFields, fieldNames, ofInt32s, depth]
  | bound + 2 =>
    rw [ofJson?, toJson]
    simp [record_ofFields, within_ofFields, fieldNames, toText_ofText, toInt32s_ofInt32s,
      positions_toJson storable.positions, macroCalls?_toJson readsBack storable.macroCalls,
      extensions?_toJson, bind_within, depth_ofInt32s_le, depth_positions_le,
      ← ite_and]

/-- **Source information that is read has a document** that keeps to the bound. -/
theorem fits_of_ofJson? {json : Json} (found : ofJson? readDouble bound json = some info) :
    info.Storable ∧ info.toJson.depth ≤ bound := by
  cases bound with
  | zero => cases found
  | succ bound =>
    simp only [ofJson?, Option.bind_eq_bind, Option.bind_eq_some_iff] at found
    obtain ⟨fields, -, found⟩ := found
    split at found
    · split at found
      · cases found
      · rename_i opens
        simp only [Option.bind_eq_some_iff, Option.pure_def, Option.some.injEq] at found
        obtain ⟨syntaxVersion, -, location, -, lineOffsets, -, positions, placed, macroCalls,
          called, extensions, extended, rfl⟩ := found
        obtain ⟨bound, rfl⟩ := Nat.exists_eq_succ_of_ne_zero opens
        have calls := IdMap.exists_of_ofJson? called
        have trees : ∀ entry ∈ macroCalls.entries,
            entry.2.Storable ∧ entry.2.toJson.depth ≤ bound := by
          intro entry member
          obtain ⟨-, json, given⟩ := calls entry member
          exact Expr.fits_of_ofJson? bound given
        refine ⟨⟨fun entry member => ⟨(IdMap.exists_of_ofJson? placed entry member).1, trivial⟩,
          fun entry member => ⟨(calls entry member).1, (trees entry member).1⟩⟩, ?_⟩
        have callsFit : (macroCalls.toJson Expr.toJson).depth ≤ bound + 1 :=
          IdMap.depth_toJson_le_iff.mpr fun entry member => (trees entry member).2
        have extensionsFit : (Json.array (extensions.map Extension.toJson)).depth ≤ bound + 1 := by
          refine depth_array_le_iff.mpr (List.forall_mem_map.mpr fun extension member => ?_)
          simp only [extensions?, Option.bind_eq_bind, Option.bind_eq_some_iff] at extended
          obtain ⟨items, -, given⟩ := extended
          obtain ⟨item, -, read⟩ := exists_of_mapM given extension member
          exact Extension.fits_of_ofJson? read
        rw [toJson, depth_ofFields_le_iff]
        simp [depth_ofInt32s_le, depth_positions_le, callsFit, extensionsFit]
    · cases found

end SourceInfo

end CelTree
