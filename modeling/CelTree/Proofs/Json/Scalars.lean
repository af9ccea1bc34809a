/-
**Constants, macros and options read back.**

For each type: what is read from a written value is that value, if the bound allows its containers.
Doubles have to read back for that. A constant that is read is one whose document keeps to the bound.

* `Constant.Storable`: a constant that has a document; a double does if it is finite.
* `Constant.ofJson?_toJson`, `Macro.ofJson?_toJson`, `MacroSet.ofJson?_toJson`,
  `Options.ofJson?_toJson`: written values read back.
* `Constant.fits_of_ofJson?`: what is read fits.
-/

import CelTree.Json.Scalar
import CelTree.Proofs.Json.Records

namespace CelTree

open Json

/-! ### Constants -/

namespace Constant

/-- The constant has a document: if it is a double, it is finite. -/
def Storable : Constant → Prop
  | .double value => value.isFinite = true
  | _ => True

theorem proper_toJson (value : Constant) : value.toJson.Proper := by
  cases value with
  | null => exact proper_ofText "Null"
  | bool value => exact proper_ofAlternative _ trivial
  | int64 value => exact proper_ofAlternative _ (proper_ofInteger _)
  | uint64 value => exact proper_ofAlternative _ (proper_ofInteger _)
  | double value => exact proper_ofAlternative _ (proper_ofDouble value)
  | string value => exact proper_ofAlternative _ (proper_ofText value)
  | bytes value =>
    exact proper_ofAlternative _ (proper_array (List.forall_mem_map.mpr fun _ _ =>
      proper_ofInteger _))

/-- The bytes of a constant are items without containers. -/
theorem depth_bytes_le_iff (value : List UInt8) (bound : Nat) :
    (Json.array (value.map fun byte => ofInteger byte.toNat)).depth ≤ bound ↔ bound ≠ 0 := by
  cases bound with
  | zero => simp [depth]
  | succ bound =>
    rw [depth_array_le_iff, List.forall_mem_map]
    exact ⟨fun _ => Nat.succ_ne_zero bound, fun _ _ _ => Nat.zero_le bound⟩

variable {readDouble : List Char → Option Double}

/-- The alternatives of constants read back. -/
theorem ofJson?_alternative {name : String} {content : Json} {value : Constant}
    (reads : ∀ bound, ofContent? readDouble bound name content = content.within bound value)
    (bound : Nat) :
    ofJson? readDouble bound (ofAlternative name content) =
      (ofAlternative name content).within bound value := by
  cases bound with
  | zero =>
    rw [within_of_gt (by rw [depth_ofAlternative]; exact Nat.succ_pos _)]
    rfl
  | succ bound =>
    have opened : ofJson? readDouble (bound + 1) (ofAlternative name content) =
        (ofAlternative name content).alternative.bind fun found =>
          ofContent? readDouble bound found.1 found.2 := rfl
    rw [opened, alternative_ofAlternative, Option.bind_some, reads]
    exact within_congr (by rw [depth_ofAlternative, Nat.add_le_add_iff_right]) value

/-- **A written constant reads back.** -/
theorem ofJson?_toJson (readsBack : ReadsBack readDouble) {value : Constant}
    (storable : value.Storable) (bound : Nat) :
    ofJson? readDouble bound value.toJson = value.toJson.within bound value := by
  cases value with
  | null =>
    rw [within_of_le (Nat.zero_le _), toJson, ofText, ofJson?, unescape_escape, if_pos rfl]
  | bool value => exact ofJson?_alternative (fun bound => rfl) bound
  | int64 value =>
    refine ofJson?_alternative (fun bound => ?_) bound
    rw [within_of_le (Nat.zero_le _)]
    show (ofInteger value.toInt).toInt64.map _ = _
    rw [toInt64_ofInteger (isInt64_toInt value), Option.map_some, Int64.ofInt_toInt]
  | uint64 value =>
    refine ofJson?_alternative (fun bound => ?_) bound
    rw [within_of_le (Nat.zero_le _)]
    show (ofInteger value.toNat).toUInt64.map _ = _
    rw [toUInt64_ofInteger, Option.map_some]
  | double value =>
    refine ofJson?_alternative (fun bound => ?_) bound
    rw [within_of_le (by rw [depth_ofDouble]; exact Nat.zero_le _)]
    show ((ofDouble value).toDouble readDouble).map _ = _
    rw [toDouble_ofDouble readsBack storable, Option.map_some]
  | string value =>
    refine ofJson?_alternative (fun bound => ?_) bound
    rw [within_of_le (Nat.zero_le _)]
    show (ofText value).toText.map _ = _
    rw [toText_ofText, Option.map_some]
  | bytes value =>
    refine ofJson?_alternative (fun bound => ?_) bound
    unfold within
    simp only [depth_bytes_le_iff]
    show (if bound = 0 then none
      else ((value.map fun byte => ofInteger byte.toNat).mapM toByte).bind fun bytes =>
        some (Constant.bytes bytes)) = _
    have bytes : (value.map fun byte => ofInteger byte.toNat).mapM toByte = some (value.map id) :=
      mapM_eq_some_map fun byte _ => toByte_ofInteger byte
    rw [bytes, List.map_id, Option.bind_some, ite_not]

/-- **A constant that is read has a document** that keeps to the bound. -/
theorem fits_of_ofJson? {bound : Nat} {json : Json} {value : Constant}
    (read : ofJson? readDouble bound json = some value) :
    value.Storable ∧ value.toJson.depth ≤ bound := by
  have flat {name : String} {content : Json} (scalar : content.depth = 0) (bound : Nat) :
      (ofAlternative name content).depth ≤ bound + 1 := by
    rw [depth_ofAlternative, scalar]
    exact Nat.le_add_left _ _
  unfold ofJson? at read
  split at read
  · split at read
    · cases read
      exact ⟨trivial, Nat.zero_le _⟩
    · cases read
  · cases read
  · rename_i bound _ _
    simp only [Option.bind_eq_bind, Option.bind_eq_some_iff] at read
    obtain ⟨⟨name, content⟩, -, inside⟩ := read
    unfold ofContent? at inside
    split at inside
    · split at inside
      · cases inside
        exact ⟨trivial, Nat.zero_le _⟩
      · cases inside
    split at inside
    · obtain ⟨value, -, rfl⟩ := Option.map_eq_some_iff.mp inside
      exact ⟨trivial, flat rfl _⟩
    split at inside
    · obtain ⟨value, -, rfl⟩ := Option.map_eq_some_iff.mp inside
      exact ⟨trivial, flat rfl _⟩
    split at inside
    · obtain ⟨value, -, rfl⟩ := Option.map_eq_some_iff.mp inside
      exact ⟨trivial, flat rfl _⟩
    split at inside
    · obtain ⟨value, found, rfl⟩ := Option.map_eq_some_iff.mp inside
      exact ⟨isFinite_of_toDouble found, flat (depth_ofDouble value) _⟩
    split at inside
    · obtain ⟨value, -, rfl⟩ := Option.map_eq_some_iff.mp inside
      exact ⟨trivial, flat rfl _⟩
    split at inside
    · split at inside
      · cases inside
      · rename_i opens
        simp only [Option.bind_eq_bind, Option.bind_eq_some_iff, Option.pure_def,
          Option.some.injEq] at inside
        obtain ⟨items, -, value, -, rfl⟩ := inside
        refine ⟨trivial, ?_⟩
        rw [toJson, depth_ofAlternative, Nat.add_le_add_iff_right]
        exact (depth_bytes_le_iff value _).mpr opens
    · cases inside

end Constant

/-! ### Macros and options -/

namespace Macro

theorem ofName?_function (m : Macro) : ofName? m.function = some m := by cases m <;> decide

/-- **A written macro reads back.** -/
theorem ofJson?_toJson (m : Macro) (bound : Nat) :
    ofJson? bound m.toJson = m.toJson.within bound m := by
  rw [within_of_le (Nat.zero_le _), toJson, ofText, ofJson?, unescape_escape, Option.bind_some,
    String.ofList_toList, ofName?_function]

end Macro

namespace MacroSet

theorem proper_toJson (set : MacroSet) : set.toJson.Proper :=
  proper_array (List.forall_mem_map.mpr fun m _ => proper_ofText m.function)

theorem depth_toJson (set : MacroSet) : set.toJson.depth = 1 := by
  have flat : set.toJson.depth ≤ 0 + 1 :=
    depth_array_le_iff.mpr (List.forall_mem_map.mpr fun _ _ => Nat.le_refl 0)
  have opens : 0 < set.toJson.depth := Nat.succ_pos _
  omega

/-- **A written set reads back.** -/
theorem ofJson?_toJson (set : MacroSet) (bound : Nat) :
    ofJson? bound set.toJson = set.toJson.within bound set := by
  cases bound with
  | zero =>
    rw [within_of_gt (by rw [depth_toJson]; exact Nat.one_pos)]
    rfl
  | succ bound =>
    have items : (set.toList.map Macro.toJson).mapM (Macro.ofJson? bound) =
        some (set.toList.map id) :=
      mapM_eq_some_map fun m _ => by
        rw [Macro.ofJson?_toJson, within_of_le (Nat.zero_le _)]
        rfl
    have opened : ofJson? (bound + 1) set.toJson =
        ((set.toList.map Macro.toJson).mapM (Macro.ofJson? bound)).bind fun macros =>
          some (.ofList macros) := rfl
    rw [opened, items, List.map_id, Option.bind_some, ofList_toList,
      within_of_le (by rw [depth_toJson]; exact Nat.le_add_left _ _)]

end MacroSet

namespace Options

theorem proper_toJson (options : Options) : options.toJson.Proper := by
  refine proper_ofFields ?_
  refine List.forall_mem_cons.mpr ⟨trivial, ?_⟩
  exact List.forall_mem_singleton.mpr options.macros.proper_toJson

theorem depth_toJson (options : Options) : options.toJson.depth = 2 := by
  have fields : ∀ bound, options.toJson.depth ≤ bound + 1 ↔ 1 ≤ bound := by
    intro bound
    rw [toJson, depth_ofFields_le_iff]
    simp [MacroSet.depth_toJson, depth]
  have low := fields 0
  have high := fields 1
  omega

/-- **Written options read back.** -/
theorem ofJson?_toJson (options : Options) (bound : Nat) :
    ofJson? bound options.toJson = options.toJson.within bound options := by
  cases bound with
  | zero =>
    rw [within_of_gt (by rw [depth_toJson]; exact Nat.two_pos)]
    rfl
  | succ bound =>
    have fields : options.toJson.record fieldNames true =
        some [some (.bool options.recordCalls), some options.macros.toJson] :=
      record_ofFields rfl (by decide)
    have macros := options.macros.ofJson?_toJson bound
    rw [ofJson?, fields]
    simp only [Option.bind_eq_bind, Option.bind_some, Option.map_some, Option.getD_some, macros,
      Json.toBool]
    unfold within
    simp only [MacroSet.depth_toJson, depth_toJson]
    by_cases fits : 1 ≤ bound
    · rw [if_pos fits, if_pos (Nat.succ_le_succ fits)]
      rfl
    · rw [if_neg fits, if_neg fun more => fits (Nat.le_of_succ_le_succ more)]
      rfl

end Options

end CelTree
