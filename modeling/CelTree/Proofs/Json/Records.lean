/-
**Records, alternatives and open containers.**

* `Json.depth`: the containers of a document that are open at once, at most.
* `Json.within`: a value whose document keeps to a bound, and nothing otherwise. What is read from a
  written document is always of this kind.
* `record_ofFields`, `alternative_ofAlternative`: written records and alternatives read back.
* `mapM_within`: so do arrays, if their items do.
-/

import CelTree.Json.Field
import CelTree.Proofs.Json.Reading

namespace CelTree

/-! ### Open containers -/

mutual

/-- The containers of a document that are open at once, at most. -/
def Json.depth : Json → Nat
  | .null => 0
  | .bool _ => 0
  | .number _ => 0
  | .string _ => 0
  | .array items => Json.depthAll items + 1
  | .object members => Member.depthAll members + 1

/-- The greatest depth of several values. -/
def Json.depthAll : List Json → Nat
  | [] => 0
  | first :: rest => max first.depth (Json.depthAll rest)

/-- The depth of a member's value. -/
def Member.depth : Member → Nat
  | .mk _ value => value.depth

/-- The greatest depth of several members. -/
def Member.depthAll : List Member → Nat
  | [] => 0
  | first :: rest => max first.depth (Member.depthAll rest)

end

theorem Member.depthAll_le_iff {members : List Member} {bound : Nat} :
    Member.depthAll members ≤ bound ↔ ∀ member ∈ members, member.depth ≤ bound := by
  induction members with
  | nil => simp [Member.depthAll]
  | cons first rest ih => rw [Member.depthAll, max_le_iff, ih, List.forall_mem_cons]

theorem Member.properAll_iff {members : List Member} :
    Member.ProperAll members ↔ ∀ member ∈ members, member.Proper := by
  induction members with
  | nil => simp [Member.ProperAll]
  | cons first rest ih => rw [Member.ProperAll, ih, List.forall_mem_cons]

namespace Json

variable {α : Type}

theorem depthAll_le_iff {items : List Json} {bound : Nat} :
    depthAll items ≤ bound ↔ ∀ item ∈ items, item.depth ≤ bound := by
  induction items with
  | nil => simp [depthAll]
  | cons first rest ih => rw [depthAll, max_le_iff, ih, List.forall_mem_cons]

/-- An array opens one container around those of its items. -/
theorem depth_array_le_iff {items : List Json} {bound : Nat} :
    (Json.array items).depth ≤ bound + 1 ↔ ∀ item ∈ items, item.depth ≤ bound := by
  rw [depth, Nat.add_le_add_iff_right, depthAll_le_iff]

theorem depth_object_le_iff {members : List Member} {bound : Nat} :
    (Json.object members).depth ≤ bound + 1 ↔ ∀ member ∈ members, member.depth ≤ bound := by
  rw [depth, Nat.add_le_add_iff_right, Member.depthAll_le_iff]

/-- A record opens one container around those of its fields. -/
theorem depth_ofFields_le_iff {fields : List (String × Json)} {bound : Nat} :
    (ofFields fields).depth ≤ bound + 1 ↔ ∀ field ∈ fields, field.2.depth ≤ bound := by
  rw [ofFields, depth_object_le_iff, List.forall_mem_map]
  rfl

theorem depth_ofAlternative (name : String) (content : Json) :
    (ofAlternative name content).depth = content.depth + 1 := by
  rw [ofAlternative, ofFields, List.map_singleton, depth, Member.depthAll, Member.depthAll,
    Member.depth, Nat.max_zero]

@[simp] theorem depth_null : Json.null.depth = 0 := rfl

@[simp] theorem depth_bool (value : Bool) : (Json.bool value).depth = 0 := rfl

@[simp] theorem depth_ofText (text : String) : (ofText text).depth = 0 := rfl

@[simp] theorem depth_ofInteger (value : Int) : (ofInteger value).depth = 0 := rfl

@[simp] theorem depth_ofDouble (value : Double) : (ofDouble value).depth = 0 := by
  unfold ofDouble
  split <;> rfl

/-- The value, if its document keeps no more containers open at once than allowed. -/
def within (bound : Nat) (json : Json) (value : α) : Option α :=
  if json.depth ≤ bound then some value else none

theorem within_of_le {bound : Nat} {json : Json} (fits : json.depth ≤ bound) (value : α) :
    json.within bound value = some value := if_pos fits

theorem within_of_gt {bound : Nat} {json : Json} (deep : bound < json.depth) (value : α) :
    json.within bound value = none := if_neg (Nat.not_le.mpr deep)

/-- Of two documents that keep to their bounds at the same time, either may decide. -/
theorem within_congr {bound bound' : Nat} {json json' : Json}
    (same : json.depth ≤ bound ↔ json'.depth ≤ bound') (value : α) :
    json.within bound value = json'.within bound' value := by
  unfold within
  simp only [same]

/-! ### Proper documents -/

theorem properAll_iff {items : List Json} : ProperAll items ↔ ∀ item ∈ items, item.Proper := by
  induction items with
  | nil => simp [ProperAll]
  | cons first rest ih => rw [ProperAll, ih, List.forall_mem_cons]

theorem proper_array {items : List Json} (each : ∀ item ∈ items, item.Proper) :
    (Json.array items).Proper := properAll_iff.mpr each

/-- A written text is escaped, so it ends at its closing quote. -/
theorem proper_ofText (text : String) : (ofText text).Proper := closedBody_escape text.toList

theorem proper_ofInteger (value : Int) : (ofInteger value).Proper := isNumber_writeInteger value

/-- A double is written as a number, or as null if it is not finite. -/
theorem proper_ofDouble (value : Double) : (ofDouble value).Proper := by
  unfold ofDouble
  split
  · rename_i finite
    exact isNumber_writeFinite finite
  · trivial

/-- A record is proper if its fields are; their names are escaped. -/
theorem proper_ofFields {fields : List (String × Json)}
    (each : ∀ field ∈ fields, field.2.Proper) : (ofFields fields).Proper := by
  refine Member.properAll_iff.mpr fun member inside => ?_
  obtain ⟨field, given, rfl⟩ := List.mem_map.mp inside
  exact ⟨closedBody_escape field.1.toList, each field given⟩

theorem proper_ofAlternative (name : String) {content : Json} (proper : content.Proper) :
    (ofAlternative name content).Proper :=
  proper_ofFields (List.forall_mem_singleton.mpr proper)

/-! ### Reading back -/

/-- A traversal that succeeds on each member. -/
theorem mapM_eq_some_map {α β γ : Type} {read : β → Option γ} {write : α → β} {value : α → γ}
    {values : List α} (each : ∀ x ∈ values, read (write x) = some (value x)) :
    (values.map write).mapM read = some (values.map value) := by
  induction values with
  | nil => rfl
  | cons first rest ih =>
    obtain ⟨here, below⟩ := List.forall_mem_cons.mp each
    simp only [List.map_cons, List.mapM_cons, here, ih below, Option.bind_eq_bind,
      Option.bind_some, Option.pure_def]

/-- Of fields with different names, one has the name of a field: that field. -/
theorem filter_eq_singleton {fields : List (String × Json)}
    (distinct : (fields.map Prod.fst).Nodup) {field : String × Json} (given : field ∈ fields) :
    (fields.map fun other => (other.1.toList, other.2)).filter (fun member =>
      member.1 == field.1.toList) = [(field.1.toList, field.2)] := by
  induction fields with
  | nil => cases given
  | cons first rest ih =>
    rw [List.map_cons] at distinct ⊢
    obtain ⟨new, below⟩ := List.nodup_cons.mp distinct
    have others {field : String × Json} (given : field ∈ rest) : first.1 ≠ field.1 := by
      rintro same
      exact new (same ▸ List.mem_map_of_mem given)
    rcases List.mem_cons.mp given with rfl | inside
    · rw [List.filter_cons_of_pos (by exact beq_self_eq_true _), List.filter_eq_nil_iff.mpr]
      rintro member inside named
      obtain ⟨other, present, rfl⟩ := List.mem_map.mp inside
      exact others present (String.toList_inj.mp (beq_iff_eq.mp named)).symm
    · rw [List.filter_cons_of_neg, ih below inside]
      rw [beq_iff_eq, String.toList_inj]
      exact others inside

/-- **A written record reads back**, if its fields have different names. -/
theorem record_ofFields {fields : List (String × Json)} {names : List String} {defaults : Bool}
    (listed : fields.map Prod.fst = names) (distinct : names.Nodup) :
    (ofFields fields).record names defaults = some (fields.map fun field => some field.2) := by
  subst listed
  rw [ofFields, record]
  have members : (fields.map fun field => Member.mk (escape field.1.toList) field.2).mapM
      (fun member => (unescape member.key).map fun key => (key, member.value)) =
        some (fields.map fun field => (field.1.toList, field.2)) :=
    mapM_eq_some_map fun field _ => by
      rw [Member.key, unescape_escape]
      rfl
  have found : (fields.map Prod.fst).mapM
      (fieldValue (fields.map fun field => (field.1.toList, field.2))) =
        some (fields.map fun field => some field.2) :=
    mapM_eq_some_map fun field given => by
      rw [fieldValue, filter_eq_singleton distinct given]
  rw [members, Option.bind_eq_bind, Option.bind_some, found]

/-- **A written alternative reads back.** -/
theorem alternative_ofAlternative (name : String) (content : Json) :
    (ofAlternative name content).alternative = some (name, content) := by
  show ((unescape (escape name.toList)).map fun key => (String.ofList key, content)) = _
  rw [unescape_escape, Option.map_some, String.ofList_toList]

/-- A traversal reads what was written if it fits, and nothing else. -/
theorem mapM_ite {β : Type} {read : β → Option α} {write : α → β} {Fits : α → Prop}
    [DecidablePred Fits] {values : List α}
    (each : ∀ value ∈ values, read (write value) = if Fits value then some value else none) :
    (values.map write).mapM read = if ∀ value ∈ values, Fits value then some values else none := by
  induction values with
  | nil => rfl
  | cons first rest ih =>
    obtain ⟨here, below⟩ := List.forall_mem_cons.mp each
    simp only [List.map_cons, List.mapM_cons, here, ih below, List.forall_mem_cons]
    by_cases fits : Fits first
    · simp only [fits, if_true, true_and]
      split <;> rfl
    · simp only [fits, if_false, false_and]
      rfl

/-- **Written items read back** as far as they keep to the bound. -/
theorem mapM_within {read : Json → Option α} {write : α → Json} {bound : Nat}
    {values : List α} (each : ∀ value ∈ values, read (write value) = (write value).within bound value) :
    (values.map write).mapM read =
      (Json.array (values.map write)).within (bound + 1) values := by
  rw [mapM_ite each]
  simp only [within, depth_array_le_iff, List.forall_mem_map]

/-- What is read from several parts is read from one of them each. -/
theorem exists_of_mapM {β : Type} {read : β → Option α} {parts : List β} {results : List α}
    (reads : parts.mapM read = some results) :
    ∀ result ∈ results, ∃ part ∈ parts, read part = some result := by
  induction parts generalizing results with
  | nil =>
    cases reads
    exact List.forall_mem_nil _
  | cons first rest ih =>
    simp only [List.mapM_cons, Option.bind_eq_bind, Option.bind_eq_some_iff, Option.pure_def,
      Option.some.injEq] at reads
    obtain ⟨result, here, others, below, rfl⟩ := reads
    refine List.forall_mem_cons.mpr ⟨⟨first, List.mem_cons_self, here⟩, fun other member => ?_⟩
    obtain ⟨part, given, found⟩ := ih below other member
    exact ⟨part, List.mem_cons_of_mem _ given, found⟩

/-- A value that is not written as null reads back where null is allowed too. -/
theorem nullable_within {read : Json → Option α} {json : Json} {bound : Nat} {value : α}
    (present : json ≠ .null) (reads : read json = json.within bound value) :
    nullable read (some json) = json.within bound (some value) := by
  have same : nullable read (some json) = (read json).map some := by
    unfold nullable
    split
    · contradiction
    · exact absurd (Option.some.inj ‹_›) present
    · rename_i given
      cases given
      rfl
  rw [same, reads]
  unfold within
  split <;> rfl

/-- A value that may be null is read from a value if it is there. -/
theorem exists_of_nullable {read : Json → Option α} {field : Option Json} {value : α}
    (found : nullable read field = some (some value)) : ∃ json, read json = some value := by
  unfold nullable at found
  split at found
  · cases found
  · cases found
  · rename_i json _
    exact ⟨json, by simpa using found⟩

/-- To go on with a part is to go on if the part fits. -/
theorem bind_within {β : Type} (bound : Nat) (json : Json) (value : α) (next : α → Option β) :
    (json.within bound value).bind next = if json.depth ≤ bound then next value else none := by
  unfold within
  split <;> rfl

/-- A record opens a container, so it keeps to no bound of zero. -/
theorem within_zero_ofFields (fields : List (String × Json)) (value : α) :
    (ofFields fields).within 0 value = none := within_of_gt (Nat.succ_pos _) value

/-- A record keeps to a bound if its fields keep to the one below. -/
theorem within_ofFields (bound : Nat) (fields : List (String × Json)) (value : α) :
    (ofFields fields).within (bound + 1) value =
      if ∀ field ∈ fields, field.2.depth ≤ bound then some value else none := by
  unfold within
  simp only [depth_ofFields_le_iff]

end Json

end CelTree
