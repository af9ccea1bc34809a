/-
**Where ids are placed.**

A builder places every id that it allocates, and it never moves one.

* `Builder.Dense`: the ids from one to the last one, and no others, are placed.
* `Builder.Advances`: the builder has placed one more id at each of some offsets, in this order. What
  was placed before stays where it is, and nothing else changes but the records of macro calls.
* **`Effect.advances`** — a step places all its new ids at its own offset.
-/

import CelTree.Proofs.Builder.Ids

namespace CelTree

/-! ### Entries -/

namespace IdMap

variable {α : Type}

theorem mem_keys_of_get? {map : IdMap α} {id : Int} {value : α} (found : map.get? id = some value) :
    id ∈ map.keys := by
  by_contra missing
  have absent : find id map.entries = none :=
    find_eq_none fun entry member same => missing (same ▸ List.mem_map_of_mem member)
  rw [get?, absent] at found
  cases found

/-- A value is found in one of two lists of entries, in the first one if it is there. -/
theorem find_append (id : Int) (first second : List (Int × α)) :
    find id (first ++ second) = (find id first).or (find id second) := by
  induction first with
  | nil => rfl
  | cons head rest ih =>
    rw [List.cons_append, find, find, ih]
    split <;> rfl

end IdMap

namespace Builder

/-! ### Dense positions -/

/-- The ids from one to the last one, and no others, are placed. -/
structure Dense (builder : Builder) : Prop where
  start : 0 ≤ builder.lastId
  keys : builder.info.positions.keys = idsBetween 0 builder.lastId

theorem dense_fresh (options : Options) : ({ options } : Builder).Dense :=
  ⟨Int.le_refl 0, rfl⟩

/-- In dense positions, the ids from one to the last one are placed. -/
theorem Dense.mem_keys {builder : Builder} (dense : builder.Dense) {id : Int} :
    id ∈ builder.info.positions.keys ↔ 0 < id ∧ id ≤ builder.lastId := by
  rw [dense.keys, mem_idsBetween]

/-- The second builder has placed one more id at each of the offsets, in this order. -/
structure Advances (builder : Builder) (places : List Offset) (after : Builder) : Prop where
  lastId : after.lastId = builder.lastId + places.length
  entries : after.info.positions.entries =
    builder.info.positions.entries ++ (idsBetween builder.lastId after.lastId).zip places
  options : after.options = builder.options
  syntaxVersion : after.info.syntaxVersion = builder.info.syntaxVersion
  location : after.info.location = builder.info.location
  lineOffsets : after.info.lineOffsets = builder.info.lineOffsets
  extensions : after.info.extensions = builder.info.extensions

namespace Advances

variable {builder middle after : Builder} {places places' : List Offset}

theorem refl (builder : Builder) : builder.Advances [] builder where
  lastId := (Int.add_zero _).symm
  entries := by rw [List.zip_nil_right, List.append_nil]
  options := rfl
  syntaxVersion := rfl
  location := rfl
  lineOffsets := rfl
  extensions := rfl

/-- What is placed first stands before what is placed then. -/
theorem trans (first : builder.Advances places middle) (second : middle.Advances places' after) :
    builder.Advances (places ++ places') after where
  lastId := by
    rw [second.lastId, first.lastId, List.length_append]
    omega
  entries := by
    have one := first.lastId
    have two := second.lastId
    have whole : idsBetween builder.lastId middle.lastId ++ idsBetween middle.lastId after.lastId =
        idsBetween builder.lastId after.lastId := idsBetween_append_eq (by omega) (by omega)
    have ranged : (idsBetween builder.lastId middle.lastId).length = places.length := by
      rw [length_idsBetween]
      omega
    rw [second.entries, first.entries, ← whole, List.zip_append ranged, List.append_assoc]
  options := second.options.trans first.options
  syntaxVersion := second.syntaxVersion.trans first.syntaxVersion
  location := second.location.trans first.location
  lineOffsets := second.lineOffsets.trans first.lineOffsets
  extensions := second.extensions.trans first.extensions

/-- A builder whose positions are dense keeps them so. -/
theorem dense (advances : builder.Advances places after) (dense : builder.Dense) : after.Dense where
  start := by
    have := dense.start
    have := advances.lastId
    omega
  keys := by
    have start := dense.start
    have last := advances.lastId
    have ranged : (idsBetween builder.lastId after.lastId).length ≤ places.length := by
      rw [length_idsBetween]
      omega
    rw [IdMap.keys, advances.entries, List.map_append, List.map_fst_zip ranged]
    show builder.info.positions.keys ++ _ = _
    rw [dense.keys, idsBetween_append_eq start (by omega)]

/-- What was placed before stays where it is. -/
theorem get?_of_le (advances : builder.Advances places after) {id : Int}
    (old : id ≤ builder.lastId) :
    after.info.positions.get? id = builder.info.positions.get? id := by
  have absent : IdMap.find id ((idsBetween builder.lastId after.lastId).zip places) = none := by
    refine IdMap.find_eq_none fun entry member same => ?_
    have new := mem_idsBetween.mp (List.of_mem_zip member).1
    omega
  rw [IdMap.get?, advances.entries, IdMap.find_append, absent, Option.or_none]
  rfl

/-- Of several ids that are placed at one offset, each is there. -/
theorem get?_of_gt {offset : Offset} {count : Nat}
    (advances : builder.Advances (List.replicate count offset) after) {id : Int}
    (new : builder.lastId < id) (allocated : id ≤ after.lastId) :
    after.info.positions.get? id = some offset := by
  have last := advances.lastId
  have ranged : (idsBetween builder.lastId after.lastId).length ≤
      (List.replicate count offset).length := by
    rw [length_idsBetween, List.length_replicate]
    rw [List.length_replicate] at last
    omega
  have listed : id ∈ ((idsBetween builder.lastId after.lastId).zip
      (List.replicate count offset)).map Prod.fst := by
    rw [List.map_fst_zip ranged]
    exact mem_idsBetween.mpr ⟨new, allocated⟩
  obtain ⟨entry, member, rfl⟩ := List.mem_map.mp listed
  have placed : entry.2 = offset := List.eq_of_mem_replicate (List.of_mem_zip member).2
  have inside : entry ∈ after.info.positions.entries := by
    rw [advances.entries]
    exact List.mem_append_right _ member
  rw [IdMap.get?, IdMap.find_of_mem after.info.positions.ascending inside, placed]

/-- A record of a call leaves the positions as they are. -/
theorem recorded (advances : builder.Advances places after) (id : Int) (call : Expr) :
    builder.Advances places (after.recorded id call) := by
  unfold Builder.recorded
  split
  · obtain ⟨lastId, entries, options, syntaxVersion, location, lineOffsets, extensions⟩ := advances
    exact ⟨lastId, entries, options, syntaxVersion, location, lineOffsets, extensions⟩
  · exact advances

end Advances

/-! ### One step -/

variable {builder : Builder}

/-- One id more is placed at the end. -/
theorem Dense.advance (dense : builder.Dense) (offset : Offset) :
    builder.Advances [offset] (builder.advance offset) where
  lastId := rfl
  entries := by
    have above : ∀ key ∈ builder.info.positions.keys, key < builder.lastId + 1 := by
      intro key member
      have := (dense.mem_keys.mp member).2
      omega
    rw [advance_lastId, idsBetween_succ]
    exact builder.info.positions.entries_insert offset above
  options := rfl
  syntaxVersion := rfl
  location := rfl
  lineOffsets := rfl
  extensions := rfl

theorem Dense.advanceBy (dense : builder.Dense) (offset : Offset) (count : Nat) :
    builder.Advances (List.replicate count offset) (builder.advanceBy offset count) := by
  induction count with
  | zero => exact .refl builder
  | succ count ih =>
    rw [List.replicate_succ']
    exact ih.trans ((ih.dense dense).advance offset)

/-- An expansion places all its new ids at the offset of the call. -/
theorem Dense.maybeExpand (dense : builder.Dense) (offset : Offset) (call : Expr) :
    ∃ count, builder.Advances (List.replicate count offset)
      ((Builder.maybeExpand offset call).run builder).2 := by
  rw [maybeExpand_run]
  split
  · rename_i found recognized
    exact ⟨found.size, (dense.advanceBy offset found.size).recorded _ call⟩
  · exact ⟨0, .refl builder⟩

/-- The expansion of a field test places one id, that of the call. -/
theorem Dense.expandHas (dense : builder.Dense) (offset : Offset) (args : List Expr) :
    builder.Advances [offset] ((Builder.expandHas offset args).run builder).2 := by
  unfold Builder.expandHas
  split
  · exact (dense.advance offset).recorded _ _
  · exact dense.advance offset

end Builder

/-- **A step places all its new ids at its own offset.** -/
theorem NodeOperation.Effect.advances {offset : Offset} {builder after : Builder}
    {operation : NodeOperation Expr Entry} {tree : Expr}
    (effect : operation.Effect offset builder (.ok tree) after) (dense : builder.Dense) :
    ∃ count, 1 ≤ count ∧ builder.Advances (List.replicate count offset) after := by
  have one := dense.advance offset
  cases effect with
  | plain unexpanded written => exact ⟨1, Nat.le_refl 1, one⟩
  | test enabled => exact ⟨1, Nat.le_refl 1, one.recorded _ _⟩
  | @fold target function args found recognized =>
    have folded := one.trans ((one.dense dense).advanceBy offset found.size)
    exact ⟨found.size + 1, Nat.le_add_left 1 _, folded.recorded _ _⟩

end CelTree
