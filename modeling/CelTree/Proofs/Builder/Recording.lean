/-
**Builders that record.**

* `IdMap.Within`: every value of one map is in another.
* `Builder.Recording`: a builder that records calls, each under an id that is allocated.
* `Builder.Grows`: what later constructions leave of a record. They change nothing under ids that
  are allocated before them.
-/

import CelTree.Proofs.Builder.Effect

namespace CelTree

/-- Every value in the first map is also in the second one. -/
def IdMap.Within {α : Type} (small large : IdMap α) : Prop :=
  ∀ id value, small.get? id = some value → large.get? id = some value

namespace Builder

/-- The builder records calls, and every record stands under an id that is allocated. -/
structure Recording (builder : Builder) : Prop where
  enabled : builder.options.recordCalls = true
  start : 0 ≤ builder.lastId
  allocated : ∀ id, (builder.info.macroCalls.get? id).isSome = true → id ≤ builder.lastId

theorem recording_fresh {options : Options} (enabled : options.recordCalls = true) :
    ({ options } : Builder).Recording where
  enabled := enabled
  start := Int.le_refl 0
  allocated id present := by cases present

/-- No record stands under an id that is not allocated yet. -/
theorem Recording.get?_eq_none {builder : Builder} (recording : builder.Recording) {id : Int}
    (later : builder.lastId < id) : builder.info.macroCalls.get? id = none := by
  rw [← Option.not_isSome_iff_eq_none]
  intro present
  have := recording.allocated id present
  omega

/-- A builder that keeps the records and allocates ids still records. -/
theorem Recording.kept {builder after : Builder} (recording : builder.Recording)
    (options : after.options = builder.options) (grows : builder.lastId ≤ after.lastId)
    (same : after.info.macroCalls = builder.info.macroCalls) : after.Recording where
  enabled := by
    rw [options]
    exact recording.enabled
  start := Int.le_trans recording.start grows
  allocated id present := by
    rw [same] at present
    exact Int.le_trans (recording.allocated id present) grows

/-- A builder that inserts a record under an allocated id still records. -/
theorem Recording.inserted {builder after : Builder} (recording : builder.Recording)
    (options : after.options = builder.options) (grows : builder.lastId ≤ after.lastId) {id : Int}
    {call : Expr} (allocated : id ≤ after.lastId)
    (added : after.info.macroCalls = builder.info.macroCalls.insert id call) :
    after.Recording where
  enabled := by
    rw [options]
    exact recording.enabled
  start := Int.le_trans recording.start grows
  allocated other present := by
    rw [added, IdMap.get?_insert] at present
    by_cases same : other = id
    · rw [same]
      exact allocated
    · rw [if_neg same] at present
      exact Int.le_trans (recording.allocated other present) grows

/-- The second builder records calls and has allocated all ids of the first one, under which it has
the same records. -/
structure Grows (builder after : Builder) : Prop where
  recording : after.Recording
  options : after.options = builder.options
  lastId : builder.lastId ≤ after.lastId
  old : ∀ id ≤ builder.lastId, after.info.macroCalls.get? id = builder.info.macroCalls.get? id

theorem Grows.refl {builder : Builder} (recording : builder.Recording) : builder.Grows builder :=
  ⟨recording, rfl, Int.le_refl _, fun _ _ => rfl⟩

theorem Grows.trans {builder middle after : Builder} (first : builder.Grows middle)
    (second : middle.Grows after) : builder.Grows after where
  recording := second.recording
  options := second.options.trans first.options
  lastId := Int.le_trans first.lastId second.lastId
  old id allocated :=
    (second.old id (Int.le_trans allocated first.lastId)).trans (first.old id allocated)

theorem Grows.advance {base builder : Builder} (grows : base.Grows builder) (offset : Offset) :
    base.Grows (builder.advance offset) where
  recording := grows.recording.kept rfl (Int.le_add_one (Int.le_refl _)) rfl
  options := grows.options
  lastId := Int.le_add_one grows.lastId
  old := grows.old

theorem Grows.advanceBy {base builder : Builder} (grows : base.Grows builder) (offset : Offset)
    (count : Nat) : base.Grows (builder.advanceBy offset count) := by
  induction count with
  | zero => exact grows
  | succ count ih => exact ih.advance offset

/-- A record under an id that is allocated later leaves those before it. -/
theorem Grows.recorded {base builder : Builder} (grows : base.Grows builder) {id : Int}
    (call : Expr) (above : base.lastId < id) (allocated : id ≤ builder.lastId) :
    base.Grows (builder.recorded id call) where
  recording := by
    have same := recorded_lastId builder id call
    exact grows.recording.inserted (recorded_options builder id call) (Int.le_of_eq same.symm)
      (same.symm ▸ allocated) (recorded_macroCalls builder id call grows.recording.enabled)
  options := by
    rw [recorded_options]
    exact grows.options
  lastId := by
    rw [recorded_lastId]
    exact grows.lastId
  old other older := by
    have different : other ≠ id := by omega
    rw [recorded_get?_of_ne builder call different]
    exact grows.old other older

/-- A record under an id that has none is added to the others. -/
theorem within_recorded (builder : Builder) {id : Int} (call : Expr)
    (absent : builder.info.macroCalls.get? id = none) :
    builder.info.macroCalls.Within (builder.recorded id call).info.macroCalls := by
  intro other value found
  have different : other ≠ id := by
    intro same
    rw [same, absent] at found
    cases found
  rw [recorded_get?_of_ne builder call different, found]

/-- A builder that grows keeps its records. -/
theorem Grows.within {builder after : Builder} (grows : builder.Grows after)
    (recording : builder.Recording) : builder.info.macroCalls.Within after.info.macroCalls := by
  intro id call found
  have allocated : id ≤ builder.lastId := recording.allocated id (by rw [found]; rfl)
  rw [grows.old id allocated, found]

end Builder

end CelTree
