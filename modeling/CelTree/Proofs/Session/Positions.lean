/-
**Positions over whole runs.**

Whatever the steps of a session are, and whatever their parts, the positions hold every id up to the
last one, each at the offset of the operation that allocated it, and a step adds to them at the end.

* `Session.Allocates`: a step allocates an id by an operation at an offset. An operation allocates
  by itself; forcing a plan does so by the operations of the plan's nodes and entries.
* `step_advances`, `allocates_iff`: a step adds to the positions exactly what it allocates.
* **`run_advances`** — so does each step of every run from a new builder.
-/

import CelTree.Proofs.Plan.Stepwise
import CelTree.Proofs.Session.Allocation

namespace CelTree

namespace Session

/-- The step allocates the id by an operation at the offset. Forcing a plan allocates by the
operation of one of the plan's nodes or entries, after those before it, from left to right and parts
before the whole, have been carried out on the session's builder. -/
inductive Allocates (session : Session) : Step → Int → Offset → Prop
  | operation {step : Step} {id : Int} {offset : Offset} (adds : session.Adds step id offset) :
    Allocates session step id offset
  | force {register : Nat} {plan : Plan} {before rest : List Step} {operation : Step}
    {middle : Session} {id : Int} {offset : Offset} (planning : session.planning = true)
    (held : session.planAt register = some plan)
    (split : plan.steps 0 = before ++ operation :: rest)
    (done : ({ builder := session.builder } : Session).carryOut before = (none, middle))
    (adds : middle.Adds operation id offset) :
    Allocates session (.force register) id offset

variable {session : Session}

/-! ### Forcing a plan -/

/-- A session with a builder alone builds. -/
theorem building_of_builder (builder : Builder) : ({ builder } : Session).planning = false := rfl

/-- Forcing a plan leaves the builder that carrying out its operations leaves. -/
theorem step_force_builder (planning : session.planning = true) {register : Nat} {plan : Plan}
    (held : session.planAt register = some plan) :
    (session.step (.force register)).2.builder =
      (({ builder := session.builder } : Session).carryOut (plan.steps 0)).2.builder := by
  have forced : (session.step (.force register)).2.builder =
      (plan.force.run.run session.builder).2 := by
    simp only [step, planning, held]
    exact (session.consume [register]).buildNode_builder plan.force
  rw [forced]
  rcases plan.force_eq_carryOut session.builder with
    ⟨tree, last, ran, carried, -⟩ | ⟨error, done, source, rest, last, ran, -, -, -, carried⟩
  · rw [ran, carried]
  · rw [ran, carried]
    rfl

/-! ### One step -/

/-- Every step only adds to the positions. -/
theorem step_advances (dense : session.builder.Dense) (step : Step) :
    ∃ places, session.builder.Advances places (session.step step).2.builder := by
  rcases session.step_cases step with ⟨offset, own⟩ | ⟨register, plan, rfl, planning, held⟩ | same
  · obtain ⟨count, -, advances⟩ := operation_advances dense own
    exact ⟨_, advances⟩
  · rw [step_force_builder planning held]
    exact carryOut_advances (building_of_builder _) dense (plan.steps 0)
  · exact ⟨[], same ▸ .refl _⟩

/-- What a step allocates is new, and placed at the offset of the operation that allocates it. -/
theorem Allocates.placed {step : Step} {id : Int} {offset : Offset}
    (allocates : session.Allocates step id offset) (dense : session.builder.Dense) :
    session.builder.lastId < id ∧
      (session.step step).2.builder.info.positions.get? id = some offset := by
  cases allocates with
  | operation adds => exact ⟨adds.new, adds.placed dense⟩
  | @force register plan before rest operation middle _ _ planning held split done adds =>
    obtain ⟨places, reached⟩ :=
      carryOut_advances (building_of_builder session.builder) dense before
    rw [done] at reached
    have grown : session.builder.lastId ≤ middle.builder.lastId := by
      rw [reached.lastId]
      exact Int.le_add_of_nonneg_right (Int.natCast_nonneg _)
    refine ⟨Int.lt_of_le_of_lt grown adds.new, ?_⟩
    rw [step_force_builder planning held, split]
    exact adds.placed_carryOut (building_of_builder _) dense done

/-- Each new id is allocated by an operation. -/
theorem exists_allocates (step : Step) {id : Int} (new : session.builder.lastId < id)
    (allocated : id ≤ (session.step step).2.builder.lastId) :
    ∃ offset, session.Allocates step id offset := by
  rcases session.step_cases step with ⟨offset, own⟩ | ⟨register, plan, rfl, planning, held⟩ | same
  · exact ⟨offset, .operation ⟨own, new, allocated⟩⟩
  · rw [step_force_builder planning held] at allocated
    obtain ⟨before, operation, rest, middle, offset, split, done, adds⟩ :=
      exists_adds (building_of_builder session.builder) (plan.steps 0) new allocated
    exact ⟨offset, .force planning held split done adds⟩
  · rw [same] at allocated
    exact absurd allocated (Int.not_le.mpr new)

/-- **A step adds to the positions exactly what it allocates**, each id at the offset of the
operation that allocates it. -/
theorem allocates_iff (dense : session.builder.Dense) (step : Step) (id : Int) (offset : Offset) :
    session.Allocates step id offset ↔ session.builder.lastId < id ∧
      (session.step step).2.builder.info.positions.get? id = some offset := by
  refine ⟨fun allocates => allocates.placed dense, fun ⟨new, placed⟩ => ?_⟩
  obtain ⟨places, advances⟩ := step_advances dense step
  have key := IdMap.mem_keys_of_get? placed
  obtain ⟨offset', allocates⟩ :=
    exists_allocates step new ((advances.dense dense).mem_keys.mp key).2
  have same := (allocates.placed dense).2.symm.trans placed
  cases same
  exact allocates

/-- A step that is refused leaves the builder as it was, unless it forces a plan. -/
theorem step_refused {offset : Offset} {operation : NodeOperation Nat Nat}
    {error : BuildError} (refused : (session.step (.node offset operation)).1 = .refused error) :
    (session.step (.node offset operation)).2.builder = session.builder := by
  simp only [Session.step] at refused ⊢
  split
  · exact (session.planNode_unbuilt offset operation).2
  · rename_i building
    rw [if_neg building] at refused
    split
    · rename_i parts resolved
      simp only [resolved] at refused
      rcases ran : (parts.perform offset).run.run session.builder with ⟨error | tree, after⟩
      · obtain ⟨-, -, -, -, same⟩ := NodeOperation.literal_of_perform_error ran
        rw [buildNode_error ran]
        exact same
      · rw [buildNode_ok ran] at refused
        cases refused
    · rfl

/-! ### Runs -/

/-- Positions stay dense over a run. -/
theorem run_dense (dense : session.builder.Dense) (steps : List Step) :
    (session.run steps).2.builder.Dense := by
  induction steps generalizing session with
  | nil => exact dense
  | cons first rest ih =>
    obtain ⟨places, advances⟩ := step_advances dense first
    exact ih (advances.dense dense)

/-- **Positions are dense, complete and never change.** At each moment of every run from a new
builder, whether it plans or builds and whatever its registers hold, the placed ids are those from
one to the last. The next step adds its new ids at the end and changes neither the positions before,
nor options, version, location, line offsets or extensions. The entries that it adds are the ids
that it allocates, each at the offset of the operation that allocates it: its own, or, if it forces
a plan, that of the planned node or entry. All ids that an operation allocates, those of a macro
included, are at its one offset. A literal that is refused changes nothing at all. -/
theorem run_advances (options : Options) (planning : Bool) (registers : List (Option Item))
    (steps : List Step) (step : Step) :
    let start : Session := { builder := { options }, planning, registers }
    let session := (start.run steps).2
    let answer := (session.step step).1
    let next := (session.step step).2
    session.builder.info.positions.keys = idsBetween 0 session.builder.lastId ∧
      next.builder.info.positions.keys = idsBetween 0 next.builder.lastId ∧
      (∃ places, session.builder.Advances places next.builder) ∧
      (∀ id offset, session.Allocates step id offset ↔
        session.builder.lastId < id ∧ next.builder.info.positions.get? id = some offset) ∧
      (∀ offset, step.offset? = some offset → ∃ count, step.Counts answer count ∧
        session.builder.Advances (List.replicate count offset) next.builder) ∧
      ∀ offset source error, step = .node offset (.literal source) → answer = .refused error →
        next.builder = session.builder := by
  intro start session answer next
  have dense : session.builder.Dense := run_dense (Builder.dense_fresh options) steps
  obtain ⟨places, advances⟩ := step_advances dense step
  refine ⟨dense.keys, (advances.dense dense).keys, ⟨places, advances⟩, allocates_iff dense step,
    fun offset own => operation_advances dense own, ?_⟩
  rintro offset source error rfl refused
  exact step_refused refused

end Session

end CelTree
