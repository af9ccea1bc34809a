/-
**What an operation allocates.**

An operation of a builder allocates the next ids, and places each of them at its own offset. Carried
out one after the other, operations never move what those before them have placed.

* `Step.offset?`: the offset of a step that is an operation.
* `Session.Adds`: an operation allocates an id, at its own offset.
* `step_cases`: a step is an operation, forces a plan, or leaves the builder as it is.
* `operation_advances`: an operation places its new ids at its own offset, and moves no other.
* `Adds.placed_carryOut`, `exists_adds`: the ids that operations allocate one after the other stay
  where each of them was placed, and there are no others.
-/

import CelTree.Proofs.Builder.Positions
import CelTree.Proofs.Plan.Steps
import CelTree.Proofs.Session.Eager

namespace CelTree

/-- The answer names a node or an entry that is built. -/
def Answer.isBuilt : Answer → Bool
  | .node _ _ => true
  | .entry _ _ => true
  | _ => false

namespace Step

/-- The offset of an operation of a builder, whatever its parts. -/
def offset? : Step → Option Offset
  | .node offset _ | .entry offset _ | .constant offset _ => some offset
  | .expandHas offset _ | .maybeExpand offset _ => some offset
  | .force _ | .endPlanning | .ask _ => none

/-- An operation that builds a node or an entry allocates one id at least, and otherwise none. A
call that is built already may stay as it is, without any new ids. -/
def Counts (step : Step) (answer : Answer) (count : Nat) : Prop :=
  match step with
  | .maybeExpand _ _ => 1 ≤ count → answer.isBuilt = true
  | _ => 1 ≤ count ↔ answer.isBuilt = true

end Step

namespace Session

/-- The operation allocates the id, at its own offset. -/
structure Adds (session : Session) (step : Step) (id : Int) (offset : Offset) : Prop where
  own : step.offset? = some offset
  new : session.builder.lastId < id
  allocated : id ≤ (session.step step).2.builder.lastId

/-! ### Steps that plan -/

theorem planNode_unbuilt (session : Session) (offset : Offset)
    (operation : NodeOperation Nat Nat) :
    (session.planNode offset operation).1.isBuilt = false ∧
      (session.planNode offset operation).2.builder = session.builder := by
  unfold planNode
  split
  · split <;> exact ⟨rfl, rfl⟩
  · exact ⟨rfl, rfl⟩

theorem planEntry_unbuilt (session : Session) (offset : Offset) (operation : EntryOperation Nat) :
    (session.planEntry offset operation).1.isBuilt = false ∧
      (session.planEntry offset operation).2.builder = session.builder := by
  unfold planEntry
  split
  · split <;> exact ⟨rfl, rfl⟩
  · exact ⟨rfl, rfl⟩

/-! ### One operation -/

section Operation

variable {session : Session}

/-- Without a plan at hand, or once planning has ended, forcing does nothing. -/
theorem step_force_idle {register : Nat}
    (idle : session.planning = false ∨ session.planAt register = none) :
    (session.step (.force register)).2.builder = session.builder := by
  simp only [step]
  split
  · rename_i planning
    rw [idle.resolve_left (by simp [planning])]
    rfl
  · rfl

/-- A step is an operation, forces a plan at hand, or leaves the builder as it is. -/
theorem step_cases (session : Session) (step : Step) :
    (∃ offset, step.offset? = some offset) ∨
    (∃ register plan, step = .force register ∧ session.planning = true ∧
      session.planAt register = some plan) ∨
    (session.step step).2.builder = session.builder := by
  cases step with
  | force register =>
    refine .inr ?_
    rcases planning : session.planning with _ | _
    · exact .inr (step_force_idle (.inl planning))
    · rcases held : session.planAt register with _ | plan
      · exact .inr (step_force_idle (.inr held))
      · exact .inl ⟨register, plan, rfl, rfl, held⟩
  | endPlanning =>
    refine .inr (.inr ?_)
    simp only [Session.step]
    split <;> rfl
  | ask query => exact .inr (.inr rfl)
  | _ => exact .inl ⟨_, rfl⟩

theorem buildNode_builder (session : Session) (construction : Attempt Expr) :
    (session.buildNode construction).2.builder = (construction.run.run session.builder).2 := by
  rcases ran : construction.run.run session.builder with ⟨error | tree, after⟩
  · rw [buildNode_error ran]
    rfl
  · rw [buildNode_ok ran]
    rfl

/-- A step that builds nothing and leaves the builder as it is allocates no ids. -/
theorem exists_count_of_unbuilt {next : Session} {answer : Answer} (offset : Offset)
    (unbuilt : answer.isBuilt = false) (same : next.builder = session.builder) :
    ∃ count, (1 ≤ count ↔ answer.isBuilt = true) ∧
      session.builder.Advances (List.replicate count offset) next.builder := by
  refine ⟨0, ?_, same ▸ .refl next.builder⟩
  rw [unbuilt]
  simp

/-- A step on trees builds its node at its own offset, or is refused and builds none. -/
theorem buildNode_perform (dense : session.builder.Dense) (offset : Offset)
    (parts : NodeOperation Expr Entry) :
    ∃ count, (1 ≤ count ↔ (session.buildNode (parts.perform offset)).1.isBuilt = true) ∧
      session.builder.Advances (List.replicate count offset)
        (session.buildNode (parts.perform offset)).2.builder := by
  have effect := parts.perform_effect offset session.builder
  rcases ran : (parts.perform offset).run.run session.builder with ⟨error | tree, after⟩
  · obtain ⟨-, -, -, -, same⟩ := NodeOperation.literal_of_perform_error ran
    rw [buildNode_error ran]
    exact exists_count_of_unbuilt offset rfl same
  · rw [ran] at effect
    obtain ⟨count, positive, advances⟩ := effect.advances dense
    rw [buildNode_ok ran]
    exact ⟨count, iff_of_true positive rfl, advances⟩

/-- **An operation places its new ids at its own offset and moves no other.** -/
theorem operation_advances (dense : session.builder.Dense) {step : Step} {offset : Offset}
    (own : step.offset? = some offset) :
    ∃ count, step.Counts (session.step step).1 count ∧
      session.builder.Advances (List.replicate count offset) (session.step step).2.builder := by
  have one (answer : Answer) (built : answer.isBuilt = true) : 1 ≤ 1 ↔ answer.isBuilt = true :=
    iff_of_true (Nat.le_refl 1) built
  cases step with
  | node place operation =>
    cases own
    simp only [Session.step]
    split
    · obtain ⟨unbuilt, same⟩ := session.planNode_unbuilt offset operation
      exact exists_count_of_unbuilt offset unbuilt same
    · split
      · exact buildNode_perform dense offset _
      · exact exists_count_of_unbuilt offset rfl rfl
  | entry place operation =>
    cases own
    simp only [Session.step]
    split
    · obtain ⟨unbuilt, same⟩ := session.planEntry_unbuilt offset operation
      exact exists_count_of_unbuilt offset unbuilt same
    · split
      · rename_i parts resolved
        refine ⟨1, one _ rfl, ?_⟩
        rw [buildEntry, parts.perform_run]
        exact dense.advance offset
      · exact exists_count_of_unbuilt offset rfl rfl
  | constant place value =>
    cases own
    simp only [Session.step]
    split
    · exact exists_count_of_unbuilt offset rfl rfl
    · exact ⟨1, one _ rfl, dense.advance offset⟩
  | expandHas place args =>
    cases own
    simp only [Session.step]
    split
    · exact exists_count_of_unbuilt offset rfl rfl
    · split
      · exact ⟨1, one _ rfl, dense.expandHas offset _⟩
      · exact exists_count_of_unbuilt offset rfl rfl
  | maybeExpand place call =>
    cases own
    simp only [Session.step]
    split
    · exact ⟨0, fun never => (by cases never), .refl _⟩
    · split
      · rename_i tree held
        obtain ⟨count, advances⟩ := dense.maybeExpand offset tree
        exact ⟨count, fun _ => rfl, advances⟩
      · exact ⟨0, fun never => (by cases never), .refl _⟩
  | force register => cases own
  | endPlanning => cases own
  | ask query => cases own

/-- What an operation allocates, it places at its own offset. -/
theorem Adds.placed {step : Step} {id : Int} {offset : Offset}
    (adds : session.Adds step id offset) (dense : session.builder.Dense) :
    (session.step step).2.builder.info.positions.get? id = some offset := by
  obtain ⟨count, -, advances⟩ := operation_advances dense adds.own
  exact advances.get?_of_gt adds.new adds.allocated

/-- A session that builds has nothing to do for any other step. -/
theorem step_builder_of_not_operation (building : session.planning = false) {step : Step}
    (other : step.offset? = none) : (session.step step).2.builder = session.builder := by
  rcases session.step_cases step with ⟨offset, own⟩ | ⟨register, plan, rfl, planning, held⟩ | same
  · cases other.symm.trans own
  · cases building.symm.trans planning
  · exact same

/-- While a session builds, a step only adds to the positions. -/
theorem building_advances (building : session.planning = false) (dense : session.builder.Dense)
    (step : Step) :
    ∃ places, session.builder.Advances places (session.step step).2.builder := by
  cases own : step.offset? with
  | none => exact ⟨[], step_builder_of_not_operation building own ▸ .refl _⟩
  | some offset =>
    obtain ⟨count, -, advances⟩ := operation_advances dense own
    exact ⟨_, advances⟩

end Operation

/-! ### Operations one after the other -/

/-- Steps are carried out as long as they build. -/
theorem carryOut_cons (session : Session) (first : Step) (rest : List Step) :
    session.carryOut (first :: rest) =
      if (session.step first).1.isBuilt then (session.step first).2.carryOut rest
      else (some (session.step first).1, (session.step first).2) := by
  rw [carryOut]
  rcases session.step first with ⟨answer, next⟩
  cases answer <;> rfl

section CarryOut

variable {session middle : Session}

theorem carryOut_planning (building : session.planning = false) (steps : List Step) :
    (session.carryOut steps).2.planning = false := by
  induction steps generalizing session with
  | nil => exact building
  | cons first rest ih =>
    rw [carryOut_cons]
    split
    · exact ih (step_planning building first)
    · exact step_planning building first

theorem carryOut_advances (building : session.planning = false) (dense : session.builder.Dense)
    (steps : List Step) :
    ∃ places, session.builder.Advances places (session.carryOut steps).2.builder := by
  induction steps generalizing session with
  | nil => exact ⟨[], .refl session.builder⟩
  | cons first rest ih =>
    obtain ⟨places, advances⟩ := building_advances building dense first
    rw [carryOut_cons]
    split
    · obtain ⟨places', advances'⟩ := ih (step_planning building first) (advances.dense dense)
      exact ⟨_, advances.trans advances'⟩
    · exact ⟨places, advances⟩

/-- What one of several operations allocates is where that operation has placed it, once all of
them are carried out. -/
theorem Adds.placed_carryOut (building : session.planning = false)
    (dense : session.builder.Dense) {before rest : List Step} {operation : Step} {id : Int}
    {offset : Offset} (done : session.carryOut before = (none, middle))
    (adds : middle.Adds operation id offset) :
    (session.carryOut (before ++ operation :: rest)).2.builder.info.positions.get? id =
      some offset := by
  obtain ⟨places, reached⟩ := carryOut_advances building dense before
  have building' := carryOut_planning building before
  rw [done] at reached building'
  have dense' := reached.dense dense
  have placed := adds.placed dense'
  rw [carryOut_append, done]
  show (middle.carryOut (operation :: rest)).2.builder.info.positions.get? id = some offset
  rw [carryOut_cons]
  split
  · obtain ⟨places', advances⟩ := building_advances building' dense' operation
    obtain ⟨places'', behind⟩ :=
      carryOut_advances (step_planning building' operation) (advances.dense dense') rest
    rw [behind.get?_of_le adds.allocated]
    exact placed
  · exact placed

/-- Each id that several operations allocate is allocated by one of them. -/
theorem exists_adds (building : session.planning = false) (steps : List Step) {id : Int}
    (new : session.builder.lastId < id)
    (allocated : id ≤ (session.carryOut steps).2.builder.lastId) :
    ∃ before operation rest middle offset, steps = before ++ operation :: rest ∧
      session.carryOut before = (none, middle) ∧ middle.Adds operation id offset := by
  induction steps generalizing session with
  | nil => exact absurd allocated (Int.not_le.mpr new)
  | cons first rest ih =>
    rcases Int.lt_or_le (session.step first).2.builder.lastId id with later | here
    · -- the operation has been carried out, and a later one allocates the id
      rw [carryOut_cons] at allocated
      split at allocated
      · rename_i built
        obtain ⟨before, operation, behind, middle, offset, rfl, done, adds⟩ :=
          ih (step_planning building first) later allocated
        refine ⟨first :: before, operation, behind, middle, offset, rfl, ?_, adds⟩
        rw [carryOut_cons, if_pos built]
        exact done
      · exact absurd allocated (Int.not_le.mpr later)
    · cases own : first.offset? with
      | none =>
        rw [step_builder_of_not_operation building own] at here
        exact absurd here (Int.not_le.mpr new)
      | some offset => exact ⟨[], first, rest, session, offset, rfl, rfl, own, new, here⟩

end CarryOut

end Session

end CelTree
