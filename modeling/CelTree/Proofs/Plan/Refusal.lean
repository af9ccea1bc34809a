/-
**Forcing stops at the first refused literal.**

Nothing but a literal is refused, wherever in a plan it stands. The literals of a plan are met from
left to right and depth first, and the first one without a value decides: its offset and its reason
are the error, and the builder is left as the nodes and entries that were complete by then have made
it. What is forced afterwards takes the ids that follow.

* `Plan.literals`: the literals of a plan in the order in which they are met; `literals_steps`: they
  are those of its steps.
* `Session.accepted_of_carryOut`: steps are carried out only if their literals have values.
* `Builder.Continues`: a builder goes on with its next ids. `Plan.force_continues`: so does forcing.
* **`Plan.force_refused_iff`** — when forcing is refused, with which error, and what it leaves.
-/

import CelTree.Proofs.Builder.Translation
import CelTree.Proofs.Plan.Closure
import CelTree.Proofs.Plan.Stepwise

namespace CelTree

/-! ### The literals of a plan -/

mutual

/-- The literals of a plan with their offsets, from left to right: those of a target before those of
the arguments, and those of a key before those of its value. -/
def Plan.literals : Plan → List (Offset × Literal)
  | .literal offset source => [(offset, source)]
  | .ident _ _ => []
  | .select _ operand _ => operand.literals
  | .call _ _ args => Plan.literalsAll args
  | .memberCall _ target _ args => target.literals ++ Plan.literalsAll args
  | .operatorCall _ _ args => Plan.literalsAll args
  | .index _ operand subscript => operand.literals ++ subscript.literals
  | .list _ elements => Plan.literalsAll elements
  | .struct _ _ entries => PlanEntry.literalsAll entries

/-- The literals of several plans, one plan after the other. -/
def Plan.literalsAll : List Plan → List (Offset × Literal)
  | [] => []
  | first :: rest => first.literals ++ Plan.literalsAll rest

/-- The literals of a planned entry. -/
def PlanEntry.literals : PlanEntry → List (Offset × Literal)
  | .map _ key value _ => key.literals ++ value.literals
  | .field _ _ value _ => value.literals

/-- The literals of several planned entries, one entry after the other. -/
def PlanEntry.literalsAll : List PlanEntry → List (Offset × Literal)
  | [] => []
  | first :: rest => first.literals ++ PlanEntry.literalsAll rest

end

/-- The literal that a step builds, with its offset. -/
def Step.literal? : Step → Option (Offset × Literal)
  | .node offset (.literal source) => some (offset, source)
  | _ => none

/-- A step with a literal is a literal node. -/
theorem Step.eq_of_literal? {step : Step} {leaf : Offset × Literal}
    (built : step.literal? = some leaf) : step = .node leaf.1 (.literal leaf.2) := by
  unfold Step.literal? at built
  split at built
  · cases built
    rfl
  · cases built

mutual

/-- The literals of a plan are those of its steps. -/
theorem Plan.literals_steps (base : Nat) :
    (plan : Plan) → (plan.steps base).filterMap Step.literal? = plan.literals
  | .literal _ _ => rfl
  | .ident _ _ => rfl
  | .select _ operand _ => by
    rw [Plan.steps, List.filterMap_append, operand.literals_steps]
    exact List.append_nil _
  | .call _ _ args => by
    rw [Plan.steps, List.filterMap_append, Plan.literals_stepsAll]
    exact List.append_nil _
  | .memberCall _ target _ args => by
    rw [Plan.steps, List.filterMap_append, List.filterMap_append, target.literals_steps,
      Plan.literals_stepsAll]
    exact congrArg (target.literals ++ ·) (List.append_nil _)
  | .operatorCall _ _ args => by
    rw [Plan.steps, List.filterMap_append, Plan.literals_stepsAll]
    exact List.append_nil _
  | .index _ operand subscript => by
    rw [Plan.steps, List.filterMap_append, List.filterMap_append, operand.literals_steps,
      subscript.literals_steps]
    exact congrArg (operand.literals ++ ·) (List.append_nil _)
  | .list _ elements => by
    rw [Plan.steps, List.filterMap_append, Plan.literals_stepsAll]
    exact List.append_nil _
  | .struct _ _ entries => by
    rw [Plan.steps, List.filterMap_append, PlanEntry.literals_stepsAll]
    exact List.append_nil _

theorem Plan.literals_stepsAll (base : Nat) :
    (plans : List Plan) →
      (Plan.stepsAll base plans).filterMap Step.literal? = Plan.literalsAll plans
  | [] => rfl
  | first :: rest => by
    rw [Plan.stepsAll, List.filterMap_append, first.literals_steps, Plan.literals_stepsAll,
      Plan.literalsAll]

theorem PlanEntry.literals_steps (base : Nat) :
    (entry : PlanEntry) → (entry.steps base).filterMap Step.literal? = entry.literals
  | .map _ key value _ => by
    rw [PlanEntry.steps, List.filterMap_append, List.filterMap_append, key.literals_steps,
      value.literals_steps]
    exact congrArg (key.literals ++ ·) (List.append_nil _)
  | .field _ _ value _ => by
    rw [PlanEntry.steps, List.filterMap_append, value.literals_steps]
    exact List.append_nil _

theorem PlanEntry.literals_stepsAll (base : Nat) :
    (entries : List PlanEntry) →
      (PlanEntry.stepsAll base entries).filterMap Step.literal? = PlanEntry.literalsAll entries
  | [] => rfl
  | first :: rest => by
    rw [PlanEntry.stepsAll, List.filterMap_append, first.literals_steps,
      PlanEntry.literals_stepsAll, PlanEntry.literalsAll]

end

/-! ### Steps that are carried out -/

namespace Session

/-- Steps are carried out only if all their literals have values. -/
theorem accepted_of_carryOut {session last : Session} (building : session.planning = false)
    {steps : List Step} (run : session.carryOut steps = (none, last)) :
    ∀ leaf ∈ steps.filterMap Step.literal?, ∃ value, leaf.2.value = .ok value := by
  induction steps generalizing session with
  | nil => exact List.forall_mem_nil _
  | cons first rest ih =>
    have here : ∀ leaf ∈ first.literal?, ∃ value, leaf.2.value = .ok value := by
      intro leaf built
      cases known : leaf.2.value with
      | ok value => exact ⟨value, rfl⟩
      | error reason =>
        -- the steps would have stopped at it
        rw [Step.eq_of_literal? built, Session.carryOut,
          step_literal_refused building leaf.1 known] at run
        cases run
    have below : ∀ leaf ∈ rest.filterMap Step.literal?, ∃ value, leaf.2.value = .ok value := by
      have kept := step_planning building first
      rw [Session.carryOut] at run
      generalize session.step first = stepped at run kept
      obtain ⟨answer, next⟩ := stepped
      cases answer with
      | node id kind => exact ih kept run
      | entry id optional => exact ih kept run
      | _ => cases run
    intro leaf member
    obtain ⟨step, inside, built⟩ := List.mem_filterMap.mp member
    rcases List.mem_cons.mp inside with rfl | later
    · exact here leaf built
    · exact below leaf (List.mem_filterMap.mpr ⟨step, later, built⟩)

end Session

/-! ### The next ids -/

/-- The second builder has taken the ids that follow the first one's last, in order, and may have
recorded calls. -/
def Builder.Continues (builder after : Builder) : Prop :=
  ∃ additions : Additions, after = builder.add additions ∧
    additions.placed.map Prod.fst = idsBetween builder.lastId after.lastId

namespace Builder.Continues

variable {builder middle after : Builder}

theorem refl (builder : Builder) : builder.Continues builder :=
  ⟨.none, builder.add_none.symm, (idsBetween_self _).symm⟩

theorem le (continues : builder.Continues after) : builder.lastId ≤ after.lastId := by
  obtain ⟨additions, rfl, -⟩ := continues
  exact Int.le_add_of_nonneg_right (Int.natCast_nonneg _)

theorem trans (first : builder.Continues middle) (second : middle.Continues after) :
    builder.Continues after := by
  have between := idsBetween_append_eq first.le second.le
  obtain ⟨additions, rfl, placed⟩ := first
  obtain ⟨additions', rfl, placed'⟩ := second
  refine ⟨additions.append additions', builder.add_append additions additions', ?_⟩
  rw [← between, ← placed, ← placed']
  exact List.map_append

theorem advanceBy (builder : Builder) (offset : Offset) (count : Nat) :
    builder.Continues (builder.advanceBy offset count) := by
  refine ⟨.placing builder.lastId offset count, builder.advanceBy_eq_add offset count, ?_⟩
  rw [builder.advanceBy_lastId]
  exact (List.map_map ..).trans (List.map_id _)

theorem recorded (builder : Builder) (id : Int) (call : Expr) :
    builder.Continues (builder.recorded id call) := by
  refine ⟨.recording builder.options id call, builder.recorded_eq_add id call, ?_⟩
  rw [builder.recorded_lastId]
  exact (idsBetween_self _).symm

end Builder.Continues

open Builder

namespace NodeOperation.Effect

variable {offset : Offset} {operation : NodeOperation Expr Entry} {builder after : Builder}

/-- Each step continues the builder. -/
theorem continues {outcome : Except BuildError Expr}
    (effect : operation.Effect offset builder outcome after) : builder.Continues after := by
  have one (builder : Builder) : builder.Continues (builder.advance offset) :=
    .advanceBy builder offset 1
  cases effect with
  | refused value => exact .refl builder
  | plain unexpanded written => exact one builder
  | test enabled => exact (one builder).trans (.recorded _ _ _)
  | fold recognized => exact ((one builder).trans (.advanceBy _ _ _)).trans (.recorded _ _ _)

/-- A step that results in a node takes an id. -/
theorem lastId_lt {tree : Expr} (effect : operation.Effect offset builder (.ok tree) after) :
    builder.lastId < after.lastId := by
  cases effect with
  | plain unexpanded written => exact Int.lt_succ _
  | test enabled =>
    rw [recorded_lastId]
    exact Int.lt_succ _
  | fold recognized =>
    rw [recorded_lastId, advanceBy_lastId, advance_lastId]
    omega

end NodeOperation.Effect

/-- Wherever they start, steps on trees go on with the next ids, and sequences inherit it. -/
theorem Attempt.closed_continues :
    Attempt.Closed (fun _ => True) (fun _ => True) fun _ One construction =>
      ∀ builder, builder.Continues (construction.run.run builder).2 ∧
        ∀ value, (construction.run.run builder).1 = .ok value → One value where
  pure here builder := ⟨.refl builder, fun value same => by cases same; exact here⟩
  bind := by
    intro α β One Two construction rest one two builder
    obtain ⟨first, held⟩ := one builder
    rw [Attempt.run_bind]
    rcases ran : construction.run.run builder with ⟨error | value, middle⟩
    · rw [ran] at first
      exact ⟨first, fun _ never => by cases never⟩
    · rw [ran] at first held
      obtain ⟨second, held'⟩ := two value (held value rfl) middle
      exact ⟨first.trans second, held'⟩
  node offset operation _ _ builder :=
    ⟨(operation.perform_effect offset builder).continues, fun _ _ => trivial⟩
  entry offset operation _ builder := by
    rw [Attempt.run_lift, EntryOperation.perform_run]
    exact ⟨.advanceBy builder offset 1, fun _ _ => trivial⟩

section Forcing

variable {builder after : Builder}

/-- **Forcing goes on with the next ids**, also where it is refused. -/
theorem Plan.force_continues (plan : Plan) (builder : Builder) :
    builder.Continues (plan.force.run.run builder).2 :=
  (plan.force_of_closed Attempt.closed_continues (fun _ _ => trivial) builder).1

theorem Plan.forceAll_continues (plans : List Plan) (builder : Builder) :
    builder.Continues ((Plan.forceAll plans).run.run builder).2 :=
  (Plan.forceAll_of_closed Attempt.closed_continues plans (fun _ _ => trivial) builder).1

theorem PlanEntry.forceAll_continues (entries : List PlanEntry) (builder : Builder) :
    builder.Continues ((PlanEntry.forceAll entries).run.run builder).2 :=
  (PlanEntry.forceAll_of_closed Attempt.closed_continues entries (fun _ _ => trivial) builder).1

/-- A step that builds a node allocates an id. -/
theorem NodeOperation.lastId_lt_of_perform {operation : NodeOperation Expr Entry} {offset : Offset}
    {tree : Expr} (built : (operation.perform offset).run.run builder = (.ok tree, after)) :
    builder.lastId < after.lastId := by
  have effect := operation.perform_effect offset builder
  rw [built] at effect
  exact effect.lastId_lt

/-- A sequence takes an id if its second part does. -/
theorem Attempt.lastId_lt_of_bind {α : Type} {first : Attempt α} {rest : α → Attempt Expr}
    {tree : Expr} (continues : builder.Continues (first.run.run builder).2)
    (takes : ∀ value middle, (rest value).run.run middle = (.ok tree, after) →
      middle.lastId < after.lastId)
    (built : (first >>= rest).run.run builder = (.ok tree, after)) :
    builder.lastId < after.lastId := by
  obtain ⟨value, middle, ran, built⟩ := Attempt.of_run_bind_ok built
  rw [ran] at continues
  exact Int.lt_of_le_of_lt continues.le (takes value middle built)

/-- A plan that is built takes an id. -/
theorem Plan.lastId_lt_of_force {plan : Plan} {tree : Expr}
    (built : plan.force.run.run builder = (.ok tree, after)) : builder.lastId < after.lastId := by
  cases plan with
  | literal offset source => exact NodeOperation.lastId_lt_of_perform built
  | ident offset name => exact NodeOperation.lastId_lt_of_perform built
  | select offset operand field =>
    exact Attempt.lastId_lt_of_bind (operand.force_continues builder)
      (fun _ _ => NodeOperation.lastId_lt_of_perform) built
  | call offset function args | operatorCall offset function args | list offset args =>
    exact Attempt.lastId_lt_of_bind (Plan.forceAll_continues args builder)
      (fun _ _ => NodeOperation.lastId_lt_of_perform) built
  | memberCall offset target function args =>
    exact Attempt.lastId_lt_of_bind (target.force_continues builder)
      (fun _ middle => Attempt.lastId_lt_of_bind (Plan.forceAll_continues args middle)
        fun _ _ => NodeOperation.lastId_lt_of_perform) built
  | index offset operand subscript =>
    exact Attempt.lastId_lt_of_bind (operand.force_continues builder)
      (fun _ middle => Attempt.lastId_lt_of_bind (subscript.force_continues middle)
        fun _ _ => NodeOperation.lastId_lt_of_perform) built
  | struct offset message entries =>
    exact Attempt.lastId_lt_of_bind (PlanEntry.forceAll_continues entries builder)
      (fun _ _ => NodeOperation.lastId_lt_of_perform) built

end Forcing

/-! ### The first refused literal -/

/-- **Forcing stops at the first refused literal.** Forcing a plan is refused exactly if one of its
literals has no value, wherever it stands. The error then has the offset and the reason of the first
such literal, and the builder is the one that the nodes and entries before it in post-order leave,
all of which are complete. Whatever is forced afterwards takes the next ids. -/
theorem Plan.force_refused_iff (plan : Plan) (builder : Builder) :
    ((∃ error after, plan.force.run.run builder = (.error error, after)) ↔
      ∃ leaf ∈ plan.literals, ∃ reason, leaf.2.value = .error reason) ∧
    ∀ error after, plan.force.run.run builder = (.error error, after) →
      (∃ before source behind, plan.literals = before ++ (error.offset, source) :: behind ∧
        (∀ leaf ∈ before, ∃ value, leaf.2.value = .ok value) ∧
        source.value = .error error.reason ∧
        ∃ done rest last, plan.steps 0 = done ++ .node error.offset (.literal source) :: rest ∧
          done.filterMap Step.literal? = before ∧
          ({ builder } : Session).carryOut done = (none, last) ∧ last.builder = after) ∧
      ∀ later : Plan, after.Continues (later.force.run.run after).2 ∧
        ∀ tree last, later.force.run.run after = (.ok tree, last) → after.lastId < last.lastId := by
  have simulates := Plan.force_simulates { builder } rfl plan
  rcases ran : plan.force.run.run builder with ⟨error | tree, after⟩
  · obtain ⟨last, ⟨done, source, rest, split, carried, refused⟩, rfl⟩ :=
      (Session.simulates_of_error ran).mp simulates
    have literals : plan.literals =
        done.filterMap Step.literal? ++ (error.offset, source) :: rest.filterMap Step.literal? := by
      have listed := plan.literals_steps ({ builder } : Session).registers.length
      rw [split, List.filterMap_append] at listed
      exact listed.symm
    refine ⟨⟨fun _ => ?_, fun _ => ⟨error, last.builder, rfl⟩⟩, ?_⟩
    · refine ⟨(error.offset, source), ?_, error.reason, refused⟩
      rw [literals]
      exact List.mem_append_cons_self
    · rintro error' after' same
      cases same
      refine ⟨⟨_, source, _, literals, Session.accepted_of_carryOut rfl carried.run, refused, done,
        rest, last, split, rfl, carried.run, rfl⟩, fun later => ?_⟩
      exact ⟨later.force_continues _, fun _ _ => Plan.lastId_lt_of_force⟩
  · obtain ⟨last, carried, -, -⟩ := (Session.simulates_of_ok ran).mp simulates
    have accepted := Session.accepted_of_carryOut rfl carried.run
    rw [plan.literals_steps] at accepted
    refine ⟨iff_of_false ?_ ?_, ?_⟩
    · rintro ⟨error, after', never⟩
      cases never
    · rintro ⟨leaf, member, reason, refused⟩
      obtain ⟨value, known⟩ := accepted leaf member
      rw [known] at refused
      cases refused
    · rintro error after' never
      cases never

/-- The plan of `[xs.all(x, true), b, oops]`, where neither `b` nor `oops` has a value. -/
def Plan.twoRefused : Plan :=
  .list 0 [.memberCall 3 (.ident 1 "xs") "all" [.ident 4 "x", .literal 5 (.bool true)],
    .literal 9 (.bytes [.numbers [0x100]]), .literal 12 (.int64 "oops")]

theorem Plan.force_refused_twoRefused :
    ∃ after, Plan.twoRefused.force.run.run {} = (.error ⟨9, .byteRange 0x100⟩, after) ∧
      (∃ leaf ∈ Plan.twoRefused.literals, ∃ reason, leaf.2.value = .error reason) ∧
      (∃ before source behind,
        Plan.twoRefused.literals = before ++ ((9 : Offset), source) :: behind ∧
        ∀ leaf ∈ before, ∃ value, leaf.2.value = .ok value) ∧
      ∀ later : Plan, after.Continues (later.force.run.run after).2 := by
  obtain ⟨refusals, refused⟩ := Plan.twoRefused.force_refused_iff {}
  have ran : Plan.twoRefused.force.run.run {} = (.error ⟨9, .byteRange 0x100⟩, _) := rfl
  obtain ⟨⟨before, source, behind, split, accepted, -⟩, later⟩ := refused _ _ ran
  exact ⟨_, ran, refusals.mp ⟨_, _, ran⟩, ⟨before, source, behind, split, accepted⟩,
    fun plan => (later plan).1⟩

end CelTree
