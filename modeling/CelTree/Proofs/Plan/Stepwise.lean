/-
**Forcing a plan is carrying out its steps.**

* `Session.Simulates`: steps do what a construction does. They are all carried out where the
  construction succeeds, and they stop with its error where it is refused; either way they leave the
  same builder. `Simulates.bind` puts one after the other.
* `Plan.force_simulates`: the steps of a plan simulate its forcing, by induction over the plan.
* **`force_eq_carryOut`** — forcing a plan results in the node in the root register, or in the error
  of the refused literal at which the steps stop.
-/

import CelTree.Proofs.Builder.Step
import CelTree.Proofs.Plan.Steps
import CelTree.Proofs.Session.Eager

namespace CelTree

namespace Session

variable {session next last : Session}

/-! ### Steps that are all carried out -/

/-- All steps are carried out, and each of them fills one register. -/
structure Carries (session : Session) (steps : List Step) (last : Session) : Prop where
  run : session.carryOut steps = (none, last)
  later : session.Extends last
  length : last.registers.length = session.registers.length + steps.length
  planning : last.planning = session.planning

theorem Carries.nil (session : Session) : session.Carries [] session :=
  ⟨rfl, .refl session, rfl, rfl⟩

/-- Steps that are carried out one after the other. -/
theorem Carries.append {first second : List Step} (one : session.Carries first next)
    (two : next.Carries second last) : session.Carries (first ++ second) last where
  run := by
    rw [carryOut_append, one.run]
    exact two.run
  later := one.later.trans two.later
  length := by rw [two.length, one.length, List.length_append, Nat.add_assoc]
  planning := two.planning.trans one.planning

/-- A step that fills one register with a node. -/
theorem Carries.node {step : Step} {id : Int} {kind : String} {builder : Builder} {tree : Expr}
    (ran : session.step step =
      (.node id kind, { session with builder }.push (some (.node tree)))) :
    session.Carries [step] ({ session with builder }.push (some (.node tree))) where
  run := by
    rw [carryOut, ran]
    rfl
  later := extends_push { session with builder } _
  length := List.length_append
  planning := rfl

/-- A step that fills one register with an entry. -/
theorem Carries.entry {step : Step} {id : Int} {optional : Bool} {builder : Builder} {entry : Entry}
    (ran : session.step step =
      (.entry id optional, { session with builder }.push (some (.entry entry)))) :
    session.Carries [step] ({ session with builder }.push (some (.entry entry))) where
  run := by
    rw [carryOut, ran]
    rfl
  later := extends_push { session with builder } _
  length := List.length_append
  planning := rfl

/-! ### Steps that simulate a construction -/

/-- The steps before some literal are carried out, and that literal is refused. -/
def Stops (session : Session) (steps : List Step) (error : BuildError) (last : Session) : Prop :=
  ∃ done source rest, steps = done ++ .node error.offset (.literal source) :: rest ∧
    session.Carries done last ∧ source.value = .error error.reason

/-- Steps behind the refused literal play no part. -/
theorem Stops.append {steps : List Step} {error : BuildError}
    (stopped : session.Stops steps error last) (more : List Step) :
    session.Stops (steps ++ more) error last := by
  obtain ⟨done, source, rest, rfl, carried, refused⟩ := stopped
  exact ⟨done, source, rest ++ more, by rw [List.append_assoc, List.cons_append], carried, refused⟩

/-- Steps that are carried out may go before those that stop. -/
theorem Carries.stops {first second : List Step} {error : BuildError}
    (carried : session.Carries first next) (stopped : next.Stops second error last) :
    session.Stops (first ++ second) error last := by
  obtain ⟨done, source, rest, rfl, carried', refused⟩ := stopped
  exact ⟨first ++ done, source, rest, by rw [List.append_assoc], carried.append carried', refused⟩

variable {α β : Type}

/-- Steps do what a construction does. Where it succeeds, its value is found in the session that the
steps leave; where it is refused, they stop with its error. -/
def Simulates (session : Session) (steps : List Step) (construction : Attempt α)
    (found : Session → α → Prop) : Prop :=
  match construction.run.run session.builder with
  | (.ok value, after) =>
    ∃ last, session.Carries steps last ∧ last.builder = after ∧ found last value
  | (.error error, after) => ∃ last, session.Stops steps error last ∧ last.builder = after

theorem simulates_of_ok {steps : List Step} {construction : Attempt α} {value : α}
    {after : Builder} {found : Session → α → Prop}
    (succeeds : construction.run.run session.builder = (.ok value, after)) :
    session.Simulates steps construction found ↔
      ∃ last, session.Carries steps last ∧ last.builder = after ∧ found last value := by
  unfold Simulates
  rw [succeeds]

theorem simulates_of_error {steps : List Step} {construction : Attempt α} {error : BuildError}
    {after : Builder} {found : Session → α → Prop}
    (fails : construction.run.run session.builder = (.error error, after)) :
    session.Simulates steps construction found ↔
      ∃ last, session.Stops steps error last ∧ last.builder = after := by
  unfold Simulates
  rw [fails]

theorem Simulates.pure {value : α} {found : Session → α → Prop} (here : found session value) :
    session.Simulates [] (Pure.pure value) found :=
  ⟨session, .nil session, rfl, here⟩

/-- **Steps one after the other simulate constructions one after the other.** -/
theorem Simulates.bind {first second : List Step} {construction : Attempt α}
    {rest : α → Attempt β} {found : Session → α → Prop} {found' : Session → β → Prop}
    (one : session.Simulates first construction found)
    (two : ∀ value last, session.Carries first last → found last value →
      last.Simulates second (rest value) found') :
    session.Simulates (first ++ second) (construction >>= rest) found' := by
  rcases ran : construction.run.run session.builder with ⟨value | value, after⟩
  · -- the first construction is refused, and nothing after it is carried out
    obtain ⟨last, stopped, same⟩ := (simulates_of_error ran).mp one
    exact (simulates_of_error (Attempt.run_bind_error ran)).mpr ⟨last, stopped.append second, same⟩
  · obtain ⟨middle, carried, rfl, here⟩ := (simulates_of_ok ran).mp one
    have simulates := two value middle carried here
    rcases ran' : (rest value).run.run middle.builder with ⟨result | result, after'⟩
    · obtain ⟨last, stopped, same⟩ := (simulates_of_error ran').mp simulates
      exact (simulates_of_error ((Attempt.run_bind_ok ran).trans ran')).mpr
        ⟨last, carried.stops stopped, same⟩
    · obtain ⟨last, carried', same, here'⟩ := (simulates_of_ok ran').mp simulates
      exact (simulates_of_ok ((Attempt.run_bind_ok ran).trans ran')).mpr
        ⟨last, carried.append carried', same, here'⟩

/-- The step of a node simulates its construction, the new register holds it. -/
theorem Simulates.node (building : session.planning = false) (offset : Offset)
    {operation : NodeOperation Nat Nat} {parts : NodeOperation Expr Entry}
    (resolved : operation.resolve? session.nodeAt session.entryAt = some parts) :
    session.Simulates [.node offset operation] (parts.perform offset)
      (fun last tree => last.nodeAt session.registers.length = some tree) := by
  have ran := step_node building offset resolved
  rcases built : (parts.perform offset).run.run session.builder with ⟨error | tree, after⟩
  · -- only a literal is refused, and it changes nothing
    obtain ⟨source, rfl, refused, rfl, rfl⟩ := NodeOperation.literal_of_perform_error built
    have same := eq_literal_of_resolve? resolved
    refine (simulates_of_error built).mpr
      ⟨session, ⟨[], source, [], ?_, .nil session, refused⟩, rfl⟩
    rw [same, List.nil_append]
  · rw [buildNode_ok built] at ran
    refine (simulates_of_ok built).mpr ⟨_, .node ran, rfl, nodeAt_of_itemAt ?_⟩
    exact itemAt_push_length { session with builder := after } _

theorem Simulates.entry (building : session.planning = false) (offset : Offset)
    {operation : EntryOperation Nat} {parts : EntryOperation Expr}
    (resolved : operation.resolve? session.nodeAt = some parts) :
    session.Simulates [.entry offset operation] (liftM (parts.perform offset))
      (fun last entry => last.entryAt session.registers.length = some entry) := by
  have ran := step_entry building offset resolved
  unfold Simulates
  rw [Attempt.run_lift]
  exact ⟨_, .entry ran, rfl, entryAt_of_itemAt (itemAt_push_length { session with builder := _ } _)⟩

end Session

/-! ### Plans -/

open Session

section Registers

variable {session middle last : Session} {children : List Step}

/-- After the steps of its parts, a plan's own step fills its root register. -/
theorem Plan.root_eq (plan : Plan) (carried : session.Carries children last)
    (size : plan.size = children.length + 1) :
    plan.root session.registers.length = last.registers.length := by
  rw [Plan.root, size, carried.length]
  rfl

theorem PlanEntry.root_eq (entry : PlanEntry) (carried : session.Carries children last)
    (size : entry.size = children.length + 1) :
    entry.root session.registers.length = last.registers.length := by
  rw [PlanEntry.root, size, carried.length]
  rfl

/-- After the steps of a plan, the next free register is the plan's size further on. -/
theorem Plan.next_eq {base : Nat} (plan : Plan)
    (carried : session.Carries (plan.steps base) middle) :
    session.registers.length + plan.size = middle.registers.length := by
  rw [carried.length, plan.steps_length]

end Registers

mutual

/-- **The steps of a plan simulate its forcing**, and the root register holds the node. -/
theorem Plan.force_simulates (session : Session) (building : session.planning = false) :
    (plan : Plan) →
      session.Simulates (plan.steps session.registers.length) plan.force
        (fun last tree => last.nodeAt (plan.root session.registers.length) = some tree)
  | .literal offset source => .node building offset rfl
  | .ident offset name => .node building offset rfl
  | .select offset operand field => by
    rw [Plan.steps, Plan.force]
    refine (operand.force_simulates session building).bind fun tree last carried held => ?_
    rw [Plan.root_eq (.select offset operand field) carried
      (by rw [operand.steps_length, Plan.size])]
    refine .node (carried.planning.trans building) offset ?_
    simp [NodeOperation.resolve?, held]
  | .call offset function args => by
    rw [Plan.steps, Plan.force]
    refine (Plan.forceAll_simulates session building args).bind fun trees last carried held => ?_
    rw [Plan.root_eq (.call offset function args) carried (by rw [Plan.stepsAll_length, Plan.size])]
    refine .node (carried.planning.trans building) offset ?_
    simp [NodeOperation.resolve?, held]
  | .memberCall offset target function args => by
    rw [Plan.steps, Plan.force]
    refine (target.force_simulates session building).bind fun tree middle carried held => ?_
    have building' := carried.planning.trans building
    rw [target.next_eq carried]
    refine (Plan.forceAll_simulates middle building' args).bind fun trees last carried' held' => ?_
    rw [Plan.root_eq (.memberCall offset target function args) (carried.append carried')
      (by rw [List.length_append, target.steps_length, Plan.stepsAll_length, Plan.size])]
    refine .node (carried'.planning.trans building') offset ?_
    simp [NodeOperation.resolve?, nodeAt_of_extends carried'.later held, held']
  | .operatorCall offset operator args => by
    rw [Plan.steps, Plan.force]
    refine (Plan.forceAll_simulates session building args).bind fun trees last carried held => ?_
    rw [Plan.root_eq (.operatorCall offset operator args) carried
      (by rw [Plan.stepsAll_length, Plan.size])]
    refine .node (carried.planning.trans building) offset ?_
    simp [NodeOperation.resolve?, held]
  | .index offset operand subscript => by
    rw [Plan.steps, Plan.force]
    refine (operand.force_simulates session building).bind fun tree middle carried held => ?_
    have building' := carried.planning.trans building
    rw [operand.next_eq carried]
    refine (subscript.force_simulates middle building').bind fun tree' last carried' held' => ?_
    rw [Plan.root_eq (.index offset operand subscript) (carried.append carried')
      (by rw [List.length_append, operand.steps_length, subscript.steps_length, Plan.size])]
    refine .node (carried'.planning.trans building') offset ?_
    simp [NodeOperation.resolve?, nodeAt_of_extends carried'.later held, held']
  | .list offset elements => by
    rw [Plan.steps, Plan.force]
    refine (Plan.forceAll_simulates session building elements).bind
      fun trees last carried held => ?_
    rw [Plan.root_eq (.list offset elements) carried (by rw [Plan.stepsAll_length, Plan.size])]
    refine .node (carried.planning.trans building) offset ?_
    simp [NodeOperation.resolve?, held]
  | .struct offset message entries => by
    rw [Plan.steps, Plan.force]
    refine (PlanEntry.forceAll_simulates session building entries).bind
      fun built last carried held => ?_
    rw [Plan.root_eq (.struct offset message entries) carried
      (by rw [PlanEntry.stepsAll_length, Plan.size])]
    refine .node (carried.planning.trans building) offset ?_
    simp [NodeOperation.resolve?, held]

/-- The steps of several plans simulate forcing them from left to right. -/
theorem Plan.forceAll_simulates (session : Session) (building : session.planning = false) :
    (plans : List Plan) →
      session.Simulates (Plan.stepsAll session.registers.length plans) (Plan.forceAll plans)
        (fun last trees =>
          (Plan.roots session.registers.length plans).mapM last.nodeAt = some trees)
  | [] => .pure rfl
  | first :: rest => by
    rw [Plan.stepsAll, Plan.forceAll]
    refine (first.force_simulates session building).bind fun tree middle carried held => ?_
    rw [first.next_eq carried, ← List.append_nil (Plan.stepsAll _ _)]
    refine (Plan.forceAll_simulates middle (carried.planning.trans building) rest).bind
      fun trees last carried' held' => ?_
    refine .pure ?_
    rw [Plan.roots, first.next_eq carried]
    simp [nodeAt_of_extends carried'.later held, held']

theorem PlanEntry.force_simulates (session : Session) (building : session.planning = false) :
    (entry : PlanEntry) →
      session.Simulates (entry.steps session.registers.length) entry.force
        (fun last built => last.entryAt (entry.root session.registers.length) = some built)
  | .map offset key value optional => by
    rw [PlanEntry.steps, PlanEntry.force]
    refine (key.force_simulates session building).bind fun tree middle carried held => ?_
    have building' := carried.planning.trans building
    rw [key.next_eq carried]
    refine (value.force_simulates middle building').bind fun tree' last carried' held' => ?_
    rw [PlanEntry.root_eq (.map offset key value optional) (carried.append carried')
      (by rw [List.length_append, key.steps_length, value.steps_length, PlanEntry.size])]
    refine .entry (carried'.planning.trans building') offset ?_
    simp [EntryOperation.resolve?, nodeAt_of_extends carried'.later held, held']
  | .field offset name value optional => by
    rw [PlanEntry.steps, PlanEntry.force]
    refine (value.force_simulates session building).bind fun tree last carried held => ?_
    rw [PlanEntry.root_eq (.field offset name value optional) carried
      (by rw [value.steps_length, PlanEntry.size])]
    refine .entry (carried.planning.trans building) offset ?_
    simp [EntryOperation.resolve?, held]

theorem PlanEntry.forceAll_simulates (session : Session) (building : session.planning = false) :
    (entries : List PlanEntry) →
      session.Simulates (PlanEntry.stepsAll session.registers.length entries)
        (PlanEntry.forceAll entries)
        (fun last built =>
          (PlanEntry.roots session.registers.length entries).mapM last.entryAt = some built)
  | [] => .pure rfl
  | first :: rest => by
    rw [PlanEntry.stepsAll, PlanEntry.forceAll]
    refine (first.force_simulates session building).bind fun entry middle carried held => ?_
    have next : session.registers.length + first.size = middle.registers.length := by
      rw [carried.length, first.steps_length]
    rw [next, ← List.append_nil (PlanEntry.stepsAll _ _)]
    refine (PlanEntry.forceAll_simulates middle (carried.planning.trans building) rest).bind
      fun built last carried' held' => ?_
    refine .pure ?_
    rw [PlanEntry.roots, next]
    simp [entryAt_of_extends carried'.later held, held']

end

/-- **Forcing a plan is carrying out its steps.** From any builder, either forcing results in a
node, all steps of the plan are carried out and the root register holds that node; or forcing is
refused, and the steps stop at a literal that is refused with the same error, those before it
carried out.
Either way both leave the same builder. -/
theorem Plan.force_eq_carryOut (plan : Plan) (builder : Builder) :
    (∃ tree last, plan.force.run.run builder = (.ok tree, last.builder) ∧
      ({ builder } : Session).carryOut (plan.steps 0) = (none, last) ∧
      last.nodeAt (plan.root 0) = some tree) ∨
    (∃ error done source rest last, plan.force.run.run builder = (.error error, last.builder) ∧
      plan.steps 0 = done ++ .node error.offset (.literal source) :: rest ∧
      ({ builder } : Session).carryOut done = (none, last) ∧
      source.value = .error error.reason ∧
      ({ builder } : Session).carryOut (plan.steps 0) =
        (some (.refused error), last.push none)) := by
  have simulates := Plan.force_simulates { builder } rfl plan
  rcases ran : plan.force.run.run builder with ⟨error | tree, after⟩
  · obtain ⟨last, ⟨done, source, rest, split, carried, refused⟩, rfl⟩ :=
      (simulates_of_error ran).mp simulates
    refine .inr ⟨error, done, source, rest, last, rfl, split, carried.run, refused, ?_⟩
    have stop := step_literal_refused carried.planning error.offset refused
    show ({ builder } : Session).carryOut (plan.steps ({ builder } : Session).registers.length) = _
    rw [split, carryOut_append, carried.run]
    show last.carryOut (.node error.offset (.literal source) :: rest) = _
    rw [carryOut, stop]
  · obtain ⟨last, carried, rfl, held⟩ := (simulates_of_ok ran).mp simulates
    exact .inl ⟨tree, last, rfl, carried.run, held⟩

end CelTree
