/-
**A macro affects its own calls only.**

Two sessions that expand different macros take the same steps. If no call is made by the name of a
macro that only one of them expands, nothing tells them apart but what they say about their options:
operators, index expressions and the calls in the expansions themselves are never taken for macros,
at any depth.

* `Step.function?`: the function name that a step passes to a call.
* `Session.Alike`: the invariant. What registers hold may still be expanded alike with either set.
* `Alike.step`, `Alike.run`: a step, or a run, of a session is that of the session with other macros.
* **`run_macroChoice`** — two runs from new builders.
-/

import CelTree.Proofs.Builder.MacroChoice

namespace CelTree

/-- The function name that a step passes to a call. A question whether a call would be expanded
passes one too. -/
def Step.function? : Step → Option String
  | .node _ operation => operation.function?
  | .ask (.isHasCall function _) => some function
  | _ => none

/-- What a session with other macros says: about its options, the set. -/
def Answer.withMacros (macros : MacroSet) : Answer → Answer
  | .options given => .options (given.withMacros macros)
  | answer => answer

variable {first second : MacroSet}

/-! ### Planned trees -/

/-- Macro sets that agree on several plans agree on each function that the plans call. -/
theorem Plan.agree_functionsAll {plans : List Plan}
    (agree : ∀ item ∈ plans.map Item.plan, item.Agree first second) :
    ∀ function ∈ Plan.functionsAll plans, first.AgreeOn second function := by
  intro function member
  rw [Plan.functionsAll_eq] at member
  obtain ⟨plan, given, inside⟩ := List.mem_flatMap.mp member
  exact agree _ (List.mem_map_of_mem given) function inside

theorem PlanEntry.agree_functionsAll {entries : List PlanEntry}
    (agree : ∀ item ∈ entries.map Item.planEntry, item.Agree first second) :
    ∀ function ∈ PlanEntry.functionsAll entries, first.AgreeOn second function := by
  intro function member
  rw [PlanEntry.functionsAll_eq] at member
  obtain ⟨entry, given, inside⟩ := List.mem_flatMap.mp member
  exact agree _ (List.mem_map_of_mem given) function inside

namespace Session

variable {session : Session}

theorem itemAt_of_planAt {register : Nat} {plan : Plan}
    (held : session.planAt register = some plan) :
    session.itemAt register = some (.plan plan) := by
  unfold planAt at held
  split at held
  · rename_i found here
    rw [here, Option.some.inj held]
  · cases held

theorem itemAt_of_planEntryAt {register : Nat} {plan : PlanEntry}
    (held : session.planEntryAt register = some plan) :
    session.itemAt register = some (.planEntry plan) := by
  unfold planEntryAt at held
  split at held
  · rename_i found here
    rw [here, Option.some.inj held]
  · cases held

/-! ### Sessions that may exchange their macros -/

/-- The session with another set of macros. -/
def withMacros (session : Session) (macros : MacroSet) : Session :=
  { session with builder := session.builder.withMacros macros }

/-- The session expands the first set of macros, and the second set agrees with it on what registers
hold. -/
structure Alike (first second : MacroSet) (session : Session) : Prop where
  macros : session.builder.options.macros = first
  agree : ∀ item, some item ∈ session.registers → item.Agree first second

/-- A step has the same outcome with the second set of macros, and they may be exchanged again
after it. -/
structure Matches (first second : MacroSet) (outcome other : Answer × Session) : Prop where
  same : other = (outcome.1.withMacros second, outcome.2.withMacros second)
  alike : outcome.2.Alike first second

theorem Alike.itemAt (alike : session.Alike first second) {register : Nat} {item : Item}
    (held : session.itemAt register = some item) : item.Agree first second :=
  alike.agree item (mem_of_itemAt held)

theorem Alike.holds (alike : session.Alike first second) {registers : List Nat}
    {items : List Item} (holds : session.Holds registers items) :
    ∀ item ∈ items, item.Agree first second :=
  fun item part => alike.agree item (holds.mem item part)

theorem Alike.consume (alike : session.Alike first second) (registers : List Nat) :
    (session.consume registers).Alike first second :=
  ⟨alike.macros, fun item member => alike.agree item (mem_of_mem_consume member)⟩

/-- A new register keeps sessions alike if the sets agree on what it holds. -/
theorem Alike.push (alike : session.Alike first second) {after : Builder} {slot : Option Item}
    (kept : after.options.macros = first)
    (agree : ∀ item, slot = some item → item.Agree first second) :
    ({ session with builder := after }.push slot).Alike first second := by
  refine ⟨kept, fun item member => ?_⟩
  rcases List.mem_append.mp member with old | added
  · exact alike.agree item old
  · exact agree item (List.mem_singleton.mp added).symm

/-! ### Outcomes of steps -/

theorem Alike.reject (alike : session.Alike first second) {answer answer' : Answer}
    (same : answer' = answer.withMacros second) :
    Matches first second (session.reject answer) ((session.withMacros second).reject answer') :=
  ⟨by rw [same]; rfl, alike.push alike.macros fun _ never => by cases never⟩

/-- A construction under which the macro sets agree keeps sessions alike. -/
theorem Alike.buildNode (alike : session.Alike first second) {construction : Attempt Expr}
    (builds : construction.Alike first second fun tree => (Item.node tree).Agree first second) :
    Matches first second (session.buildNode construction)
      ((session.withMacros second).buildNode construction) := by
  obtain ⟨other, kept, agree⟩ := builds session.builder alike.macros
  rcases ran : construction.run.run session.builder with ⟨error | tree, after⟩
  · rw [ran] at other kept
    rw [buildNode_error ran, buildNode_error other]
    exact ⟨rfl, alike.push kept fun _ never => by cases never⟩
  · rw [ran] at other kept agree
    rw [buildNode_ok ran, buildNode_ok other]
    refine ⟨rfl, alike.push kept fun item held => ?_⟩
    cases held
    exact agree tree rfl

/-- Building an entry keeps sessions alike; entries are never expanded. -/
theorem Alike.buildEntry (alike : session.Alike first second) (offset : Offset)
    (operation : EntryOperation Expr) :
    Matches first second (session.buildEntry (operation.perform offset))
      ((session.withMacros second).buildEntry (operation.perform offset)) := by
  rw [Session.buildEntry, Session.buildEntry, operation.perform_run, operation.perform_run]
  refine ⟨rfl, alike.push alike.macros fun item held => ?_⟩
  cases held
  exact List.forall_mem_nil _

/-- A plan over plans in registers has the calls of its step and of those plans. -/
theorem Alike.agree_ofOperation (alike : session.Alike first second) (offset : Offset)
    {operation : NodeOperation Nat Nat} {parts : NodeOperation Plan PlanEntry}
    (resolved : operation.resolve? session.planAt session.planEntryAt = some parts)
    (agree : ∀ function ∈ operation.function?, first.AgreeOn second function) :
    (Item.plan (.ofOperation offset parts)).Agree first second := by
  have part {register : Nat} {plan : Plan} (held : session.planAt register = some plan) :
      ∀ function ∈ plan.functions, first.AgreeOn second function :=
    alike.itemAt (itemAt_of_planAt held)
  have parts {registers : List Nat} {plans : List Plan}
      (held : registers.mapM session.planAt = some plans) :
      ∀ function ∈ Plan.functionsAll plans, first.AgreeOn second function :=
    Plan.agree_functionsAll (alike.holds (holds_of_mapM (fun _ _ => itemAt_of_planAt) held))
  cases operation with
  | literal source =>
    cases resolved
    exact List.forall_mem_nil _
  | ident name =>
    cases resolved
    exact List.forall_mem_nil _
  | select operand field =>
    simp only [NodeOperation.resolve?, Option.bind_eq_bind, Option.bind_eq_some_iff] at resolved
    obtain ⟨plan, here, same⟩ := resolved
    cases same
    show ∀ function ∈ plan.functions, _
    exact part here
  | call function args =>
    simp only [NodeOperation.resolve?, Option.bind_eq_bind, Option.bind_eq_some_iff] at resolved
    obtain ⟨plans, there, same⟩ := resolved
    cases same
    exact List.forall_mem_cons.mpr ⟨agree function rfl, parts there⟩
  | memberCall target function args =>
    simp only [NodeOperation.resolve?, Option.bind_eq_bind, Option.bind_eq_some_iff] at resolved
    obtain ⟨plan, here, plans, there, same⟩ := resolved
    cases same
    exact List.forall_mem_cons.mpr ⟨agree function rfl,
      List.forall_mem_append.mpr ⟨part here, parts there⟩⟩
  | index operand subscript =>
    simp only [NodeOperation.resolve?, Option.bind_eq_bind, Option.bind_eq_some_iff] at resolved
    obtain ⟨plan, here, plan', there, same⟩ := resolved
    cases same
    exact List.forall_mem_append.mpr ⟨part here, part there⟩
  | struct message entries =>
    simp only [NodeOperation.resolve?, Option.bind_eq_bind, Option.bind_eq_some_iff] at resolved
    obtain ⟨built, there, same⟩ := resolved
    cases same
    exact PlanEntry.agree_functionsAll
      (alike.holds (holds_of_mapM (fun _ _ => itemAt_of_planEntryAt) there))
  | _ =>
    simp only [NodeOperation.resolve?, Option.bind_eq_bind, Option.bind_eq_some_iff] at resolved
    obtain ⟨plans, there, same⟩ := resolved
    cases same
    exact parts there

theorem Alike.agree_ofOperation_entry (alike : session.Alike first second) (offset : Offset)
    {operation : EntryOperation Nat} {parts : EntryOperation Plan}
    (resolved : operation.resolve? session.planAt = some parts) :
    (Item.planEntry (.ofOperation offset parts)).Agree first second := by
  have part {register : Nat} {plan : Plan} (held : session.planAt register = some plan) :
      ∀ function ∈ plan.functions, first.AgreeOn second function :=
    alike.itemAt (itemAt_of_planAt held)
  cases operation with
  | map key value optional =>
    simp only [EntryOperation.resolve?, Option.bind_eq_bind, Option.bind_eq_some_iff] at resolved
    obtain ⟨plan, here, plan', there, same⟩ := resolved
    cases same
    exact List.forall_mem_append.mpr ⟨part here, part there⟩
  | field name value optional =>
    simp only [EntryOperation.resolve?, Option.bind_eq_bind, Option.bind_eq_some_iff] at resolved
    obtain ⟨plan, here, same⟩ := resolved
    cases same
    show ∀ function ∈ plan.functions, _
    exact part here

/-- Planning a node keeps sessions alike if the sets agree on its function. -/
theorem Alike.planNode (alike : session.Alike first second) (offset : Offset)
    {operation : NodeOperation Nat Nat}
    (agree : ∀ function ∈ operation.function?, first.AgreeOn second function) :
    Matches first second (session.planNode offset operation)
      ((session.withMacros second).planNode offset operation) := by
  have plans : (session.withMacros second).planAt = session.planAt := rfl
  have entries : (session.withMacros second).planEntryAt = session.planEntryAt := rfl
  unfold Session.planNode
  rw [plans, entries]
  split
  · rename_i parts resolved
    split
    · refine ⟨rfl, (alike.consume operation.references).push alike.macros fun item held => ?_⟩
      cases held
      exact alike.agree_ofOperation offset resolved agree
    · exact alike.reject rfl
  · exact alike.reject rfl

theorem Alike.planEntry (alike : session.Alike first second) (offset : Offset)
    (operation : EntryOperation Nat) :
    Matches first second (session.planEntry offset operation)
      ((session.withMacros second).planEntry offset operation) := by
  have plans : (session.withMacros second).planAt = session.planAt := rfl
  unfold Session.planEntry
  rw [plans]
  split
  · rename_i parts resolved
    split
    · refine ⟨rfl, (alike.consume operation.references).push alike.macros fun item held => ?_⟩
      cases held
      exact alike.agree_ofOperation_entry offset resolved
    · exact alike.reject rfl
  · exact alike.reject rfl

/-- A question gets the same answer with the second set of macros. -/
theorem Alike.answer (alike : session.Alike first second) {query : Query}
    (agree : ∀ function ∈ (Step.ask query).function?, first.AgreeOn second function) :
    (session.withMacros second).answer query = (session.answer query).withMacros second := by
  have items : (session.withMacros second).itemAt = session.itemAt := rfl
  have nodes : (session.withMacros second).nodeAt = session.nodeAt := rfl
  have entries : (session.withMacros second).entryAt = session.entryAt := rfl
  have plans : (session.withMacros second).planAt = session.planAt := rfl
  have planning : (session.withMacros second).planning = session.planning := rfl
  cases query with
  | node register =>
    rw [Session.answer, Session.answer, nodes]
    cases session.nodeAt register <;> rfl
  | entry register =>
    rw [Session.answer, Session.answer, entries]
    cases session.entryAt register <;> rfl
  | equal one two =>
    rw [Session.answer, Session.answer, items]
    split
    · rename_i item item' _ _
      cases sameItem item item' <;> rfl
    · rfl
  | planOffset register =>
    rw [Session.answer, Session.answer, plans]
    cases session.planAt register <;> rfl
  | position id => rfl
  | macroCall id => rfl
  | isHasCall function args =>
    have looked (trees : List Expr) :
        Builder.isHasCall (session.withMacros second).builder.options function trees =
          Builder.isHasCall session.builder.options function trees :=
      Builder.isHasCall_eq_of_agreeOn (by
        rw [alike.macros]
        exact agree function rfl) trees
    simp only [Session.answer, nodes, planning, looked]
    split
    · rfl
    · split <;> rfl
  | options =>
    simp only [Session.answer, planning]
    split <;> rfl

/-! ### Runs -/

/-- **A step does the same with the second set of macros**, if the sets agree on its function name.
-/
theorem Alike.step (alike : session.Alike first second) {step : Step}
    (agree : ∀ function ∈ step.function?, first.AgreeOn second function) :
    Matches first second (session.step step) ((session.withMacros second).step step) := by
  have nodes : (session.withMacros second).nodeAt = session.nodeAt := rfl
  have entries : (session.withMacros second).entryAt = session.entryAt := rfl
  have plans : (session.withMacros second).planAt = session.planAt := rfl
  have planning : (session.withMacros second).planning = session.planning := rfl
  cases step with
  | node offset operation =>
    simp only [Session.step, nodes, entries, planning]
    split
    · exact alike.planNode offset agree
    · split
      · rename_i parts resolved
        refine alike.buildNode (NodeOperation.perform_alike offset ?_)
        rw [NodeOperation.function?_of_resolve? resolved]
        exact agree
      · exact alike.reject rfl
  | entry offset operation =>
    simp only [Session.step, nodes, planning]
    split
    · exact alike.planEntry offset operation
    · split
      · exact alike.buildEntry offset _
      · exact alike.reject rfl
  | constant offset value =>
    simp only [Session.step, planning]
    split
    · exact alike.reject rfl
    · exact alike.buildNode (Builder.literal_alike offset value)
  | expandHas offset args =>
    simp only [Session.step, nodes, planning]
    split
    · exact alike.reject rfl
    · split
      · exact alike.buildNode (Builder.expandHas_alike offset _)
      · exact alike.reject rfl
  | maybeExpand offset call =>
    simp only [Session.step, nodes, planning]
    split
    · exact alike.reject rfl
    · split
      · rename_i tree held
        exact alike.buildNode (Builder.maybeExpand_alike offset
          (alike.itemAt (itemAt_of_nodeAt held)))
      · exact alike.reject rfl
  | force register =>
    simp only [Session.step, plans, planning]
    split
    · split
      · rename_i plan held
        refine (alike.consume [register]).buildNode ?_
        exact plan.force_of_closed (Attempt.closed_alike first second)
          (alike.itemAt (itemAt_of_planAt held))
      · exact alike.reject rfl
    · exact alike.reject rfl
  | endPlanning =>
    simp only [Session.step, planning]
    split
    · have building : ({ session with planning := false } : Session).Alike first second :=
        ⟨alike.macros, alike.agree⟩
      exact building.reject rfl
    · exact alike.reject rfl
  | ask query => exact alike.reject (alike.answer agree)

/-- **So does a run.** -/
theorem Alike.run (alike : session.Alike first second) {steps : List Step}
    (agree : ∀ step ∈ steps, ∀ function ∈ step.function?, first.AgreeOn second function) :
    (session.withMacros second).run steps =
      ((session.run steps).1.map (Answer.withMacros second),
        (session.run steps).2.withMacros second) := by
  induction steps generalizing session with
  | nil => rfl
  | cons head rest ih =>
    obtain ⟨here, below⟩ := List.forall_mem_cons.mp agree
    obtain ⟨same, onwards⟩ := alike.step here
    simp only [Session.run, same, ih onwards below, List.map_cons]

end Session

end CelTree
