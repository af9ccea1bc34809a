/-
**Recording calls changes nothing else.**

Of two sessions with the same macros, let one record the written calls and the other one not.
Whatever their steps are, they hold the same trees in the same registers, say the same about each
step, and place the same ids at the same offsets. All that tells them apart is the record itself,
and what is answered to questions about it.

* `Plan.force_blind`: forcing a plan never looks at the record.
* `Session.withoutRecord`, `Answer.withoutRecord`: the session as it would be had it kept no record,
  and what it would say.
* `step_withoutRecord`, `run_withoutRecord`: a step, or a run, from there.
* **`run_apart_from_record`** — two runs from new builders.
-/

import CelTree.Proofs.Builder.Unrecorded
import CelTree.Session.Run

namespace CelTree

open Attempt

/-! ### Plans -/

mutual

/-- **Forcing a plan never looks at the record.** -/
theorem Plan.force_blind : (plan : Plan) → plan.force.Blind
  | .literal offset source => NodeOperation.perform_blind offset (.literal source)
  | .ident offset name => NodeOperation.perform_blind offset (.ident name)
  | .select offset operand field => by
    rw [Plan.force]
    exact operand.force_blind.bind fun tree =>
      NodeOperation.perform_blind offset (.select tree field)
  | .call offset function args => by
    rw [Plan.force]
    exact (Plan.forceAll_blind args).bind fun trees =>
      NodeOperation.perform_blind offset (.call function trees)
  | .memberCall offset target function args => by
    rw [Plan.force]
    refine target.force_blind.bind fun tree => ?_
    exact (Plan.forceAll_blind args).bind fun trees =>
      NodeOperation.perform_blind offset (.memberCall tree function trees)
  | .operatorCall offset operator args => by
    rw [Plan.force]
    exact (Plan.forceAll_blind args).bind fun trees =>
      NodeOperation.perform_blind offset (.operatorCall operator trees)
  | .index offset operand subscript => by
    rw [Plan.force]
    refine operand.force_blind.bind fun tree => ?_
    exact subscript.force_blind.bind fun tree' =>
      NodeOperation.perform_blind offset (.index tree tree')
  | .list offset elements => by
    rw [Plan.force]
    exact (Plan.forceAll_blind elements).bind fun trees =>
      NodeOperation.perform_blind offset (.list trees)
  | .struct offset message entries => by
    rw [Plan.force]
    exact (PlanEntry.forceAll_blind entries).bind fun built =>
      NodeOperation.perform_blind offset (.struct message built)

theorem Plan.forceAll_blind : (plans : List Plan) → (Plan.forceAll plans).Blind
  | [] => .pure []
  | first :: rest => by
    rw [Plan.forceAll]
    refine first.force_blind.bind fun tree => ?_
    exact (Plan.forceAll_blind rest).bind fun trees => .pure (tree :: trees)

theorem PlanEntry.force_blind : (entry : PlanEntry) → entry.force.Blind
  | .map offset key value optional => by
    rw [PlanEntry.force]
    refine key.force_blind.bind fun tree => ?_
    exact value.force_blind.bind fun tree' =>
      .lift (EntryOperation.perform_blind offset (.map tree tree' optional))
  | .field offset name value optional => by
    rw [PlanEntry.force]
    exact value.force_blind.bind fun tree =>
      .lift (EntryOperation.perform_blind offset (.field name tree optional))

theorem PlanEntry.forceAll_blind : (entries : List PlanEntry) → (PlanEntry.forceAll entries).Blind
  | [] => .pure []
  | first :: rest => by
    rw [PlanEntry.forceAll]
    refine first.force_blind.bind fun entry => ?_
    exact (PlanEntry.forceAll_blind rest).bind fun entries => .pure (entry :: entries)

end

/-! ### Sessions -/

/-- What a session says that keeps no record: no call is on record, and the options do not ask for
any. What is said about trees, entries, plans, positions and refused literals stays. -/
def Answer.withoutRecord : Answer → Answer
  | .macroCall _ => .macroCall none
  | .options given => .options given.withoutRecord
  | answer => answer

namespace Session

/-- The session as it would be had it kept no record. -/
def withoutRecord (session : Session) : Session :=
  { session with builder := session.builder.withoutRecord }

/-- A blind construction of a node has the same result in a session that keeps no record. -/
theorem buildNode_withoutRecord {construction : Attempt Expr} (blind : construction.Blind)
    (session : Session) :
    session.withoutRecord.buildNode construction =
      ((session.buildNode construction).1.withoutRecord,
        (session.buildNode construction).2.withoutRecord) := by
  have same : construction.run.run session.withoutRecord.builder = _ := blind session.builder
  unfold buildNode
  rw [same]
  rcases construction.run.run session.builder with ⟨error | tree, after⟩ <;> rfl

theorem buildEntry_withoutRecord {construction : Build Entry} (blind : construction.Blind)
    (session : Session) :
    session.withoutRecord.buildEntry construction =
      ((session.buildEntry construction).1.withoutRecord,
        (session.buildEntry construction).2.withoutRecord) := by
  have same : construction.run session.withoutRecord.builder = _ := blind session.builder
  unfold buildEntry
  rw [same]
  rfl

theorem planNode_withoutRecord (session : Session) (offset : Offset)
    (operation : NodeOperation Nat Nat) :
    session.withoutRecord.planNode offset operation =
      ((session.planNode offset operation).1.withoutRecord,
        (session.planNode offset operation).2.withoutRecord) := by
  have plans : session.withoutRecord.planAt = session.planAt := rfl
  have entries : session.withoutRecord.planEntryAt = session.planEntryAt := rfl
  unfold planNode
  rw [plans, entries]
  split
  · split <;> rfl
  · rfl

theorem planEntry_withoutRecord (session : Session) (offset : Offset)
    (operation : EntryOperation Nat) :
    session.withoutRecord.planEntry offset operation =
      ((session.planEntry offset operation).1.withoutRecord,
        (session.planEntry offset operation).2.withoutRecord) := by
  have plans : session.withoutRecord.planAt = session.planAt := rfl
  unfold planEntry
  rw [plans]
  split
  · split <;> rfl
  · rfl

/-- A question gets the answer that a session gives that keeps no record. -/
theorem answer_withoutRecord (session : Session) (query : Query) :
    session.withoutRecord.answer query = (session.answer query).withoutRecord := by
  have items : session.withoutRecord.itemAt = session.itemAt := rfl
  have nodes : session.withoutRecord.nodeAt = session.nodeAt := rfl
  have entries : session.withoutRecord.entryAt = session.entryAt := rfl
  have plans : session.withoutRecord.planAt = session.planAt := rfl
  cases query with
  | node register =>
    rw [answer, answer, nodes]
    cases session.nodeAt register <;> rfl
  | entry register =>
    rw [answer, answer, entries]
    cases session.entryAt register <;> rfl
  | equal first second =>
    rw [answer, answer, items]
    split
    · rename_i one two _ _
      cases sameItem one two <;> rfl
    · rfl
  | planOffset register =>
    rw [answer, answer, plans]
    cases session.planAt register <;> rfl
  | position id => rfl
  | macroCall id => rfl
  | isHasCall function args =>
    rw [answer, answer, nodes]
    show (if session.planning then _ else _) = _
    split
    · rfl
    · cases args.mapM session.nodeAt <;> rfl
  | options =>
    show (if session.planning then _ else _) =
      (if session.planning then _ else _ : Answer).withoutRecord
    split <;> rfl

/-- **A step does in a session without record what it does in one with a record**, and says the same
but about the record. -/
theorem step_withoutRecord (session : Session) (step : Step) :
    session.withoutRecord.step step =
      ((session.step step).1.withoutRecord, (session.step step).2.withoutRecord) := by
  have nodes : session.withoutRecord.nodeAt = session.nodeAt := rfl
  have entries : session.withoutRecord.entryAt = session.entryAt := rfl
  have plans : session.withoutRecord.planAt = session.planAt := rfl
  have planning : session.withoutRecord.planning = session.planning := rfl
  cases step with
  | node offset operation =>
    simp only [Session.step, nodes, entries, planning]
    split
    · exact session.planNode_withoutRecord offset operation
    · split
      · exact buildNode_withoutRecord (NodeOperation.perform_blind offset _) session
      · rfl
  | entry offset operation =>
    simp only [Session.step, nodes, planning]
    split
    · exact session.planEntry_withoutRecord offset operation
    · split
      · exact buildEntry_withoutRecord (EntryOperation.perform_blind offset _) session
      · rfl
  | constant offset value =>
    simp only [Session.step, planning]
    split
    · rfl
    · exact buildNode_withoutRecord (.lift fun _ => rfl) session
  | expandHas offset args =>
    simp only [Session.step, nodes, planning]
    split
    · rfl
    · split
      · exact buildNode_withoutRecord (.lift (Builder.expandHas_blind offset _)) session
      · rfl
  | maybeExpand offset call =>
    simp only [Session.step, nodes, planning]
    split
    · rfl
    · split
      · exact buildNode_withoutRecord (.lift (Builder.maybeExpand_blind offset _)) session
      · rfl
  | force register =>
    simp only [Session.step, plans, planning]
    split
    · split
      · rename_i plan held
        exact buildNode_withoutRecord plan.force_blind (session.consume [register])
      · rfl
    · rfl
  | endPlanning =>
    simp only [Session.step, planning]
    split <;> rfl
  | ask query =>
    simp only [Session.step, reject, answer_withoutRecord]
    rfl

/-! ### Runs -/

/-- **So does a run.** -/
theorem run_withoutRecord (session : Session) (steps : List Step) :
    session.withoutRecord.run steps =
      ((session.run steps).1.map Answer.withoutRecord, (session.run steps).2.withoutRecord) := by
  induction steps generalizing session with
  | nil => rfl
  | cons first rest ih => simp only [run, step_withoutRecord, ih, List.map_cons]

/-- **Recording calls changes nothing else.** Two sessions start from new builders that expand the
same macros, of which the first records the calls and the second does not, and take the same steps,
whatever they are. Then each step is answered alike, refused literals included, up to questions
about the record and the options. At the end, and so after each of the steps, they hold the same
trees, entries and plans in the same registers, have the same last id and the same positions, and
the record of the second one is empty. -/
theorem run_apart_from_record (macros : MacroSet) (planning : Bool)
    (registers : List (Option Item)) (steps : List Step) :
    let start (recordCalls : Bool) : Session :=
      { builder := { options := { recordCalls, macros } }, planning, registers }
    let recording := (start true).run steps
    let silent := (start false).run steps
    silent.1 = recording.1.map Answer.withoutRecord ∧
      silent.2.registers = recording.2.registers ∧
      silent.2.builder.lastId = recording.2.builder.lastId ∧
      silent.2.builder.info.positions = recording.2.builder.info.positions ∧
      silent.2.builder.info.macroCalls = .empty := by
  intro start recording silent
  have same : silent =
      (recording.1.map Answer.withoutRecord, recording.2.withoutRecord) :=
    (start true).run_withoutRecord steps
  rw [same]
  exact ⟨rfl, rfl, rfl, rfl, rfl⟩

end Session

end CelTree
