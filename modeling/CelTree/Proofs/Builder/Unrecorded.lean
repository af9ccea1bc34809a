/-
**Constructions never look at the record.**

A builder that keeps no record of written calls does what a builder that keeps one does, and what it
builds is the same, ids included.

* `Builder.withoutRecord`: the builder as it would be had it kept no record.
* `Build.Blind`, `Attempt.Blind`: a construction that does the same for a builder and for the one
  without its record. `Blind.bind` puts one construction after the other.
* `NodeOperation.perform_blind`, `EntryOperation.perform_blind`: so does every step on trees.
-/

import CelTree.Proofs.Builder.Step

namespace CelTree

/-- The same macros, but no call is recorded. -/
def Options.withoutRecord (options : Options) : Options := { options with recordCalls := false }

/-- The same positions and markers, but no written calls. -/
def SourceInfo.withoutRecord (info : SourceInfo) : SourceInfo := { info with macroCalls := .empty }

namespace Builder

/-- The builder as it would be had it kept no record. -/
def withoutRecord (builder : Builder) : Builder :=
  { builder with
    options := builder.options.withoutRecord
    info := builder.info.withoutRecord }

theorem withoutRecord_advance (builder : Builder) (offset : Offset) :
    (builder.advance offset).withoutRecord = builder.withoutRecord.advance offset := rfl

theorem withoutRecord_advanceBy (builder : Builder) (offset : Offset) (count : Nat) :
    (builder.advanceBy offset count).withoutRecord =
      builder.withoutRecord.advanceBy offset count := by
  induction count with
  | zero => rfl
  | succ count ih => rw [advanceBy, withoutRecord_advance, ih, advanceBy]

/-- Without the record, it makes no difference that a call was offered for it. -/
theorem withoutRecord_recorded (builder : Builder) (id : Int) (call : Expr) :
    (builder.recorded id call).withoutRecord = builder.withoutRecord := by
  unfold recorded
  split <;> rfl

/-- A builder that keeps no record does not take a call that is offered for it. -/
theorem recorded_withoutRecord (builder : Builder) (id : Int) (call : Expr) :
    builder.withoutRecord.recorded id call = builder.withoutRecord := rfl

end Builder

/-! ### Constructions that refuse nothing -/

namespace Build

variable {α β : Type}

/-- The construction gives the same result for a builder and for the one without its record, and
keeps them so. -/
def Blind (construction : Build α) : Prop :=
  ∀ builder : Builder, construction.run builder.withoutRecord =
    ((construction.run builder).1, (construction.run builder).2.withoutRecord)

theorem Blind.pure (value : α) : Blind (Pure.pure value) := fun _ => rfl

theorem Blind.bind {construction : Build α} {rest : α → Build β} (one : construction.Blind)
    (two : ∀ value, (rest value).Blind) : (construction >>= rest).Blind := by
  intro builder
  rw [run_bind, run_bind, one builder, two _ _]

end Build

namespace Builder

open Build

theorem allocate_blind (offset : Offset) : Blind (allocate offset) := fun _ => rfl

theorem recordCall_blind (id : Int) (call : Expr) : Blind (recordCall id call) := by
  intro builder
  rw [recordCall_run, recordCall_run, recorded_withoutRecord, withoutRecord_recorded]

theorem globalCall_blind (offset : Offset) (function : String) (args : List Expr) :
    Blind (globalCall offset function args) := fun _ => rfl

/-- The expansion of a field test does not look at the record. -/
theorem expandHas_blind (offset : Offset) (args : List Expr) : Blind (expandHas offset args) := by
  unfold expandHas
  split
  · refine (allocate_blind offset).bind fun callId => ?_
    exact (recordCall_blind _ _).bind fun _ => .pure _
  · exact globalCall_blind offset _ _

/-- The expansion of a macro does not look at the record. -/
theorem maybeExpand_blind (offset : Offset) (call : Expr) : Blind (maybeExpand offset call) := by
  intro builder
  have same : MacroCall.recognize builder.withoutRecord.options call =
      MacroCall.recognize builder.options call := rfl
  rw [maybeExpand_run, maybeExpand_run, same]
  cases MacroCall.recognize builder.options call with
  | none => rfl
  | some found =>
    show (_, _) = (_, ((builder.advanceBy offset found.size).recorded _ call).withoutRecord)
    rw [withoutRecord_recorded, ← withoutRecord_advanceBy, recorded_withoutRecord]
    rfl

theorem call_blind (offset : Offset) (function : String) (args : List Expr) :
    Blind (call offset function args) := by
  intro builder
  have same : isHasCall builder.withoutRecord.options function args =
      isHasCall builder.options function args := rfl
  rw [NodeOperation.call_run, NodeOperation.call_run, same]
  split
  · exact expandHas_blind offset args builder
  · rfl

theorem memberCall_blind (offset : Offset) (target : Expr) (function : String)
    (args : List Expr) : Blind (memberCall offset target function args) :=
  Blind.bind (fun _ => rfl) fun call => maybeExpand_blind offset call

end Builder

/-! ### Constructions that a literal can stop -/

namespace Attempt

variable {α β : Type}

/-- The construction gives the same result, or is refused with the same error, for a builder and for
the one without its record, and keeps them so. -/
def Blind (construction : Attempt α) : Prop :=
  ∀ builder : Builder, construction.run.run builder.withoutRecord =
    ((construction.run.run builder).1, (construction.run.run builder).2.withoutRecord)

theorem Blind.pure (value : α) : Blind (Pure.pure value) := fun _ => rfl

/-- A construction that cannot be refused is as blind as before where refusals are possible. -/
theorem Blind.lift {construction : Build α} (blind : construction.Blind) :
    Blind (liftM construction) := by
  intro builder
  rw [run_lift, run_lift, blind builder]

theorem Blind.bind {construction : Attempt α} {rest : α → Attempt β} (one : construction.Blind)
    (two : ∀ value, (rest value).Blind) : (construction >>= rest).Blind := by
  intro builder
  rw [run_bind, run_bind, one builder]
  rcases construction.run.run builder with ⟨error | value, middle⟩
  · rfl
  · exact two value middle

end Attempt

/-- **A step on trees never looks at the record.** -/
theorem NodeOperation.perform_blind (offset : Offset) (operation : NodeOperation Expr Entry) :
    (operation.perform offset).Blind := by
  cases operation with
  | literal source =>
    rw [perform]
    split
    · exact .lift fun _ => rfl
    · exact fun _ => rfl
  | call function args => exact .lift (Builder.call_blind offset function args)
  | memberCall target function args =>
    exact .lift (Builder.memberCall_blind offset target function args)
  | operatorCall operator args => exact .lift (Builder.call_blind offset _ args)
  | index operand subscript => exact .lift (Builder.call_blind offset _ _)
  | _ => exact .lift fun _ => rfl

theorem EntryOperation.perform_blind (offset : Offset) (operation : EntryOperation Expr) :
    (operation.perform offset).Blind := by
  intro builder
  rw [perform_run, perform_run]
  rfl

end CelTree
