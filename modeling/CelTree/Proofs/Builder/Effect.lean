/-
**What a construction does to a builder.**

* `Attempt.run_bind`, `Build.run_bind`: how constructions run one after the other.
* `Builder.advanceBy`: the builder after several ids have been placed at one offset.
* `Builder.recorded`: the builder after a written call has been offered for the record.
* `literal_run` to `comprehension_run`: each constructor of an expansion takes one id and changes
  nothing else. So does a call by a name that no macro has (`call_run_of_unnamed`).
-/

import CelTree.Builder.Operation

namespace CelTree

namespace Attempt

variable {α β : Type}

/-- The second construction starts from the builder that the first one leaves, unless the first one
is refused. -/
theorem run_bind (first : Attempt α) (next : α → Attempt β) (builder : Builder) :
    (first >>= next).run.run builder =
      match first.run.run builder with
      | (.ok value, after) => (next value).run.run after
      | (.error error, after) => (.error error, after) := by
  rw [ExceptT.run_bind, StateT.run_bind]
  rcases first.run.run builder with ⟨outcome, after⟩
  cases outcome with
  | ok value => rfl
  | error error => rfl

theorem run_pure (value : α) (builder : Builder) :
    (pure value : Attempt α).run.run builder = (.ok value, builder) := rfl

/-- A construction that refuses nothing. -/
theorem run_lift (construction : Build α) (builder : Builder) :
    (liftM construction : Attempt α).run.run builder =
      (.ok (construction.run builder).1, (construction.run builder).2) := rfl

/-- Where the first construction succeeds, the second one decides. -/
theorem run_bind_ok {first : Attempt α} {next : α → Attempt β} {builder after : Builder} {value : α}
    (succeeds : first.run.run builder = (.ok value, after)) :
    (first >>= next).run.run builder = (next value).run.run after := by
  rw [run_bind, succeeds]

/-- Where the first construction is refused, so is the whole. -/
theorem run_bind_error {first : Attempt α} {next : α → Attempt β} {builder after : Builder}
    {error : BuildError} (fails : first.run.run builder = (.error error, after)) :
    (first >>= next).run.run builder = (.error error, after) := by
  rw [run_bind, fails]

/-- A sequence succeeds only through a success of its first part. -/
theorem of_run_bind_ok {first : Attempt α} {next : α → Attempt β} {builder last : Builder}
    {result : β} (succeeds : (first >>= next).run.run builder = (.ok result, last)) :
    ∃ value middle, first.run.run builder = (.ok value, middle) ∧
      (next value).run.run middle = (.ok result, last) := by
  rw [run_bind] at succeeds
  split at succeeds
  · rename_i value middle ran
    exact ⟨value, middle, ran, succeeds⟩
  · cases succeeds

end Attempt

/-- Constructions that cannot be refused run one after the other. -/
theorem Build.run_bind {α β : Type} (first : Build α) (next : α → Build β) (builder : Builder) :
    (first >>= next).run builder = (next (first.run builder).1).run (first.run builder).2 := rfl

theorem Build.run_pure {α : Type} (value : α) (builder : Builder) :
    (pure value : Build α).run builder = (value, builder) := rfl

namespace Builder

/-! ### The builder after an allocation -/

@[simp] theorem advance_options (builder : Builder) (offset : Offset) :
    (builder.advance offset).options = builder.options := rfl

@[simp] theorem advance_lastId (builder : Builder) (offset : Offset) :
    (builder.advance offset).lastId = builder.lastId + 1 := rfl

@[simp] theorem advance_macroCalls (builder : Builder) (offset : Offset) :
    (builder.advance offset).info.macroCalls = builder.info.macroCalls := rfl

/-- The builder after several more ids have been placed at one offset. -/
def advanceBy (builder : Builder) (offset : Offset) : Nat → Builder
  | 0 => builder
  | count + 1 => (builder.advanceBy offset count).advance offset

@[simp] theorem advanceBy_options (builder : Builder) (offset : Offset) (count : Nat) :
    (builder.advanceBy offset count).options = builder.options := by
  induction count with
  | zero => rfl
  | succ count ih => rw [advanceBy, advance_options, ih]

@[simp] theorem advanceBy_lastId (builder : Builder) (offset : Offset) (count : Nat) :
    (builder.advanceBy offset count).lastId = builder.lastId + count := by
  induction count with
  | zero => simp [advanceBy]
  | succ count ih =>
    rw [advanceBy, advance_lastId, ih]
    omega

@[simp] theorem advanceBy_macroCalls (builder : Builder) (offset : Offset) (count : Nat) :
    (builder.advanceBy offset count).info.macroCalls = builder.info.macroCalls := by
  induction count with
  | zero => rfl
  | succ count ih => rw [advanceBy, advance_macroCalls, ih]

/-! ### The builder after a record -/

/-- The builder after a written call has been offered for the record. -/
def recorded (builder : Builder) (id : Int) (call : Expr) : Builder :=
  if builder.options.recordCalls then builder.withMacroCall id call else builder

theorem recordCall_run (builder : Builder) (id : Int) (call : Expr) :
    (recordCall id call).run builder = ((), builder.recorded id call) := rfl

@[simp] theorem recorded_options (builder : Builder) (id : Int) (call : Expr) :
    (builder.recorded id call).options = builder.options := by
  unfold recorded
  split <;> rfl

@[simp] theorem recorded_lastId (builder : Builder) (id : Int) (call : Expr) :
    (builder.recorded id call).lastId = builder.lastId := by
  unfold recorded
  split <;> rfl

/-- A call is recorded if the options say so. -/
theorem recorded_macroCalls (builder : Builder) (id : Int) (call : Expr)
    (recording : builder.options.recordCalls = true) :
    (builder.recorded id call).info.macroCalls = builder.info.macroCalls.insert id call := by
  rw [recorded, if_pos recording]
  rfl

/-- A record changes the entry of its own id only. -/
theorem recorded_get?_of_ne (builder : Builder) {id other : Int} (call : Expr)
    (different : other ≠ id) :
    (builder.recorded id call).info.macroCalls.get? other =
      builder.info.macroCalls.get? other := by
  unfold recorded
  split
  · show (builder.info.macroCalls.insert id call).get? other = _
    rw [IdMap.get?_insert, if_neg different]
  · rfl

/-! ### Constructors -/

section Constructors

variable (offset : Offset) (builder : Builder)

/-- A literal takes the next id. -/
theorem literal_run (value : Constant) :
    (literal offset value).run builder =
      (.literal (builder.lastId + 1) value, builder.advance offset) := rfl

theorem ident_run (name : String) :
    (ident offset name).run builder =
      (.ident (builder.lastId + 1) name, builder.advance offset) := rfl

theorem globalCall_run (function : String) (args : List Expr) :
    (globalCall offset function args).run builder =
      (.call (builder.lastId + 1) function args, builder.advance offset) := rfl

theorem receiverCall_run (target : Expr) (function : String) (args : List Expr) :
    (receiverCall offset target function args).run builder =
      (.memberCall (builder.lastId + 1) target function args, builder.advance offset) := rfl

theorem list_run (elements : List Expr) :
    (list offset elements).run builder =
      (.list (builder.lastId + 1) elements, builder.advance offset) := rfl

/-- A call by a name that no macro has is never expanded, whatever the options are. -/
theorem isHasCall_of_unnamed {function : String} (unnamed : Macro.ofFunction function = none)
    (options : Options) (args : List Expr) : isHasCall options function args = false := by
  unfold isHasCall Macro.lookup
  rw [unnamed]
  rfl

/-- A call of a function that is named like no macro is not expanded. -/
theorem call_run_of_unnamed {function : String} (unnamed : Macro.ofFunction function = none)
    (args : List Expr) :
    (call offset function args).run builder =
      (.call (builder.lastId + 1) function args, builder.advance offset) := by
  unfold call
  rw [Build.run_bind]
  show (if isHasCall builder.options function args then expandHas offset args
    else globalCall offset function args : Build Expr).run builder = _
  rw [isHasCall_of_unnamed unnamed, if_neg Bool.false_ne_true, globalCall_run]

/-- A fold takes the next id; it has no second iteration variable. -/
theorem comprehension_run (iterVar : String) (range : Expr) (accuVar : String)
    (init condition step result : Expr) :
    (comprehension offset iterVar range accuVar init condition step result).run builder =
      (.comprehension (builder.lastId + 1) iterVar "" range accuVar init condition step result,
        builder.advance offset) := rfl

end Constructors

end Builder

end CelTree
