/-
**Constructions look at the macros of their own calls only.**

A construction asks the macros of its builder for one thing: whether they hold the macro with the
name of a call that is made. So a builder may exchange its macros for others that give the same
answer for the names in question. The calls of operators and index expressions, and those that an
expansion makes, have names of no macro, for which every two sets give the same answer.

* `MacroSet.AgreeOn`: two sets give the same answer for a function name.
* `isHasCall_eq_of_agreeOn`, `recognize_eq_of_agreeOn`: then the same calls are expanded.
* `Attempt.Alike`: a construction that does the same after its builder has exchanged its macros, and
  in whose results all further calls that may be expanded have names on which the sets agree.
* **`NodeOperation.perform_alike`** — so does a step on trees with such a name; `Attempt.closed_alike`
  lists what forcing needs.
-/

import CelTree.Proofs.Plan.Closure

namespace CelTree

/-! ### Sets that agree on a name -/

namespace MacroSet

/-- Both sets hold the macro with a function name, or neither does. On a name of no macro, all sets
agree. -/
def AgreeOn (first second : MacroSet) (function : String) : Prop :=
  ∀ m, Macro.ofFunction function = some m → first.contains m = second.contains m

instance (first second : MacroSet) (function : String) :
    Decidable (first.AgreeOn second function) :=
  decidable_of_iff
    (∀ m ∈ Macro.everyMacro, Macro.ofFunction function = some m →
      first.contains m = second.contains m)
    ⟨fun agree m => agree m (Macro.mem_everyMacro m), fun agree m _ => agree m⟩

end MacroSet

variable {first second : MacroSet}

/-- The function name of a member call. -/
def Expr.memberFunction? : Expr → Option String
  | .memberCall _ _ function _ => some function
  | _ => none

/-- The function names of a result that may still be looked up: those of a planned tree, and that of
a member call, whose expansion can be asked for. -/
def Item.functions : Item → List String
  | .node tree => tree.memberFunction?.toList
  | .entry _ => []
  | .plan held => held.functions
  | .planEntry held => held.functions

/-- Two sets agree on all function names of a result. -/
def Item.Agree (first second : MacroSet) (item : Item) : Prop :=
  ∀ function ∈ item.functions, first.AgreeOn second function

/-- Macro sets agree on a tree if they agree on the function that it calls on a target. -/
theorem Item.agree_node {tree : Expr} :
    (Item.node tree).Agree first second ↔
      ∀ function ∈ tree.memberFunction?, first.AgreeOn second function := by
  simp [Agree, functions]

theorem Item.agree_of_memberFunction? {tree : Expr} (other : tree.memberFunction? = none) :
    (Item.node tree).Agree first second := by
  rw [agree_node, other]
  rintro function ⟨⟩

/-! ### Calls that are expanded -/

namespace Builder

/-- Whether a call is a field test depends on the choice for its own name only. -/
theorem isHasCall_eq_of_agreeOn {options options' : Options} {function : String}
    (agree : options.macros.AgreeOn options'.macros function) (args : List Expr) :
    isHasCall options' function args = isHasCall options function args := by
  rw [Bool.eq_iff_iff, isHasCall_iff, isHasCall_iff]
  refine and_congr_right fun named => ?_
  rw [agree .has ((Macro.ofFunction_eq_has_iff function).mpr named)]

end Builder

/-- Whether a call is a fold macro depends on the choice for its own name only. -/
theorem MacroCall.recognize_eq_of_agreeOn {options options' : Options} {call : Expr}
    (agree : ∀ function ∈ call.memberFunction?, options.macros.AgreeOn options'.macros function) :
    recognize options' call = recognize options call := by
  cases call with
  | memberCall id target function args =>
    rw [recognize, recognize]
    cases looked : Macro.lookup function args.length true with
    | none => rfl
    | some found =>
      have named := (Option.filter_eq_some_iff.mp looked).1
      simp only [agree function rfl found named]
  | _ => rfl

/-- Whether a step expands depends on the choice for the function that it calls. -/
theorem NodeOperation.isExpansion_eq_of_agreeOn {options options' : Options}
    {operation : NodeOperation Expr Entry}
    (agree : ∀ function ∈ operation.function?,
      options.macros.AgreeOn options'.macros function) :
    operation.isExpansion options' = operation.isExpansion options := by
  cases operation with
  | call function args => exact Builder.isHasCall_eq_of_agreeOn (agree function rfl) args
  | memberCall target function args =>
    rw [isExpansion, isExpansion, MacroCall.recognize_eq_of_agreeOn fun name same => ?_]
    exact agree name same
  | _ => rfl

/-! ### Builders with other macros -/

/-- The options with another set of macros. -/
def Options.withMacros (options : Options) (macros : MacroSet) : Options := { options with macros }

namespace Builder

/-- The builder with another set of macros. -/
def withMacros (builder : Builder) (macros : MacroSet) : Builder :=
  { builder with options := builder.options.withMacros macros }

theorem withMacros_advance (builder : Builder) (macros : MacroSet) (offset : Offset) :
    (builder.advance offset).withMacros macros = (builder.withMacros macros).advance offset := rfl

theorem withMacros_advanceBy (builder : Builder) (macros : MacroSet) (offset : Offset)
    (count : Nat) :
    (builder.advanceBy offset count).withMacros macros =
      (builder.withMacros macros).advanceBy offset count := by
  induction count with
  | zero => rfl
  | succ count ih => rw [advanceBy, withMacros_advance, ih, advanceBy]

theorem withMacros_recorded (builder : Builder) (macros : MacroSet) (id : Int) (call : Expr) :
    (builder.recorded id call).withMacros macros = (builder.withMacros macros).recorded id call := by
  unfold recorded
  exact apply_ite (withMacros · macros) _ _ _

end Builder

namespace NodeOperation.Effect

/-- **A step has the same effect on a builder with other macros**, if these agree on its name. -/
theorem withMacros {operation : NodeOperation Expr Entry} {offset : Offset}
    {builder after : Builder} {outcome : Except BuildError Expr}
    (effect : operation.Effect offset builder outcome after)
    (agree : ∀ function ∈ operation.function?, builder.options.macros.AgreeOn second function) :
    operation.Effect offset (builder.withMacros second) outcome (after.withMacros second) := by
  cases effect with
  | refused value => exact .refused value
  | plain unexpanded written =>
    refine .plain ?_ written
    rw [isExpansion_eq_of_agreeOn agree]
    exact unexpanded
  | test enabled =>
    rw [Builder.withMacros_recorded]
    refine .test ?_
    rw [← enabled]
    exact (agree _ rfl .has rfl).symm
  | fold recognized =>
    rw [Builder.withMacros_recorded, Builder.withMacros_advanceBy]
    refine .fold ?_
    rw [← recognized]
    exact MacroCall.recognize_eq_of_agreeOn agree

theorem options {operation : NodeOperation Expr Entry} {offset : Offset}
    {builder after : Builder} {outcome : Except BuildError Expr}
    (effect : operation.Effect offset builder outcome after) : after.options = builder.options := by
  cases effect <;> simp

/-- If a step results in a member call, it is the call that the step was to make. -/
theorem memberFunction?_mem {operation : NodeOperation Expr Entry} {offset : Offset}
    {builder after : Builder} {tree : Expr}
    (effect : operation.Effect offset builder (.ok tree) after) :
    ∀ function ∈ tree.memberFunction?, function ∈ operation.function? := by
  intro function named
  -- Tests and folds are no calls, so a later expansion of the result finds nothing new to look up.
  cases effect with
  | plain unexpanded written =>
    cases operation with
    | literal source =>
      obtain ⟨value, rfl⟩ := literal_of_node written
      cases named
    | memberCall target name args =>
      cases written
      exact named
    | _ =>
      cases written
      cases named
  | test enabled => cases named
  | fold recognized =>
    obtain ⟨init, condition, step, result, shape⟩ := MacroCall.exists_fold_eq _ _
    rw [shape] at named
    cases named

end NodeOperation.Effect

/-! ### Constructions -/

namespace Attempt

variable {α β : Type}

/-- From a builder with the first set of macros, the construction does what it does with the second
set, it keeps the set, and its result is as required. -/
def Alike (first second : MacroSet) (Result : α → Prop) (construction : Attempt α) : Prop :=
  ∀ builder : Builder, builder.options.macros = first →
    construction.run.run (builder.withMacros second) =
        ((construction.run.run builder).1, (construction.run.run builder).2.withMacros second) ∧
      (construction.run.run builder).2.options.macros = first ∧
      ∀ value, (construction.run.run builder).1 = .ok value → Result value

theorem Alike.pure {Result : α → Prop} {value : α} (held : Result value) :
    Alike first second Result (Pure.pure value) := by
  refine fun builder same => ⟨rfl, same, ?_⟩
  rintro _ ⟨⟩
  exact held

theorem Alike.bind {One : α → Prop} {Two : β → Prop} {construction : Attempt α}
    {rest : α → Attempt β} (one : Alike first second One construction)
    (two : ∀ value, One value → Alike first second Two (rest value)) :
    Alike first second Two (construction >>= rest) := by
  intro builder same
  obtain ⟨other, kept, result⟩ := one builder same
  rw [run_bind, run_bind, other]
  rcases ran : construction.run.run builder with ⟨error | value, middle⟩
  · rw [ran] at kept
    exact ⟨rfl, kept, fun _ never => by cases never⟩
  · rw [ran] at kept result
    exact two value (result value rfl) middle kept

/-- A construction that refuses nothing, by its run. -/
theorem Alike.of_run {Result : α → Prop} {construction : Build α}
    (runs : ∀ builder : Builder, builder.options.macros = first → ∃ value after,
      construction.run builder = (value, after) ∧
        construction.run (builder.withMacros second) = (value, after.withMacros second) ∧
        after.options.macros = first ∧ Result value) :
    Alike first second Result (liftM construction) := by
  intro builder same
  obtain ⟨value, after, ran, other, kept, held⟩ := runs builder same
  rw [run_lift, run_lift, ran, other]
  refine ⟨rfl, kept, ?_⟩
  rintro _ ⟨⟩
  exact held

end Attempt

/-- **A step on trees does the same with macros that agree on its name.** -/
theorem NodeOperation.perform_alike (offset : Offset) {operation : NodeOperation Expr Entry}
    (agree : ∀ function ∈ operation.function?, first.AgreeOn second function) :
    (operation.perform offset).Alike first second fun tree =>
      (Item.node tree).Agree first second := by
  rintro builder rfl
  have effect := operation.perform_effect offset builder
  refine ⟨(effect.withMacros agree).perform_run, congrArg Options.macros effect.options, ?_⟩
  intro tree built
  rw [built] at effect
  exact Item.agree_node.mpr fun function named =>
    agree function (effect.memberFunction?_mem function named)

namespace Builder

theorem literal_alike (offset : Offset) (value : Constant) :
    (liftM (literal offset value) : Attempt Expr).Alike first second fun tree =>
      (Item.node tree).Agree first second :=
  .of_run fun _ same => ⟨_, _, rfl, rfl, same, Item.agree_of_memberFunction? rfl⟩

/-- The expansion of a field test by itself does not ask for the macros at all. -/
theorem expandHas_alike (offset : Offset) (args : List Expr) :
    (liftM (expandHas offset args) : Attempt Expr).Alike first second fun tree =>
      (Item.node tree).Agree first second := by
  refine .of_run fun builder same => ?_
  unfold expandHas
  split
  · rename_i id operand field testOnly
    let after := (builder.advance offset).recorded id
      (.call (builder.lastId + 1) Macro.has.function [.select id operand field testOnly])
    refine ⟨_, after, rfl, ?_, ?_, Item.agree_of_memberFunction? rfl⟩
    · rw [withMacros_recorded]
      rfl
    · rw [recorded_options]
      exact same
  · exact ⟨_, _, rfl, rfl, same, Item.agree_of_memberFunction? rfl⟩

/-- A call on which the sets agree is expanded alike. -/
theorem maybeExpand_alike (offset : Offset) {call : Expr}
    (agree : (Item.node call).Agree first second) :
    (liftM (maybeExpand offset call) : Attempt Expr).Alike first second fun tree =>
      (Item.node tree).Agree first second := by
  refine .of_run fun builder same => ?_
  have recognition : MacroCall.recognize (builder.withMacros second).options call =
      MacroCall.recognize builder.options call :=
    MacroCall.recognize_eq_of_agreeOn (by
      rw [same]
      exact Item.agree_node.mp agree)
  rw [maybeExpand_run, maybeExpand_run, recognition]
  cases MacroCall.recognize builder.options call with
  | none => exact ⟨_, _, rfl, rfl, same, agree⟩
  | some found =>
    refine ⟨_, _, rfl, ?_, ?_, Item.agree_of_memberFunction? ?_⟩
    · rw [withMacros_recorded, withMacros_advanceBy]
      rfl
    · rw [recorded_options, advanceBy_options]
      exact same
    · obtain ⟨init, condition, step, result, shape⟩ := found.exists_fold_eq builder.lastId
      rw [shape]
      rfl

end Builder

/-- Steps that pass names on which two sets agree do the same with either set, and sequences inherit
it. -/
theorem Attempt.closed_alike (first second : MacroSet) :
    Attempt.Closed (first.AgreeOn second) (Item.Agree first second)
      fun _ Result construction => construction.Alike first second Result where
  pure := Alike.pure
  bind := Alike.bind
  node offset _ agree _ := NodeOperation.perform_alike offset agree
  entry offset operation _ := .of_run fun builder same =>
    ⟨_, _, operation.perform_run offset builder, operation.perform_run offset _, same,
      fun _ never => by cases never⟩

end CelTree
