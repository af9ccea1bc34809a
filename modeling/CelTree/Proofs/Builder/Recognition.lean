/-
**Exactly which calls are expanded.**

A member call becomes a fold if its name and its number of arguments are those of a macro in the set
and its first argument is an identifier. A global call becomes a field test if it is `has` of one
select and `has` is in the set. Every other call is written as it stands, and so are the calls of
all operators and of index expressions, whatever their spelling.

* `Macro.Writes`: the names and numbers of arguments of the member macros. `lookup_eq_some_iff`: so
  are they looked up.
* `Options.ExpandsMember`, `Options.ExpandsTest`: the calls that the options expand.
* `Builder.TakesOneId`: a builder takes the next id and leaves its record alone.
* **`NodeOperation.perform_expands_iff`** — a call is expanded exactly if the options expand it, and
  otherwise it is written as it stands.
-/

import CelTree.Proofs.Builder.Step
import CelTree.Proofs.Expr.Nodes
import Mathlib.Data.List.Basic

namespace CelTree

/-! ### Macros and their calls -/

/-- A member call with this name and this number of arguments is a call of the macro. -/
inductive Macro.Writes : Macro → String → Nat → Prop
  | all : Writes .all "all" 2
  | existsAny : Writes .existsAny "exists" 2
  | existsOne : Writes .existsOne "exists_one" 2
  /-- The second spelling. -/
  | existsOneCamel : Writes .existsOne "existsOne" 2
  | filter : Writes .filter "filter" 2
  | map : Writes .map "map" 2
  | mapWhere : Writes .map "map" 3

theorem Macro.ofFunction_eq_some_iff {m : Macro} {name : String} :
    Macro.ofFunction name = some m ↔
      name = m.function ∨ m = .existsOne ∧ name = "existsOne" := by
  constructor
  · intro found
    unfold Macro.ofFunction at found
    repeat' split at found
    all_goals cases found
    all_goals first
      | exact .inl ‹_ = _›
      | exact ‹_ ∨ _›.imp id fun second => ⟨rfl, second⟩
  · rintro (rfl | ⟨rfl, rfl⟩)
    · exact Macro.ofFunction_function m
    · rfl

theorem Macro.lookup_eq_some_iff {m : Macro} {function : String} {arity : Nat} :
    Macro.lookup function arity true = some m ↔ m.Writes function arity := by
  rw [Macro.lookup, Option.filter_eq_some_iff, Macro.ofFunction_eq_some_iff]
  constructor
  · rintro ⟨named, accepted⟩
    obtain ⟨member, arity⟩ := Bool.and_eq_true_iff.mp accepted
    -- only one macro has a second spelling, and only one a second number of arguments
    cases m with
    | has => cases member
    | existsOne =>
      obtain rfl := beq_iff_eq.mp arity
      rcases named with rfl | ⟨-, rfl⟩
      · exact .existsOne
      · exact .existsOneCamel
    | map =>
      obtain rfl := named.resolve_right fun second => by cases second.1
      rcases Bool.or_eq_true_iff.mp arity with two | three
      · obtain rfl := beq_iff_eq.mp two
        exact .map
      · obtain rfl := beq_iff_eq.mp three
        exact .mapWhere
    | all | existsAny | filter =>
      obtain rfl := named.resolve_right fun second => by cases second.1
      obtain rfl := beq_iff_eq.mp arity
      constructor
  · intro written
    cases written <;> decide

example :
    Macro.lookup "has" 1 true = none ∧ Macro.lookup "filter" 3 true = none ∧
      Macro.lookup "exists" 2 false = none := by
  decide

/-- A macro finds its body behind the first argument. -/
theorem MacroCall.exists_bodyOf {m : Macro} {function : String} {rest : List Expr}
    (written : m.Writes function (rest.length + 1)) : ∃ body, bodyOf m rest = some body := by
  generalize arity : rest.length + 1 = count at written
  cases written with
  | mapWhere =>
    obtain ⟨test, transform, rfl⟩ := List.length_eq_two.mp (Nat.succ.inj arity)
    exact ⟨.mapWhere test transform, rfl⟩
  | _ =>
    obtain ⟨test, rfl⟩ := List.length_eq_one_iff.mp (Nat.succ.inj arity)
    exact ⟨_, rfl⟩

/-! ### Calls that are expanded -/

/-- The options expand a member call: it is a call of a macro in the set, and its first argument is
an identifier. -/
def Options.ExpandsMember (options : Options) (function : String) (args : List Expr) : Prop :=
  (∃ m : Macro, m.Writes function args.length ∧ options.macros.contains m = true) ∧
    ∃ id name rest, args = .ident id name :: rest

/-- The options expand a global call: it is `has` of one select, and `has` is in the set. -/
def Options.ExpandsTest (options : Options) (function : String) (args : List Expr) : Prop :=
  function = "has" ∧ options.macros.contains .has = true ∧
    ∃ id operand field testOnly, args = [.select id operand field testOnly]

theorem Options.expandsTest_iff {options : Options} {function : String} {args : List Expr} :
    options.ExpandsTest function args ↔ Builder.isHasCall options function args = true :=
  Builder.isHasCall_iff.symm

namespace MacroCall

theorem isSome_recognize_iff {options : Options} {id : Int} {target : Expr}
    {function : String} {args : List Expr} :
    (recognize options (.memberCall id target function args)).isSome = true ↔
      options.ExpandsMember function args := by
  constructor
  · intro recognized
    obtain ⟨found, recognized⟩ := Option.isSome_iff_exists.mp recognized
    obtain ⟨m, looked, enabled⟩ := enabled_of_recognize recognized
    obtain ⟨_, _, variableId, same⟩ := recognize_eq_some recognized
    cases same
    exact ⟨⟨m, Macro.lookup_eq_some_iff.mp looked, enabled⟩, variableId, found.iterVar, _, rfl⟩
  · rintro ⟨⟨m, written, enabled⟩, variableId, iterVar, rest, rfl⟩
    obtain ⟨body, found⟩ := exists_bodyOf written
    simp only [recognize, Macro.lookup_eq_some_iff.mpr written, enabled, found]
    rfl

theorem isComprehension_fold (base : Int) (call : MacroCall) :
    (call.fold base).isComprehension = true := by
  obtain ⟨init, condition, step, result, shape⟩ := call.exists_fold_eq base
  rw [shape]
  rfl

end MacroCall

/-! ### Calls that stay -/

/-- The builder has taken the next id and placed it at an offset. Its options and the calls on its
record are as before. -/
structure Builder.TakesOneId (offset : Offset) (builder after : Builder) : Prop where
  options : after.options = builder.options
  lastId : after.lastId = builder.lastId + 1
  positions : after.info.positions = builder.info.positions.insert (builder.lastId + 1) offset
  macroCalls : after.info.macroCalls = builder.info.macroCalls

theorem Builder.takesOneId_advance (builder : Builder) (offset : Offset) :
    TakesOneId offset builder (builder.advance offset) := ⟨rfl, rfl, rfl, rfl⟩

namespace NodeOperation

variable (builder : Builder) (offset : Offset)

/-- **Exactly which calls are expanded.** A member call results in a fold, and a global call in its
argument marked as a test, exactly if the options expand it. Every other call, every operator and
every index expression is written as it stands: it takes one id, and nothing is recorded. -/
theorem perform_expands_iff :
    (∀ target function args, ∃ tree after,
      (perform offset (.memberCall target function args)).run.run builder = (.ok tree, after) ∧
      (tree.isComprehension = true ↔ builder.options.ExpandsMember function args) ∧
      (¬ builder.options.ExpandsMember function args →
        tree = .memberCall (builder.lastId + 1) target function args ∧
          builder.TakesOneId offset after)) ∧
    (∀ function args, ∃ tree after,
      (perform offset (.call function args)).run.run builder = (.ok tree, after) ∧
      ((∃ id operand field testOnly, args = [.select id operand field testOnly] ∧
        tree = .select id operand field true) ↔ builder.options.ExpandsTest function args) ∧
      (¬ builder.options.ExpandsTest function args →
        tree = .call (builder.lastId + 1) function args ∧ builder.TakesOneId offset after)) ∧
    (∀ operator args, ∃ after,
      (perform offset (.operatorCall operator args)).run.run builder =
        (.ok (.call (builder.lastId + 1) (Builder.operatorFunction operator) args), after) ∧
      builder.TakesOneId offset after) ∧
    ∀ operand subscript, ∃ after,
      (perform offset (.index operand subscript)).run.run builder =
        (.ok (.call (builder.lastId + 1) "_[_]" [operand, subscript]), after) ∧
      builder.TakesOneId offset after := by
  have kept := builder.takesOneId_advance offset
  refine ⟨fun target function args => ?_, fun function args => ?_, fun operator args => ?_,
    fun operand subscript => ?_⟩
  · by_cases expands : builder.options.ExpandsMember function args
    · obtain ⟨found, recognized⟩ :=
        Option.isSome_iff_exists.mp (MacroCall.isSome_recognize_iff.mpr expands)
      exact ⟨_, _, (Effect.fold recognized).perform_run,
        iff_of_true (found.isComprehension_fold _) expands, fun other => absurd expands other⟩
    · have unexpanded : isExpansion builder.options (.memberCall target function args) = false :=
        Bool.eq_false_iff.mpr fun recognized =>
          expands (MacroCall.isSome_recognize_iff.mp recognized)
      exact ⟨_, _, (Effect.plain unexpanded rfl).perform_run,
        iff_of_false Bool.false_ne_true expands, fun _ => ⟨rfl, kept⟩⟩
  · by_cases expands : builder.options.ExpandsTest function args
    · have written := expands
      obtain ⟨rfl, enabled, id, operand, field, testOnly, rfl⟩ := written
      exact ⟨_, _, (Effect.test enabled).perform_run, iff_of_true ⟨_, _, _, _, rfl, rfl⟩ expands,
        fun other => absurd expands other⟩
    · have unexpanded : isExpansion builder.options (.call function args) = false :=
        Bool.eq_false_iff.mpr fun named => expands (Options.expandsTest_iff.mpr named)
      refine ⟨_, _, (Effect.plain unexpanded rfl).perform_run, iff_of_false ?_ expands,
        fun _ => ⟨rfl, kept⟩⟩
      rintro ⟨id, operand, field, testOnly, -, marked⟩
      cases marked
  · exact ⟨_, (Effect.plain rfl rfl).perform_run, kept⟩
  · exact ⟨_, (Effect.plain rfl rfl).perform_run, kept⟩

end NodeOperation

end CelTree
