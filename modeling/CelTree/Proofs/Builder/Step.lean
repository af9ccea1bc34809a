/-
**What a step does to a builder.**

A step on trees ends in one of four ways: a refused literal changes nothing; an expanded field test
marks its select; an expanded member call becomes its fold; and every other step adds the node that
it writes.

* `isHasCall_iff`, `recognize_eq_some`: exactly which calls are expanded.
* `NodeOperation.Effect`: the four ways, each with the result and the builder after it.
* **`perform_effect`** — performing a step has such an effect, and no other (`Effect.perform_run`).
-/

import CelTree.Proofs.Macro.Fold

namespace CelTree

/-! ### Field tests -/

theorem Expr.isSelect_iff {tree : Expr} :
    tree.isSelect = true ↔
      ∃ id operand field testOnly, tree = .select id operand field testOnly := by
  cases tree <;> simp [Expr.isSelect]

/-- Whether a select is a field test; nothing for other nodes. -/
def Expr.testOnly? : Expr → Option Bool
  | .select _ _ _ testOnly => some testOnly
  | _ => none

theorem Expr.testOnly?_eq_some {tree : Expr} {testOnly : Bool}
    (select : tree.testOnly? = some testOnly) :
    ∃ id operand field, tree = .select id operand field testOnly := by
  cases tree with
  | select id operand field test =>
    cases select
    exact ⟨id, operand, field, rfl⟩
  | _ => cases select

theorem Macro.ofFunction_eq_has_iff (name : String) :
    Macro.ofFunction name = some .has ↔ name = "has" := by
  constructor
  · intro found
    unfold Macro.ofFunction at found
    split at found
    · assumption
    · repeat' split at found
      all_goals cases found
  · rintro rfl
    rfl

namespace Builder

/-- A global call is expanded exactly if it is `has` of one select and the options expand `has`. -/
theorem isHasCall_iff {options : Options} {function : String} {args : List Expr} :
    isHasCall options function args = true ↔
      function = Macro.has.function ∧ options.macros.contains .has = true ∧
        ∃ id operand field testOnly, args = [.select id operand field testOnly] := by
  constructor
  · intro expanded
    simp only [isHasCall, Bool.and_eq_true, beq_iff_eq, Macro.lookup,
      Option.filter_eq_some_iff] at expanded
    obtain ⟨⟨⟨named, -⟩, enabled⟩, shape⟩ := expanded
    refine ⟨(Macro.ofFunction_eq_has_iff function).mp named, enabled, ?_⟩
    split at shape
    · rename_i arg
      obtain ⟨id, operand, field, testOnly, rfl⟩ := Expr.isSelect_iff.mp shape
      exact ⟨id, operand, field, testOnly, rfl⟩
    · cases shape
  · rintro ⟨rfl, enabled, id, operand, field, testOnly, rfl⟩
    simp only [isHasCall, enabled, Bool.and_true]
    rfl

/-- A call of one argument is a field test exactly if it is named like one, the options expand it
and the argument is a select. -/
theorem isHasCall_singleton_iff {options : Options} {function : String} {tree : Expr} :
    isHasCall options function [tree] = true ↔
      function = Macro.has.function ∧ options.macros.contains .has = true ∧
        tree.testOnly?.isSome = true := by
  rw [isHasCall_iff]
  refine and_congr_right fun _ => and_congr_right fun _ => ⟨?_, fun select => ?_⟩
  · rintro ⟨id, operand, field, testOnly, same⟩
    cases same
    rfl
  · obtain ⟨testOnly, select⟩ := Option.isSome_iff_exists.mp select
    obtain ⟨id, operand, field, rfl⟩ := Expr.testOnly?_eq_some select
    exact ⟨id, operand, field, testOnly, rfl⟩

theorem isHasCall_of_length {options : Options} {function : String} {args : List Expr}
    (several : args.length ≠ 1) : isHasCall options function args = false := by
  rw [Bool.eq_false_iff]
  intro expanded
  obtain ⟨-, -, id, operand, field, testOnly, rfl⟩ := isHasCall_iff.mp expanded
  exact several rfl

/-- No operator is a field test, however it is spelled. -/
theorem isHasCall_operatorFunction (options : Options) (operator : String) (args : List Expr) :
    isHasCall options (operatorFunction operator) args = false := by
  rw [Bool.eq_false_iff]
  intro expanded
  have named := (isHasCall_iff.mp expanded).1
  unfold operatorFunction at named
  split at named
  · exact absurd named (by decide)
  · have letters := congrArg String.toList named
    simp [Macro.function] at letters

theorem isHasCall_indexFunction (options : Options) (args : List Expr) :
    isHasCall options indexFunction args = false := by
  rw [Bool.eq_false_iff]
  intro expanded
  exact absurd (isHasCall_iff.mp expanded).1 (by decide)

end Builder

/-! ### Fold macros -/

theorem MacroCall.testOnly?_fold (base : Int) (call : MacroCall) :
    (call.fold base).testOnly? = none := by
  obtain ⟨init, condition, step, result, shape⟩ := call.exists_fold_eq base
  rw [shape]
  rfl

/-- The trees that a fold macro works on. -/
def MacroBody.args : MacroBody → List Expr
  | .existsAny test => [test]
  | .all test => [test]
  | .existsOne test => [test]
  | .filter test => [test]
  | .map transform => [transform]
  | .mapWhere test transform => [test, transform]

namespace MacroCall

/-- A body is made of the arguments behind the iteration variable. -/
theorem args_of_bodyOf {m : Macro} {args : List Expr} {body : MacroBody}
    (found : bodyOf m args = some body) : body.args = args := by
  unfold bodyOf at found
  split at found
  all_goals first | cases found; rfl | cases found

/-- A recognised call is a member call whose first argument is the iteration variable; its target is
the range, and the body holds all other arguments. -/
theorem recognize_eq_some {options : Options} {call : Expr} {found : MacroCall}
    (recognized : recognize options call = some found) :
    ∃ id function variableId,
      call = .memberCall id found.range function
        (.ident variableId found.iterVar :: found.body.args) := by
  unfold recognize at recognized
  split at recognized
  · rename_i id target function args
    split at recognized
    · split at recognized
      · split at recognized
        · rename_i variableId iterVar rest looked
          obtain ⟨body, bodyFound, rfl⟩ := Option.map_eq_some_iff.mp recognized
          exact ⟨id, function, variableId, by rw [args_of_bodyOf bodyFound]⟩
        · cases recognized
      · cases recognized
    · cases recognized
  · cases recognized

/-- A recognised call has the name and the arity of a macro that the options expand. -/
theorem enabled_of_recognize {options : Options} {id : Int} {target : Expr} {function : String}
    {args : List Expr} {found : MacroCall}
    (recognized : recognize options (.memberCall id target function args) = some found) :
    ∃ m, Macro.lookup function args.length true = some m ∧ options.macros.contains m = true := by
  simp only [recognize] at recognized
  split at recognized
  · rename_i m looked
    split at recognized
    · rename_i enabled
      exact ⟨m, looked, enabled⟩
    · cases recognized
  · cases recognized

/-- The id of a call plays no part in its recognition. -/
theorem recognize_id (options : Options) (id other : Int) (target : Expr) (function : String)
    (args : List Expr) :
    recognize options (.memberCall id target function args) =
      recognize options (.memberCall other target function args) := rfl

end MacroCall

namespace Builder

/-- A recognised call becomes its fold and is offered for the record; any other call stays. -/
theorem maybeExpand_run (offset : Offset) (call : Expr) (builder : Builder) :
    (maybeExpand offset call).run builder =
      match MacroCall.recognize builder.options call with
      | some found =>
        (found.fold builder.lastId,
          (builder.advanceBy offset found.size).recorded (builder.lastId + found.size) call)
      | none => (call, builder) := by
  unfold maybeExpand
  rw [Build.run_bind]
  show (match MacroCall.recognize builder.options call with
    | some found => found.expand offset >>= fun expanded =>
      recordCall expanded.id call >>= fun _ => pure expanded
    | none => pure call : Build Expr).run builder = _
  split
  · rw [Build.run_bind, Build.run_bind, MacroCall.expand_run, recordCall_run, Build.run_pure,
      MacroCall.fold_id]
  · rfl

end Builder

/-! ### Steps -/

namespace NodeOperation

/-- The node that a step writes, before any expansion. -/
def node (id : Int) : NodeOperation Expr Entry → Except LiteralError Expr
  | .literal source => source.value.map (.literal id)
  | .ident name => .ok (.ident id name)
  | .select operand field => .ok (.select id operand field false)
  | .call function args => .ok (.call id function args)
  | .memberCall target function args => .ok (.memberCall id target function args)
  | .operatorCall operator args => .ok (.call id (Builder.operatorFunction operator) args)
  | .index operand subscript => .ok (.call id Builder.indexFunction [operand, subscript])
  | .list elements => .ok (.list id elements)
  | .struct message entries => .ok (.struct id message entries)

theorem literal_of_node {source : Literal} {id : Int} {tree : Expr}
    (written : node id (.literal source) = .ok tree) : ∃ value, tree = .literal id value := by
  rw [node] at written
  cases value : source.value with
  | ok constant =>
    rw [value] at written
    cases written
    exact ⟨constant, rfl⟩
  | error reason =>
    rw [value] at written
    cases written

/-- A step writes its node with the id that it is given. -/
theorem node_id {operation : NodeOperation Expr Entry} {id : Int} {tree : Expr}
    (written : operation.node id = .ok tree) : tree.id = id := by
  cases operation with
  | literal source =>
    obtain ⟨value, rfl⟩ := literal_of_node written
    rfl
  | _ =>
    cases written
    rfl

/-- A select that a step writes is no field test. -/
theorem testOnly?_node {operation : NodeOperation Expr Entry} {id : Int} {tree : Expr}
    {testOnly : Bool} (written : operation.node id = .ok tree)
    (select : tree.testOnly? = some testOnly) : testOnly = false := by
  cases operation with
  | literal source =>
    obtain ⟨value, rfl⟩ := literal_of_node written
    cases select
  | select operand field =>
    cases written
    cases select
    rfl
  | _ =>
    cases written
    cases select

/-- The step is a call that the options expand. -/
def isExpansion (options : Options) : NodeOperation Expr Entry → Bool
  | .call function args => Builder.isHasCall options function args
  | .memberCall target function args =>
    (MacroCall.recognize options (.memberCall 0 target function args)).isSome
  | _ => false

theorem isExpansion_test {options : Options} (enabled : options.macros.contains .has = true)
    (id : Int) (operand : Expr) (field : String) (testOnly : Bool) :
    isExpansion options (.call Macro.has.function [.select id operand field testOnly]) = true :=
  Builder.isHasCall_iff.mpr ⟨rfl, enabled, id, operand, field, testOnly, rfl⟩

theorem isExpansion_fold {options : Options} {id : Int} {target : Expr} {function : String}
    {args : List Expr} {found : MacroCall}
    (recognized : MacroCall.recognize options (.memberCall id target function args) = some found) :
    isExpansion options (.memberCall target function args) = true := by
  rw [isExpansion, MacroCall.recognize_id _ _ id, recognized]
  rfl

/-- The step expands a field test of a select that is a test already. -/
def isRetest (options : Options) : NodeOperation Expr Entry → Bool
  | .call function [.select id operand field testOnly] =>
    Builder.isHasCall options function [.select id operand field testOnly] && testOnly
  | _ => false

theorem isExpansion_of_isRetest {options : Options}
    {operation : NodeOperation Expr Entry} (retest : operation.isRetest options = true) :
    operation.isExpansion options = true := by
  unfold isRetest at retest
  split at retest
  · exact (Bool.and_eq_true_iff.mp retest).1
  · cases retest

/-- Without macros, no step is an expansion. -/
theorem isExpansion_none {options : Options} (plain : options.macros = .none)
    (operation : NodeOperation Expr Entry) : operation.isExpansion options = false := by
  rw [Bool.eq_false_iff]
  intro expanded
  cases operation with
  | call function args =>
    obtain ⟨-, enabled, -⟩ := Builder.isHasCall_iff.mp expanded
    rw [plain] at enabled
    cases enabled
  | memberCall target function args =>
    obtain ⟨found, recognized⟩ := Option.isSome_iff_exists.mp expanded
    obtain ⟨m, -, enabled⟩ := MacroCall.enabled_of_recognize recognized
    rw [plain] at enabled
    cases enabled
  | _ => cases expanded

/-- What a step does to a builder, and in what it results. -/
inductive Effect (offset : Offset) (builder : Builder) :
    NodeOperation Expr Entry → Except BuildError Expr → Builder → Prop
  | refused {source : Literal} {reason : LiteralError} (value : source.value = .error reason) :
    Effect offset builder (.literal source) (.error ⟨offset, reason⟩) builder
  | plain {operation : NodeOperation Expr Entry} {tree : Expr}
    (unexpanded : operation.isExpansion builder.options = false)
    (written : operation.node (builder.lastId + 1) = .ok tree) :
    Effect offset builder operation (.ok tree) (builder.advance offset)
  | test {id : Int} {operand : Expr} {field : String} {testOnly : Bool}
    (enabled : builder.options.macros.contains .has = true) :
    Effect offset builder (.call Macro.has.function [.select id operand field testOnly])
      (.ok (.select id operand field true))
      ((builder.advance offset).recorded id
        (.call (builder.lastId + 1) Macro.has.function [.select id operand field testOnly]))
  | fold {target : Expr} {function : String} {args : List Expr} {found : MacroCall}
    (recognized : MacroCall.recognize builder.options
      (.memberCall (builder.lastId + 1) target function args) = some found) :
    Effect offset builder (.memberCall target function args)
      (.ok (found.fold (builder.lastId + 1)))
      (((builder.advance offset).advanceBy offset found.size).recorded
        (builder.lastId + 1 + found.size)
        (.memberCall (builder.lastId + 1) target function args))

/-- A global call is a field test or stays a call. -/
theorem call_run (offset : Offset) (builder : Builder) (function : String) (args : List Expr) :
    (Builder.call offset function args).run builder =
      if Builder.isHasCall builder.options function args then
        (Builder.expandHas offset args).run builder
      else (.call (builder.lastId + 1) function args, builder.advance offset) := by
  unfold Builder.call
  rw [Build.run_bind]
  show (if Builder.isHasCall builder.options function args then Builder.expandHas offset args
    else Builder.globalCall offset function args : Build Expr).run builder = _
  split <;> rfl

/-- **Performing a step has its effect.** -/
theorem perform_effect (operation : NodeOperation Expr Entry) (offset : Offset)
    (builder : Builder) :
    Effect offset builder operation ((operation.perform offset).run.run builder).1
      ((operation.perform offset).run.run builder).2 := by
  cases operation with
  | literal source =>
    rw [perform]
    cases value : source.value with
    | ok constant => exact .plain rfl (by rw [node, value]; rfl)
    | error reason => exact .refused value
  | call function args =>
    rw [perform, Attempt.run_lift, call_run]
    split
    · rename_i expanded
      obtain ⟨rfl, enabled, id, operand, field, testOnly, rfl⟩ := Builder.isHasCall_iff.mp expanded
      exact .test enabled
    · rename_i unexpanded
      exact .plain (Bool.eq_false_iff.mpr unexpanded) rfl
  | memberCall target function args =>
    rw [perform, Attempt.run_lift, Builder.memberCall, Build.run_bind, Builder.receiverCall_run,
      Builder.maybeExpand_run]
    split
    · rename_i found recognized
      exact .fold recognized
    · rename_i unrecognized
      refine .plain ?_ rfl
      rw [isExpansion, MacroCall.recognize_id _ _ (builder.lastId + 1)]
      exact Option.isSome_eq_false_iff.mpr (Option.isNone_iff_eq_none.mpr unrecognized)
  | operatorCall operator args =>
    rw [perform, Attempt.run_lift, call_run, Builder.isHasCall_operatorFunction]
    exact .plain rfl rfl
  | index operand subscript =>
    rw [perform, Attempt.run_lift, call_run, Builder.isHasCall_indexFunction]
    exact .plain rfl rfl
  | ident name => exact .plain rfl rfl
  | select operand field => exact .plain rfl rfl
  | list elements => exact .plain rfl rfl
  | struct message entries => exact .plain rfl rfl

/-- A step takes no id back. -/
theorem Effect.lastId_le {operation : NodeOperation Expr Entry} {offset : Offset}
    {builder after : Builder} {outcome : Except BuildError Expr}
    (effect : operation.Effect offset builder outcome after) : builder.lastId ≤ after.lastId := by
  cases effect with
  | refused value => exact Int.le_refl _
  | plain unexpanded written => exact Int.le_add_one (Int.le_refl _)
  | test enabled =>
    rw [Builder.recorded_lastId]
    exact Int.le_add_one (Int.le_refl _)
  | fold recognized =>
    rw [Builder.recorded_lastId, Builder.advanceBy_lastId, Builder.advance_lastId]
    omega

/-- A step has no other effect than the one it is performed with. -/
theorem Effect.perform_run {operation : NodeOperation Expr Entry} {offset : Offset}
    {builder after : Builder} {outcome : Except BuildError Expr}
    (effect : operation.Effect offset builder outcome after) :
    (operation.perform offset).run.run builder = (outcome, after) := by
  cases effect with
  | refused value =>
    rw [perform, value]
    rfl
  | plain unexpanded written =>
    have performed := operation.perform_effect offset builder
    generalize (operation.perform offset).run.run builder = ran at performed ⊢
    obtain ⟨outcome', after'⟩ := ran
    cases performed with
    | refused value =>
      rw [node, value] at written
      cases written
    | plain _ written' =>
      rw [written] at written'
      cases written'
      rfl
    | test enabled =>
      rw [isExpansion_test enabled] at unexpanded
      cases unexpanded
    | fold recognized =>
      rw [isExpansion_fold recognized] at unexpanded
      cases unexpanded
  | test enabled =>
    rw [perform, Attempt.run_lift, call_run,
      if_pos (Builder.isHasCall_iff.mpr ⟨rfl, enabled, _, _, _, _, rfl⟩)]
    rfl
  | fold recognized =>
    rw [perform, Attempt.run_lift, Builder.memberCall, Build.run_bind, Builder.receiverCall_run,
      Builder.maybeExpand_run, Builder.advance_options, recognized]
    rfl

/-- Only a literal is refused, and it leaves the builder as it was. -/
theorem literal_of_perform_error {operation : NodeOperation Expr Entry} {offset : Offset}
    {builder after : Builder} {error : BuildError}
    (fails : (operation.perform offset).run.run builder = (.error error, after)) :
    ∃ source, operation = .literal source ∧ source.value = .error error.reason ∧
      error.offset = offset ∧ after = builder := by
  have effect := perform_effect operation offset builder
  rw [fails] at effect
  cases effect with
  | refused value => exact ⟨_, rfl, value, rfl, rfl⟩

end NodeOperation

namespace EntryOperation

/-- The entry that a step writes. -/
def entry (id : Int) : EntryOperation Expr → Entry
  | .map key value optional => .map id key value optional
  | .field name value optional => .field id name value optional

theorem perform_run (operation : EntryOperation Expr) (offset : Offset) (builder : Builder) :
    (operation.perform offset).run builder =
      (operation.entry (builder.lastId + 1), builder.advance offset) := by
  cases operation <;> rfl

end EntryOperation

end CelTree
