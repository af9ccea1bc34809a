/-
**Taking calls apart never fails.**

An expansion takes a call apart on the strength of what its name and the number of its arguments have
been checked for. Here each step names the fault that it would end in if the call did not have the
shape it counts on. No call has a fault, whether a builder has made it or not, and no argument is
left over.

* `Fault`: what would stop an expansion.
* `isHasCall?`, `expandHas?`, `maybeExpand?`: the expansions, with their faults.
* `MacroCall.takeApart_eq`: a call of a macro is taken apart without a fault and to the end.
* **`Builder.expansion_total`** — there are no faults, and every argument is in the expansion.
-/

import CelTree.Proofs.Builder.Recognition

namespace CelTree

/-- What would stop an expansion halfway. -/
inductive Fault
  /-- The first of no arguments is asked for. -/
  | noArgument
  /-- A call without a target counts as a member call. -/
  | noTarget
  /-- The iteration variable is no identifier. -/
  | noVariable
  /-- The field test counts as a member call. -/
  | testAsFold

namespace Fault

/-- The first of some arguments. -/
def first : List Expr → Except Fault Expr
  | [] => .error .noArgument
  | arg :: _ => .ok arg

/-- Takes the first argument off. -/
def takeFirst : StateT (List Expr) (Except Fault) Expr
  | [] => .error .noArgument
  | arg :: rest => .ok (arg, rest)

end Fault

open Fault

/-! ### Field tests -/

namespace Builder

/-- A global call is a field test. Its argument is looked at only where the name and the number of
arguments say that there is one. -/
def isHasCall? (options : Options) (function : String) (args : List Expr) : Except Fault Bool := do
  if Macro.lookup function args.length false == some .has && options.macros.contains .has then
    return (← first args).isSelect
  else return false

theorem isHasCall?_eq (options : Options) (function : String) (args : List Expr) :
    isHasCall? options function args = .ok (isHasCall options function args) := by
  unfold isHasCall? isHasCall
  cases named : Macro.lookup function args.length false == some .has &&
      options.macros.contains .has with
  | false => rfl
  | true =>
    have looked := beq_iff_eq.mp (Bool.and_eq_true_iff.mp named).1
    obtain ⟨-, accepted⟩ := Option.filter_eq_some_iff.mp looked
    have single : args.length = 1 := beq_iff_eq.mp accepted
    obtain ⟨arg, rfl⟩ := List.length_eq_one_iff.mp single
    rfl

/-- The arguments are one select. -/
def isSelectAlone? (args : List Expr) : Except Fault Bool := do
  if args.length == 1 then return (← first args).isSelect else return false

theorem isSelectAlone?_of_several (arg second : Expr) (rest : List Expr) :
    isSelectAlone? (arg :: second :: rest) = .ok false :=
  if_neg (by simp)

end Builder

/-- The tree marked as a test, if it is a select. -/
def Expr.asTest : Expr → Expr
  | .select id operand field _ => .select id operand field true
  | other => other

namespace Builder

/-- Takes the select of a field test off the arguments and marks it. Arguments of another shape stay
a call. -/
def expandHas? (offset : Offset) (args : List Expr) : ExceptT Fault Build Expr := do
  if ← ofExcept (isSelectAlone? args) then
    let callId ← allocate offset
    let (operand, _) ← ofExcept (takeFirst.run args)
    recordCall operand.id (.call callId Macro.has.function [operand])
    return operand.asTest
  else globalCall offset Macro.has.function args

theorem expandHas?_run (offset : Offset) (args : List Expr) (builder : Builder) :
    (expandHas? offset args).run.run builder =
      (.ok ((expandHas offset args).run builder).1, ((expandHas offset args).run builder).2) := by
  match args with
  | [] => rfl
  | [arg] => cases arg <;> rfl
  | arg :: second :: rest =>
    unfold expandHas?
    rw [isSelectAlone?_of_several]
    cases arg <;> rfl

end Builder

/-! ### Fold macros -/

namespace MacroCall

/-- The macro that a call is recognised as. The first argument is looked at only where the name and
the number of arguments say that there is one. -/
def macroOf? (options : Options) : Expr → Except Fault (Option Macro)
  | .memberCall _ _ function args =>
    match Macro.lookup function args.length true with
    | some found => do
      if options.macros.contains found then
        match ← first args with
        | .ident _ _ => return some found
        | _ => return none
      else return none
    | none => return none
  | _ => return none

/-- The name of the iteration variable. -/
def variableName? : Expr → Except Fault String
  | .ident _ name => return name
  | _ => throw .noVariable

/-- Takes off the arguments that the template of a macro works on. -/
def takeBody (found : Macro) : StateT (List Expr) (Except Fault) MacroBody := do
  match found with
  | .existsAny => return .existsAny (← takeFirst)
  | .all => return .all (← takeFirst)
  | .existsOne => return .existsOne (← takeFirst)
  | .filter => return .filter (← takeFirst)
  | .map =>
    if (← get).length == 2 then
      let test ← takeFirst
      let transform ← takeFirst
      return .mapWhere test transform
    else return .map (← takeFirst)
  | .has => throw .testAsFold

/-- Takes a call of a macro apart, and tells the arguments that are left over. -/
def takeApart (found : Macro) : Expr → Except Fault (MacroCall × List Expr)
  | .memberCall _ target _ args => do
    let (iterator, args) ← takeFirst.run args
    let iterVar ← variableName? iterator
    let (body, left) ← (takeBody found).run args
    return (⟨target, iterVar, body⟩, left)
  | _ => throw .noTarget

/-- The template of a macro takes all arguments behind the first. -/
theorem takeBody_run {m : Macro} {function : String} {rest : List Expr}
    (written : m.Writes function (rest.length + 1)) :
    ∃ body, bodyOf m rest = some body ∧ (takeBody m).run rest = .ok (body, []) := by
  generalize arity : rest.length + 1 = count at written
  cases written with
  | mapWhere =>
    obtain ⟨test, transform, rfl⟩ := List.length_eq_two.mp (Nat.succ.inj arity)
    exact ⟨_, rfl, rfl⟩
  | _ =>
    obtain ⟨test, rfl⟩ := List.length_eq_one_iff.mp (Nat.succ.inj arity)
    exact ⟨_, rfl, rfl⟩

/-- **A call of a macro is taken apart without a fault and to the end.** Any call is either none of
a macro, or its arguments are the iteration variable and what the template of its macro takes. -/
theorem takeApart_eq (options : Options) (call : Expr) :
    (macroOf? options call = .ok none ∧ recognize options call = none) ∨
    ∃ m id function iterId found,
      macroOf? options call = .ok (some m) ∧
      m.Writes function (found.body.args.length + 1) ∧
      call = .memberCall id found.range function
        (.ident iterId found.iterVar :: found.body.args) ∧
      takeApart m call = .ok (found, []) ∧ recognize options call = some found := by
  cases call with
  | memberCall id target function args =>
    rw [macroOf?, recognize]
    cases looked : Macro.lookup function args.length true with
    | none => exact .inl ⟨rfl, rfl⟩
    | some m =>
      by_cases enabled : options.macros.contains m = true
      · simp only [enabled, if_true]
        have written := Macro.lookup_eq_some_iff.mp looked
        -- no macro takes no argument, so there is a first one to look at
        cases args with
        | nil => cases written
        | cons first rest =>
          cases first with
          | ident iterId iterVar =>
            obtain ⟨body, found, taken⟩ := takeBody_run written
            obtain rfl := args_of_bodyOf found
            refine .inr ⟨m, id, function, iterId, ⟨target, iterVar, body⟩, rfl, written, rfl, ?_, ?_⟩
            · show ((takeBody m).run body.args).bind _ = _
              rw [taken]
              rfl
            · show (bodyOf m body.args).map _ = _
              rw [found]
              rfl
          | _ => exact .inl ⟨rfl, rfl⟩
      · simp only [enabled]
        exact .inl ⟨rfl, rfl⟩
  | _ => exact .inl ⟨rfl, rfl⟩

/-- An argument too many would be left over, and one too few would be a fault. -/
example :
    takeApart .filter (.memberCall 5 (.ident 1 "xs") "filter"
        [.ident 2 "x", .ident 3 "a", .ident 4 "b"]) =
      .ok (⟨.ident 1 "xs", "x", .filter (.ident 3 "a")⟩, [.ident 4 "b"]) ∧
    takeApart .filter (.memberCall 3 (.ident 1 "xs") "filter" [.ident 2 "x"]) =
      .error .noArgument := by
  constructor <;> rfl

end MacroCall

namespace Builder

/-- Expands a call as one of a macro, and tells the arguments that no template has taken. A call of
no macro stays. The calls that a template makes are global calls by themselves, so they have the
faults of `isHasCall?` and `expandHas?` only. -/
def expandAs? (offset : Offset) (call : Expr) : Option Macro → ExceptT Fault Build (Expr × List Expr)
  | some m => do
    let (found, left) ← ofExcept (MacroCall.takeApart m call)
    let expanded ← found.expand offset
    recordCall expanded.id call
    return (expanded, left)
  | none => return (call, [])

/-- Expands a call that is recognised as one of a macro. -/
def maybeExpand? (offset : Offset) (call : Expr) : ExceptT Fault Build (Expr × List Expr) := do
  expandAs? offset call (← ofExcept (MacroCall.macroOf? (← get).options call))

theorem maybeExpand?_run_of_macroOf? (offset : Offset) {builder : Builder} {call : Expr}
    {recognized : Option Macro}
    (read : MacroCall.macroOf? builder.options call = .ok recognized) :
    (maybeExpand? offset call).run.run builder =
      (expandAs? offset call recognized).run.run builder := by
  show (ofExcept (MacroCall.macroOf? builder.options call) >>= expandAs? offset call :
    ExceptT Fault Build (Expr × List Expr)).run.run builder = _
  rw [read]
  rfl

theorem expandAs?_run_of_takeApart (offset : Offset) (builder : Builder) {m : Macro} {call : Expr}
    {found : MacroCall} {left : List Expr} (taken : MacroCall.takeApart m call = .ok (found, left)) :
    (expandAs? offset call (some m)).run.run builder =
      (.ok (found.fold builder.lastId, left),
        (builder.advanceBy offset found.size).recorded (builder.lastId + found.size) call) := by
  have expanded := found.expand_run offset builder
  rw [← found.fold_id builder.lastId]
  rw [expandAs?, taken]
  show (Except.ok (((found.expand offset).run builder).1, left),
    ((found.expand offset).run builder).2.recorded ((found.expand offset).run builder).1.id call) = _
  rw [expanded]

/-- The faults of an expansion are none: it does what it does without them, and leaves no argument
over. -/
theorem maybeExpand?_run (offset : Offset) (call : Expr) (builder : Builder) :
    (maybeExpand? offset call).run.run builder =
      (.ok (((maybeExpand offset call).run builder).1, []),
        ((maybeExpand offset call).run builder).2) := by
  rw [maybeExpand_run]
  rcases MacroCall.takeApart_eq builder.options call with
    ⟨other, unrecognized⟩ | ⟨m, id, function, iterId, found, read, -, -, taken, recognized⟩
  · rw [maybeExpand?_run_of_macroOf? offset other, unrecognized]
    rfl
  · rw [maybeExpand?_run_of_macroOf? offset read, expandAs?_run_of_takeApart offset builder taken,
      recognized]

/-- **Expanding is total and drops nothing.** Whatever the builder and its options are, no call and
no list of arguments, whether a builder has made them or not, lets the field test or an expansion
end in a fault: what they count on about the shape of a call has been checked. A call that is no
call of a macro stays as it is. Of a call of a macro no argument is left over, and its target and
all its arguments behind the iteration variable are nodes of what it becomes. -/
theorem expansion_total (builder : Builder) (offset : Offset) :
    (∀ function args, isHasCall? builder.options function args =
      .ok (isHasCall builder.options function args)) ∧
    (∀ args, (expandHas? offset args).run.run builder =
      (.ok ((expandHas offset args).run builder).1, ((expandHas offset args).run builder).2)) ∧
    ∀ call, ∃ tree after,
      (maybeExpand? offset call).run.run builder = (.ok (tree, []), after) ∧
      (maybeExpand offset call).run builder = (tree, after) ∧
      (MacroCall.macroOf? builder.options call = .ok none ∧ tree = call ∧ after = builder ∨
        ∃ m id target function iterId iterVar args,
          MacroCall.macroOf? builder.options call = .ok (some m) ∧
          call = .memberCall id target function (.ident iterId iterVar :: args) ∧
          m.Writes function (args.length + 1) ∧
          ∀ part ∈ target :: args, part ∈ tree.nodes) := by
  refine ⟨isHasCall?_eq builder.options, fun args => expandHas?_run offset args builder,
    fun call => ⟨_, _, maybeExpand?_run offset call builder, rfl, ?_⟩⟩
  rw [maybeExpand_run]
  rcases MacroCall.takeApart_eq builder.options call with
    ⟨other, unrecognized⟩ | ⟨m, id, function, iterId, found, read, written, shape, -, recognized⟩
  · rw [unrecognized]
    exact .inl ⟨other, rfl, rfl⟩
  · rw [recognized]
    exact .inr ⟨m, id, found.range, function, iterId, found.iterVar, found.body.args, read, shape,
      written, fun part member => MacroCall.mem_nodes_fold member⟩

end Builder

end CelTree
