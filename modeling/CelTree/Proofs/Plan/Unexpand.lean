/-
**Expansions can be undone.**

* `Plan.testOnly?`: whether a plan results in a select, and if so whether in a field test.
* `Plan.retests`: some field test in the plan is given a field test.
* `Plan.force_stands`: the tree that a plan results in stands for the tree that the plan writes, by
  induction over the plan.
* **`unexpand_force`** — from the record of a plan without second tests, undoing the expansions of
  its tree results, up to ids, in its tree without macros.
-/

import CelTree.Proofs.Builder.Unexpand
import CelTree.Proofs.Plan.Written

namespace CelTree

/-! ### Field tests -/

/-- Whether a plan results in a select, and if so whether in a field test. -/
def Plan.testOnly? (macros : MacroSet) : Plan → Option Bool
  | .select _ _ _ => some false
  | .call _ function [arg] =>
    if function = Macro.has.function ∧ macros.contains .has = true ∧
      (arg.testOnly? macros).isSome = true then some true else none
  | _ => none

/-- The plan is a call of `has` that is expanded. -/
def Plan.isFieldTest (macros : MacroSet) (plan : Plan) : Bool := plan.testOnly? macros == some true

mutual

/-- Some expanded call of `has` in the plan has an argument that is an expanded call of `has`
itself. -/
def Plan.retests (macros : MacroSet) : Plan → Bool
  | .literal _ _ => false
  | .ident _ _ => false
  | .select _ operand _ => operand.retests macros
  | .call offset function args =>
    (Plan.call offset function args).isFieldTest macros && args.any (Plan.isFieldTest macros) ||
      Plan.retestsAny macros args
  | .memberCall _ target _ args => target.retests macros || Plan.retestsAny macros args
  | .operatorCall _ _ args => Plan.retestsAny macros args
  | .index _ operand subscript => operand.retests macros || subscript.retests macros
  | .list _ elements => Plan.retestsAny macros elements
  | .struct _ _ entries => PlanEntry.retestsAny macros entries

/-- Some plan of the list has such a call. -/
def Plan.retestsAny (macros : MacroSet) : List Plan → Bool
  | [] => false
  | first :: rest => first.retests macros || Plan.retestsAny macros rest

/-- The planned entry has such a call. -/
def PlanEntry.retests (macros : MacroSet) : PlanEntry → Bool
  | .map _ key value _ => key.retests macros || value.retests macros
  | .field _ _ value _ => value.retests macros

/-- Some planned entry of the list has such a call. -/
def PlanEntry.retestsAny (macros : MacroSet) : List PlanEntry → Bool
  | [] => false
  | first :: rest => first.retests macros || PlanEntry.retestsAny macros rest

end

namespace NodeOperation

/-- Whether a step results in a select, and if so whether in a field test. -/
def testOnly? (options : Options) : NodeOperation Expr Entry → Option Bool
  | .select _ _ => some false
  | .call function args => if Builder.isHasCall options function args then some true else none
  | _ => none

theorem Effect.testOnly? {offset : Offset} {builder after : Builder}
    {operation : NodeOperation Expr Entry} {tree : Expr}
    (effect : operation.Effect offset builder (.ok tree) after) :
    tree.testOnly? = operation.testOnly? builder.options := by
  cases effect with
  | plain unexpanded written =>
    cases operation with
    | literal source =>
      obtain ⟨value, rfl⟩ := literal_of_node written
      rfl
    | call function args =>
      cases written
      have unexpanded : Builder.isHasCall builder.options function args = false := unexpanded
      rw [NodeOperation.testOnly?, unexpanded]
      rfl
    | _ =>
      cases written
      rfl
  | @test id operand field testOnly enabled =>
    have expanded : Builder.isHasCall builder.options Macro.has.function
        [.select id operand field testOnly] = true :=
      isExpansion_test enabled id operand field testOnly
    rw [NodeOperation.testOnly?, expanded]
    rfl
  | fold recognized => exact MacroCall.testOnly?_fold _ _

end NodeOperation

/-- A planned call results in a field test exactly if the call of its arguments does. -/
theorem Plan.testOnly?_call {options : Options} {offset : Offset} {function : String}
    {args : List Plan} {trees : List Expr}
    (kinds : trees.map Expr.testOnly? = args.map (Plan.testOnly? options.macros)) :
    (NodeOperation.call function trees).testOnly? options =
      (Plan.call offset function args).testOnly? options.macros := by
  have lengths : trees.length = args.length := by simpa using congrArg List.length kinds
  match args with
  | [] =>
    rw [NodeOperation.testOnly?, Builder.isHasCall_of_length (by simp [lengths])]
    rfl
  | [arg] =>
    obtain ⟨tree, rfl⟩ := List.length_eq_one_iff.mp lengths
    have kind : tree.testOnly? = arg.testOnly? options.macros := (List.cons.inj kinds).1
    rw [NodeOperation.testOnly?, Plan.testOnly?, ← kind]
    simp only [Builder.isHasCall_singleton_iff]
  | _ :: _ :: _ =>
    rw [NodeOperation.testOnly?, Builder.isHasCall_of_length (by simp [lengths])]
    rfl

/-- A step of a plan tests no test if the plan does not. -/
theorem Plan.isRetest_call {options : Options} {offset : Offset} {function : String}
    {args : List Plan} {trees : List Expr}
    (kinds : trees.map Expr.testOnly? = args.map (Plan.testOnly? options.macros))
    (once : (Plan.call offset function args).retests options.macros = false) :
    (NodeOperation.call function trees).isRetest options = false := by
  obtain ⟨first, -⟩ := Bool.or_eq_false_iff.mp once
  rw [Bool.eq_false_iff]
  intro retest
  have expanded := NodeOperation.isExpansion_of_isRetest retest
  have outer : (Plan.call offset function args).testOnly? options.macros = some true := by
    rw [← Plan.testOnly?_call kinds, NodeOperation.testOnly?]
    exact if_pos expanded
  obtain ⟨-, -, id, operand, field, testOnly, rfl⟩ := Builder.isHasCall_iff.mp expanded
  have again : testOnly = true := (Bool.and_eq_true_iff.mp retest).2
  subst again
  obtain ⟨arg, rfl⟩ : ∃ arg, args = [arg] :=
    List.length_eq_one_iff.mp (by simpa using (congrArg List.length kinds).symm)
  have kind : some true = arg.testOnly? options.macros := (List.cons.inj kinds).1
  rw [Plan.isFieldTest, outer, List.any_cons, Plan.isFieldTest, ← kind] at first
  cases first

/-! ### Forcing -/

/-- A step performed over trees that stand for some parts results in a tree that stands for the node
that is written over these parts, ids apart. -/
theorem perform_stands {base builder after : Builder} (grows : base.Grows builder)
    {offset : Offset} {operation sources : NodeOperation Expr Entry} {tree : Expr}
    (parts : operation.Rel (Stands base builder) (EntryStands base builder) sources)
    (once : operation.isRetest builder.options = false)
    (performed : (operation.perform offset).run.run builder = (.ok tree, after)) :
    ∃ source, base.Grows after ∧ Stands base after tree source ∧
      tree.testOnly? = operation.testOnly? builder.options ∧
      (sources.mapParts Expr.eraseIds Entry.eraseIds).node 0 = .ok source.eraseIds := by
  have effect := operation.perform_effect offset builder
  rw [performed] at effect
  obtain ⟨source, built, grows', stands⟩ := effect.stands grows once parts
  refine ⟨source, grows', stands, effect.testOnly?, ?_⟩
  have written := sources.node_mapIds (fun _ => 0) (builder.lastId + 1)
  rw [built] at written
  exact written

mutual

/-- **The tree that a plan results in stands for the tree that the plan writes.** -/
theorem Plan.force_stands {builder after : Builder} (recording : builder.Recording) {tree : Expr} :
    (plan : Plan) → plan.retests builder.options.macros = false →
      plan.force.run.run builder = (.ok tree, after) →
      ∃ source, builder.Grows after ∧ Stands builder after tree source ∧
        tree.testOnly? = plan.testOnly? builder.options.macros ∧
        plan.written = .ok source.eraseIds
  | .literal offset source => fun _ forced => by
    rw [Plan.force] at forced
    exact perform_stands (.refl recording) .literal rfl forced
  | .ident offset name => fun _ forced => by
    rw [Plan.force] at forced
    exact perform_stands (.refl recording) .ident rfl forced
  | .select offset operand field => fun once forced => by
    rw [Plan.force] at forced
    obtain ⟨part, middle, built, performed⟩ := Attempt.of_run_bind_ok forced
    obtain ⟨source, grows, stands, -, written⟩ := operand.force_stands recording once built
    have result := perform_stands grows (.select stands) rfl performed
    rw [Plan.written, written]
    exact result
  | .call offset function args => fun once forced => by
    rw [Plan.force] at forced
    obtain ⟨parts, middle, built, performed⟩ := Attempt.of_run_bind_ok forced
    -- which arguments are field tests decides whether this call is one, and whether it may be
    obtain ⟨sources, grows, stands, kinds, written⟩ :=
      Plan.forceAll_stands recording args (Bool.or_eq_false_iff.mp once).2 built
    rw [← grows.options] at kinds once ⊢
    have result := perform_stands grows (.call stands) (Plan.isRetest_call kinds once) performed
    rw [Plan.testOnly?_call kinds] at result
    rw [Plan.written, written]
    exact result
  | .memberCall offset target function args => fun once forced => by
    obtain ⟨once, once'⟩ := Bool.or_eq_false_iff.mp once
    rw [Plan.force] at forced
    obtain ⟨part, middle, built, forced⟩ := Attempt.of_run_bind_ok forced
    obtain ⟨parts, last, built', performed⟩ := Attempt.of_run_bind_ok forced
    obtain ⟨source, grows, stands, -, written⟩ := target.force_stands recording once built
    rw [← grows.options] at once'
    obtain ⟨sources, grows', stands', -, written'⟩ :=
      Plan.forceAll_stands grows.recording args once' built'
    have first := stands.later grows.recording grows'
    have others := stands'.imp fun _ _ stands => stands.since grows.lastId
    have result := perform_stands (grows.trans grows') (.memberCall first others) rfl performed
    rw [Plan.written, written, written']
    exact result
  | .operatorCall offset operator args => fun once forced => by
    rw [Plan.force] at forced
    obtain ⟨parts, middle, built, performed⟩ := Attempt.of_run_bind_ok forced
    obtain ⟨sources, grows, stands, -, written⟩ := Plan.forceAll_stands recording args once built
    have result := perform_stands grows (.operatorCall stands) rfl performed
    rw [Plan.written, written]
    exact result
  | .index offset operand subscript => fun once forced => by
    obtain ⟨once, once'⟩ := Bool.or_eq_false_iff.mp once
    rw [Plan.force] at forced
    obtain ⟨part, middle, built, forced⟩ := Attempt.of_run_bind_ok forced
    obtain ⟨part', last, built', performed⟩ := Attempt.of_run_bind_ok forced
    obtain ⟨source, grows, stands, -, written⟩ := operand.force_stands recording once built
    rw [← grows.options] at once'
    obtain ⟨source', grows', stands', -, written'⟩ :=
      subscript.force_stands grows.recording once' built'
    have first := stands.later grows.recording grows'
    have second := stands'.since grows.lastId
    have result := perform_stands (grows.trans grows') (.index first second) rfl performed
    rw [Plan.written, written, written']
    exact result
  | .list offset elements => fun once forced => by
    rw [Plan.force] at forced
    obtain ⟨parts, middle, built, performed⟩ := Attempt.of_run_bind_ok forced
    obtain ⟨sources, grows, stands, -, written⟩ :=
      Plan.forceAll_stands recording elements once built
    have result := perform_stands grows (.list stands) rfl performed
    rw [Plan.written, written]
    exact result
  | .struct offset message entries => fun once forced => by
    rw [Plan.force] at forced
    obtain ⟨parts, middle, built, performed⟩ := Attempt.of_run_bind_ok forced
    obtain ⟨sources, grows, stands, written⟩ :=
      PlanEntry.forceAll_stands recording entries once built
    have result := perform_stands grows (.struct stands) rfl performed
    rw [Plan.written, written]
    exact result

theorem Plan.forceAll_stands {builder after : Builder} (recording : builder.Recording)
    {trees : List Expr} :
    (plans : List Plan) → Plan.retestsAny builder.options.macros plans = false →
      (Plan.forceAll plans).run.run builder = (.ok trees, after) →
      ∃ sources, builder.Grows after ∧ List.Forall₂ (Stands builder after) trees sources ∧
        trees.map Expr.testOnly? = plans.map (Plan.testOnly? builder.options.macros) ∧
        Plan.writtenAll plans = .ok (sources.map Expr.eraseIds)
  | [] => fun _ forced => by
    rw [Plan.forceAll] at forced
    cases forced
    exact ⟨[], .refl recording, .nil, rfl, rfl⟩
  | first :: rest => fun once forced => by
    obtain ⟨once, once'⟩ := Bool.or_eq_false_iff.mp once
    rw [Plan.forceAll] at forced
    obtain ⟨tree, middle, built, forced⟩ := Attempt.of_run_bind_ok forced
    obtain ⟨trees, last, built', forced⟩ := Attempt.of_run_bind_ok forced
    cases forced
    obtain ⟨source, grows, stands, kind, written⟩ := first.force_stands recording once built
    rw [← grows.options] at once'
    obtain ⟨sources, grows', stands', kinds, written'⟩ :=
      Plan.forceAll_stands grows.recording rest once' built'
    rw [grows.options] at kinds
    have here := stands.later grows.recording grows'
    have others := stands'.imp fun _ _ stands => stands.since grows.lastId
    refine ⟨source :: sources, grows.trans grows', .cons here others, ?_, ?_⟩
    · rw [List.map_cons, List.map_cons, kind, kinds]
    · rw [Plan.writtenAll, written, written']
      rfl

theorem PlanEntry.force_stands {builder after : Builder} (recording : builder.Recording)
    {built : Entry} :
    (entry : PlanEntry) → entry.retests builder.options.macros = false →
      entry.force.run.run builder = (.ok built, after) →
      ∃ source, builder.Grows after ∧ EntryStands builder after built source ∧
        entry.written = .ok source.eraseIds
  | .map offset key value optional => fun once forced => by
    obtain ⟨once, once'⟩ := Bool.or_eq_false_iff.mp once
    rw [PlanEntry.force] at forced
    obtain ⟨part, middle, built, forced⟩ := Attempt.of_run_bind_ok forced
    obtain ⟨part', last, built', performed⟩ := Attempt.of_run_bind_ok forced
    obtain ⟨source, grows, stands, -, written⟩ := key.force_stands recording once built
    rw [← grows.options] at once'
    obtain ⟨source', grows', stands', -, written'⟩ :=
      value.force_stands grows.recording once' built'
    cases performed
    have first := stands.later grows.recording grows'
    have second := stands'.since grows.lastId
    have both := grows.trans grows'
    refine ⟨_, both.advance offset, EntryOperation.stands both offset (.map first second), ?_⟩
    rw [PlanEntry.written, written, written']
    rfl
  | .field offset name value optional => fun once forced => by
    rw [PlanEntry.force] at forced
    obtain ⟨part, middle, built, performed⟩ := Attempt.of_run_bind_ok forced
    obtain ⟨source, grows, stands, -, written⟩ := value.force_stands recording once built
    cases performed
    refine ⟨_, grows.advance offset, EntryOperation.stands grows offset (.field stands), ?_⟩
    rw [PlanEntry.written, written]
    rfl

theorem PlanEntry.forceAll_stands {builder after : Builder} (recording : builder.Recording)
    {built : List Entry} :
    (entries : List PlanEntry) → PlanEntry.retestsAny builder.options.macros entries = false →
      (PlanEntry.forceAll entries).run.run builder = (.ok built, after) →
      ∃ sources, builder.Grows after ∧ List.Forall₂ (EntryStands builder after) built sources ∧
        PlanEntry.writtenAll entries = .ok (sources.map Entry.eraseIds)
  | [] => fun _ forced => by
    rw [PlanEntry.forceAll] at forced
    cases forced
    exact ⟨[], .refl recording, .nil, rfl⟩
  | first :: rest => fun once forced => by
    obtain ⟨once, once'⟩ := Bool.or_eq_false_iff.mp once
    rw [PlanEntry.forceAll] at forced
    obtain ⟨entry, middle, built, forced⟩ := Attempt.of_run_bind_ok forced
    obtain ⟨entries, last, built', forced⟩ := Attempt.of_run_bind_ok forced
    cases forced
    obtain ⟨source, grows, stands, written⟩ := first.force_stands recording once built
    rw [← grows.options] at once'
    obtain ⟨sources, grows', stands', written'⟩ :=
      PlanEntry.forceAll_stands grows.recording rest once' built'
    have here := stands.later grows.recording grows'
    have others := stands'.imp fun _ _ stands => stands.since grows.lastId
    refine ⟨source :: sources, grows.trans grows', .cons here others, ?_⟩
    rw [PlanEntry.writtenAll, written, written']
    rfl

end

/-- **Expansions can be undone from the record.** Let a plan in which no field test is given a field
test be forced by a new builder that records calls. Undoing the expansions of its tree ends, on as
many levels as the id of the root says, and finds every record that it needs; up to ids, it results
in the tree to which the plan is forced by a new builder without macros. -/
theorem Plan.unexpand_force (plan : Plan) (macros : MacroSet)
    (once : plan.retests macros = false) {tree : Expr} {after : Builder}
    (forced : plan.force.run.run { options := { recordCalls := true, macros } } =
      (.ok tree, after)) (recordCalls : Bool) :
    ∃ source plain afterPlain,
      (∀ depth : Nat, tree.id ≤ depth →
        unexpandWithin after.info.macroCalls depth tree = some source) ∧
      plan.force.run.run { options := { recordCalls, macros := .none } } =
        (.ok plain, afterPlain) ∧
      source.eraseIds = plain.eraseIds := by
  obtain ⟨source, -, stands, -, written⟩ :=
    plan.force_stands (Builder.recording_fresh rfl) once forced
  obtain ⟨-, outcome⟩ := plan.force_writes { options := { recordCalls, macros := .none } } rfl
  rcases ran : plan.force.run.run { options := { recordCalls, macros := .none } } with
    ⟨error | plain, afterPlain⟩
  · rw [ran] at outcome
    have refused : plan.written = .error error.reason := outcome
    rw [written] at refused
    cases refused
  · rw [ran] at outcome
    have same : plan.written = .ok plain.eraseIds := outcome
    rw [written] at same
    refine ⟨source, plain, afterPlain, ?_, rfl, Except.ok.inj same⟩
    exact stands.restored after.info.macroCalls fun _ _ found => found

/-- `l.map(x, m.exists(y, has(y.f)))`, with three macros that are expanded, one in another. -/
def Plan.nestedMacros : Plan :=
  .memberCall 1 (.ident 0 "l") Macro.map.function
    [.ident 6 "x", .memberCall 10 (.ident 9 "m") Macro.existsAny.function
      [.ident 18 "y", .call 21 Macro.has.function [.select 26 (.ident 25 "y") "f"]]]

theorem Plan.unexpand_force_nestedMacros :
    Plan.nestedMacros.retests .all = false ∧
      ∃ tree after,
        Plan.nestedMacros.force.run.run { options := { recordCalls := true, macros := .all } } =
          (.ok tree, after) ∧
        tree.id = 24 ∧ after.info.macroCalls.keys = [6, 16, 24] ∧
        ∃ source plain afterPlain,
          (∀ depth : Nat, tree.id ≤ depth →
            unexpandWithin after.info.macroCalls depth tree = some source) ∧
          Plan.nestedMacros.force.run.run { options := { recordCalls := true, macros := .none } } =
            (.ok plain, afterPlain) ∧
          source.eraseIds = plain.eraseIds :=
  ⟨rfl, _, _, rfl, rfl, rfl, Plan.unexpand_force Plan.nestedMacros .all rfl rfl true⟩

end CelTree
