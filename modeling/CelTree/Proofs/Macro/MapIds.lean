/-
**Expansions and ids.**

No id decides whether a call is expanded, and a fold over parts with other ids is the same fold with
other ids, as long as these follow one another from its base.

* `MacroBody.mapIds`, `MacroCall.mapIds`: a recognised call with every id replaced.
* `isHasCall_mapIds`, `recognize_mapIds`: so the same calls are expanded.
* **`fold_mapIds`** — the fold of a call with replaced ids.
* `Expr.mapIds_mapIds`: one replacement after the other.
-/

import CelTree.Proofs.Expr.MapIds

namespace CelTree

/-! ### One replacement after the other -/

mutual

theorem Expr.mapIds_mapIds (f g : Int → Int) :
    (tree : Expr) → (tree.mapIds f).mapIds g = tree.mapIds fun id => g (f id)
  | .literal _ _ => rfl
  | .ident _ _ => rfl
  | .select _ operand _ _ => by
    simp only [Expr.mapIds, operand.mapIds_mapIds f g]
  | .call _ _ args => by
    simp only [Expr.mapIds, Expr.mapIdsAll_mapIdsAll f g args]
  | .memberCall _ target _ args => by
    simp only [Expr.mapIds, target.mapIds_mapIds f g, Expr.mapIdsAll_mapIdsAll f g args]
  | .list _ elements => by
    simp only [Expr.mapIds, Expr.mapIdsAll_mapIdsAll f g elements]
  | .struct _ _ entries => by
    simp only [Expr.mapIds, Entry.mapIdsAll_mapIdsAll f g entries]
  | .comprehension _ _ _ range _ init condition step result => by
    simp only [Expr.mapIds, range.mapIds_mapIds f g, init.mapIds_mapIds f g,
      condition.mapIds_mapIds f g, step.mapIds_mapIds f g, result.mapIds_mapIds f g]

theorem Expr.mapIdsAll_mapIdsAll (f g : Int → Int) : (trees : List Expr) →
    Expr.mapIdsAll g (Expr.mapIdsAll f trees) = Expr.mapIdsAll (fun id => g (f id)) trees
  | [] => rfl
  | first :: rest => by
    simp only [Expr.mapIdsAll, first.mapIds_mapIds f g, Expr.mapIdsAll_mapIdsAll f g rest]

theorem Entry.mapIds_mapIds (f g : Int → Int) :
    (entry : Entry) → (entry.mapIds f).mapIds g = entry.mapIds fun id => g (f id)
  | .map _ key value _ => by
    simp only [Entry.mapIds, key.mapIds_mapIds f g, value.mapIds_mapIds f g]
  | .field _ _ value _ => by
    simp only [Entry.mapIds, value.mapIds_mapIds f g]

theorem Entry.mapIdsAll_mapIdsAll (f g : Int → Int) : (entries : List Entry) →
    Entry.mapIdsAll g (Entry.mapIdsAll f entries) = Entry.mapIdsAll (fun id => g (f id)) entries
  | [] => rfl
  | first :: rest => by
    simp only [Entry.mapIdsAll, first.mapIds_mapIds f g, Entry.mapIdsAll_mapIdsAll f g rest]

end

/-! ### Field tests -/

theorem Expr.isSelect_mapIds (f : Int → Int) (tree : Expr) :
    (tree.mapIds f).isSelect = tree.isSelect := by
  cases tree <;> rfl

/-- No id decides whether a global call is a field test. -/
theorem Builder.isHasCall_mapIds (options : Options) (function : String) (f : Int → Int)
    (args : List Expr) :
    isHasCall options function (args.map (Expr.mapIds f)) = isHasCall options function args := by
  rcases args with _ | ⟨arg, _ | ⟨second, rest⟩⟩
  · rfl
  · simp only [isHasCall, List.map_cons, List.map_nil, List.length_singleton,
      Expr.isSelect_mapIds]
  · rw [isHasCall_of_length (by simp), isHasCall_of_length (by simp)]

/-! ### Fold macros -/

/-- The body of a macro with every id replaced. -/
def MacroBody.mapIds (f : Int → Int) : MacroBody → MacroBody
  | .existsAny test => .existsAny (test.mapIds f)
  | .all test => .all (test.mapIds f)
  | .existsOne test => .existsOne (test.mapIds f)
  | .filter test => .filter (test.mapIds f)
  | .map transform => .map (transform.mapIds f)
  | .mapWhere test transform => .mapWhere (test.mapIds f) (transform.mapIds f)

namespace MacroCall

/-- The call with every id replaced. -/
def mapIds (f : Int → Int) (call : MacroCall) : MacroCall :=
  ⟨call.range.mapIds f, call.iterVar, call.body.mapIds f⟩

/-- The body of a macro does not depend on ids. -/
theorem bodyOf_mapIds (m : Macro) (f : Int → Int) (args : List Expr) :
    bodyOf m (args.map (Expr.mapIds f)) = (bodyOf m args).map (MacroBody.mapIds f) := by
  rcases args with _ | ⟨first, _ | ⟨second, _ | ⟨third, rest⟩⟩⟩ <;> cases m <;> rfl

/-- No id decides whether a member call is a macro. -/
theorem recognize_mapIds (options : Options) (f : Int → Int) (call : Expr) :
    recognize options (call.mapIds f) = (recognize options call).map (mapIds f) := by
  cases call with
  | memberCall id target function args =>
    simp only [recognize, Expr.mapIds, Expr.mapIdsAll_eq, List.length_map]
    cases Macro.lookup function args.length true with
    | none => rfl
    | some m =>
      by_cases enabled : options.macros.contains m = true
      · simp only [if_pos enabled]
        cases args with
        | nil => rfl
        | cons variableName rest =>
          cases variableName with
          | ident variableId iterVar =>
            simp only [List.map_cons, Expr.mapIds, bodyOf_mapIds, Option.map_map]
            rfl
          | _ => rfl
      · simp only [if_neg enabled, Option.map_none]
  | _ => rfl

@[simp] theorem size_mapIds (f : Int → Int) (call : MacroCall) :
    (call.mapIds f).size = call.size := by
  obtain ⟨range, iterVar, body⟩ := call
  cases body <;> rfl

/-- **The fold of a call with replaced ids is the fold with replaced ids**, if the ids that follow
its base are replaced by those that follow the new base. -/
theorem fold_mapIds {f : Int → Int} {base : Int}
    (follows : ∀ count : Int, f (base + count) = f base + count) (call : MacroCall) :
    (call.mapIds f).fold (f base) = (call.fold base).mapIds f := by
  obtain ⟨range, iterVar, body⟩ := call
  cases body <;>
    simp only [mapIds, MacroBody.mapIds, fold, overRange, accu, Expr.mapIds, Expr.mapIdsAll,
      follows]

end MacroCall

/-! ### Steps -/

/-- No id decides whether a step is an expansion. -/
theorem NodeOperation.isExpansion_mapIds (options : Options) (f : Int → Int)
    (operation : NodeOperation Expr Entry) :
    (operation.mapParts (Expr.mapIds f) (Entry.mapIds f)).isExpansion options =
      operation.isExpansion options := by
  cases operation with
  | call function args => exact Builder.isHasCall_mapIds options function f args
  | memberCall target function args =>
    have same := MacroCall.recognize_mapIds options f (.memberCall 0 target function args)
    rw [Expr.mapIds, Expr.mapIdsAll_eq, MacroCall.recognize_id _ _ 0] at same
    rw [mapParts, isExpansion, isExpansion, same, Option.isSome_map]
  | _ => rfl

end CelTree
