/-
**Free names.**

* `Expr.freeNames`, `Entry.freeNames`: the names that are free in an expression.
* **`Expr.eval_congr`** — the value of an expression depends on its free names only, so it ignores
  every other name (`Expr.ignores_of_not_mem_freeNames`).
-/

import CelTree.Proofs.Evaluation.Basic

namespace CelTree

mutual

/-- The names that are free in an expression. The range and the initial value of a fold are outside
the scope of its variables. The iteration variable is bound in the condition and in the step, and
the accumulator in these and in the result. -/
def Expr.freeNames : Expr → List String
  | .literal _ _ => []
  | .ident _ name => [name]
  | .select _ operand _ _ => operand.freeNames
  | .call _ _ args => Expr.freeNamesAll args
  | .memberCall _ target _ args => target.freeNames ++ Expr.freeNamesAll args
  | .list _ elements => Expr.freeNamesAll elements
  | .struct _ _ entries => Entry.freeNamesAll entries
  | .comprehension _ iterVar _ range accuVar init condition step result =>
    range.freeNames ++ init.freeNames ++
      ((condition.freeNames ++ step.freeNames).filter (· ≠ iterVar) ++ result.freeNames).filter
        (· ≠ accuVar)

/-- The names that are free in one of several expressions. -/
def Expr.freeNamesAll : List Expr → List String
  | [] => []
  | first :: rest => first.freeNames ++ Expr.freeNamesAll rest

/-- The names that are free in the key or in the value of an entry. -/
def Entry.freeNames : Entry → List String
  | .map _ key value _ => key.freeNames ++ value.freeNames
  | .field _ _ value _ => value.freeNames

/-- The names that are free in one of several entries. -/
def Entry.freeNamesAll : List Entry → List String
  | [] => []
  | first :: rest => first.freeNames ++ Entry.freeNamesAll rest

end

/-- A name is free in a fold if it is free in the range or in the initial value, or in another part
that does not bind it. -/
theorem Expr.mem_freeNames_comprehension {name : String} (id : Int) (iterVar iterVar2 : String)
    (range : Expr) (accuVar : String) (init condition step result : Expr) :
    name ∈ (Expr.comprehension id iterVar iterVar2 range accuVar init condition step
        result).freeNames ↔
      (name ∈ range.freeNames ∨ name ∈ init.freeNames) ∨
        ((name ∈ condition.freeNames ∨ name ∈ step.freeNames) ∧ name ≠ iterVar ∨
          name ∈ result.freeNames) ∧ name ≠ accuVar := by
  simp only [Expr.freeNames, List.mem_append, List.mem_filter, decide_eq_true_eq]

/-! ### Values -/

variable {α : Type} {meaning : Meaning α} {env env' : Env α}

/-- Environments with the same values of some names. -/
def Env.AgreeOn (env env' : Env α) (names : List String) : Prop :=
  ∀ name ∈ names, env name = env' name

namespace Env

variable {names names' : List String}

theorem AgreeOn.left (agree : env.AgreeOn env' (names ++ names')) : env.AgreeOn env' names :=
  fun name member => agree name (List.mem_append_left _ member)

theorem AgreeOn.right (agree : env.AgreeOn env' (names ++ names')) : env.AgreeOn env' names' :=
  fun name member => agree name (List.mem_append_right _ member)

/-- Environments that agree on all names but one agree on that as well once it is bound. -/
theorem AgreeOn.bind {bound : String} (agree : env.AgreeOn env' (names.filter (· ≠ bound)))
    (value : Value α) : (env.bind bound value).AgreeOn (env'.bind bound value) names := by
  intro name member
  by_cases same : name = bound
  · rw [same, bind_self, bind_self]
  · rw [bind_of_ne _ _ _ same, bind_of_ne _ _ _ same]
    exact agree name (List.mem_filter.mpr ⟨member, decide_eq_true same⟩)

end Env

mutual

/-- **The value of an expression depends on its free names only.** -/
theorem Expr.eval_congr : (tree : Expr) → {env env' : Env α} →
    env.AgreeOn env' tree.freeNames → tree.eval meaning env = tree.eval meaning env'
  | .literal _ _, _, _, _ => rfl
  | .ident _ name, _, _, agree => agree name List.mem_cons_self
  | .select _ operand _ _, _, _, agree => by
    rw [Expr.eval, Expr.eval, operand.eval_congr agree]
  | .call _ _ args, _, _, agree => by
    rw [Expr.eval, Expr.eval, Expr.evalAll_congr args agree]
  | .memberCall _ target _ args, _, _, agree => by
    rw [Expr.eval, Expr.eval, target.eval_congr agree.left, Expr.evalAll_congr args agree.right]
  | .list _ elements, _, _, agree => by
    rw [Expr.eval, Expr.eval, Expr.evalAll_congr elements agree]
  | .struct _ _ entries, _, _, agree => by
    rw [Expr.eval, Expr.eval, Entry.evalAll_congr entries agree]
  | .comprehension _ iterVar _ range accuVar init condition step result, env, env', agree => by
    -- within the scopes, the environments agree on the names bound there as well
    have inside (accu : Value α) : (env.bind accuVar accu).AgreeOn (env'.bind accuVar accu)
        ((condition.freeNames ++ step.freeNames).filter (· ≠ iterVar) ++ result.freeNames) :=
      agree.right.bind accu
    have within (accu element : Value α) :
        ((env.bind accuVar accu).bind iterVar element).AgreeOn
          ((env'.bind accuVar accu).bind iterVar element)
          (condition.freeNames ++ step.freeNames) :=
      (inside accu).left.bind element
    have conditions (accu element : Value α) := condition.eval_congr (within accu element).left
    have steps (accu element : Value α) := step.eval_congr (within accu element).right
    have results (accu : Value α) := result.eval_congr (inside accu).right
    simp only [Expr.eval, range.eval_congr agree.left.left, init.eval_congr agree.left.right,
      conditions, steps, results]

theorem Expr.evalAll_congr : (trees : List Expr) → {env env' : Env α} →
    env.AgreeOn env' (Expr.freeNamesAll trees) →
      Expr.evalAll meaning trees env = Expr.evalAll meaning trees env'
  | [], _, _, _ => rfl
  | first :: rest, _, _, agree => by
    rw [Expr.evalAll, Expr.evalAll, first.eval_congr agree.left,
      Expr.evalAll_congr rest agree.right]

theorem Entry.eval_congr : (entry : Entry) → {env env' : Env α} →
    env.AgreeOn env' entry.freeNames → entry.eval meaning env = entry.eval meaning env'
  | .map _ key value _, _, _, agree => by
    rw [Entry.eval, Entry.eval, key.eval_congr agree.left, value.eval_congr agree.right]
  | .field _ _ value _, _, _, agree => by
    rw [Entry.eval, Entry.eval, value.eval_congr agree]

theorem Entry.evalAll_congr : (entries : List Entry) → {env env' : Env α} →
    env.AgreeOn env' (Entry.freeNamesAll entries) →
      Entry.evalAll meaning entries env = Entry.evalAll meaning entries env'
  | [], _, _, _ => rfl
  | first :: rest, _, _, agree => by
    rw [Entry.evalAll, Entry.evalAll, first.eval_congr agree.left,
      Entry.evalAll_congr rest agree.right]

end

/-- An expression in which a name is not free does not depend on it. -/
theorem Expr.ignores_of_not_mem_freeNames {tree : Expr} {name : String}
    (closed : name ∉ tree.freeNames) : tree.Ignores meaning name := by
  intro env value
  refine tree.eval_congr fun other member => ?_
  exact Env.bind_of_ne _ _ _ fun same => closed (same ▸ member)

end CelTree
