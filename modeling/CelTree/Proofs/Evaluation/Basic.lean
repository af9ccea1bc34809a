/-
**What expressions mean.**

An expression has a value in an environment, or none if its evaluation fails. Variables and folds
are read here; everything else is left to a `Meaning`, of which `Meaning.Standard` asks no more than
the operators and constants that the expansions of macros are built from.

* `Value`, `Env`, `Meaning`: values, the values of variables, and the meaning of everything else.
* `Expr.eval`: the value of an expression. A fold runs over the elements of its range, with
  `iterate` for its loop.
* `Meaning.Standard`: constants and operators mean what they usually do.
* `Expr.Ignores`: the value of an expression does not depend on a variable.
-/

import CelTree.Proofs.Macro.Fold
import Mathlib.Logic.Function.Basic

namespace CelTree

/-- A value. What no fold looks at is left to a type of its own. -/
inductive Value (α : Type)
  | bool (value : Bool)
  | int (value : Int)
  | list (elements : List (Value α))
  | other (value : α)

/-- The elements of a list; other values have none. -/
def Value.elements? {α : Type} : Value α → Option (List (Value α))
  | .list elements => some elements
  | _ => none

/-- The values of variables; a variable that is not bound has none. -/
def Env (α : Type) := String → Option (Value α)

variable {α : Type}

/-- The environment with one variable bound to a value. -/
def Env.bind (env : Env α) (name : String) (value : Value α) : Env α :=
  Function.update env name (some value)

/-- What expressions mean apart from variables, lists and folds. The parts are given by their
values, so that an operator may have a value even where a part has none. -/
structure Meaning (α : Type) where
  constant : Constant → Option (Value α)
  select : Option (Value α) → String → Bool → Option (Value α)
  call : String → List (Option (Value α)) → Option (Value α)
  memberCall : Option (Value α) → String → List (Option (Value α)) → Option (Value α)
  struct : String → List (EntryOperation (Option (Value α))) → Option (Value α)

/-- The loop of a fold: the accumulator takes the value of the step for one element after the other,
and stays as it is from the first element on at which the condition is false. -/
def iterate (condition step : Value α → Value α → Option (Value α)) :
    List (Value α) → Value α → Option (Value α)
  | [], accu => some accu
  | first :: rest, accu =>
    match condition accu first with
    | some (.bool true) => (step accu first).bind (iterate condition step rest)
    | some (.bool false) => some accu
    | _ => none

mutual

/-- The value of an expression. The range and the initial value of a fold are outside the scope of
its variables, its condition and its step are in the scope of both, and its result is in the scope
of the accumulator. -/
def Expr.eval (meaning : Meaning α) : Expr → Env α → Option (Value α)
  | .literal _ value, _ => meaning.constant value
  | .ident _ name, env => env name
  | .select _ operand field testOnly, env =>
    meaning.select (operand.eval meaning env) field testOnly
  | .call _ function args, env => meaning.call function (Expr.evalAll meaning args env)
  | .memberCall _ target function args, env =>
    meaning.memberCall (target.eval meaning env) function (Expr.evalAll meaning args env)
  | .list _ elements, env => ((Expr.evalAll meaning elements env).mapM id).map .list
  | .struct _ message entries, env => meaning.struct message (Entry.evalAll meaning entries env)
  | .comprehension _ iterVar _ range accuVar init condition step result, env => do
    let elements ← (← range.eval meaning env).elements?
    let start ← init.eval meaning env
    let last ← iterate
      (fun accu element => condition.eval meaning ((env.bind accuVar accu).bind iterVar element))
      (fun accu element => step.eval meaning ((env.bind accuVar accu).bind iterVar element))
      elements start
    result.eval meaning (env.bind accuVar last)

/-- The values of several expressions. -/
def Expr.evalAll (meaning : Meaning α) : List Expr → Env α → List (Option (Value α))
  | [], _ => []
  | first :: rest, env => first.eval meaning env :: Expr.evalAll meaning rest env

/-- An entry with the values of its parts. -/
def Entry.eval (meaning : Meaning α) : Entry → Env α → EntryOperation (Option (Value α))
  | .map _ key value optional, env =>
    .map (key.eval meaning env) (value.eval meaning env) optional
  | .field _ name value optional, env => .field name (value.eval meaning env) optional

/-- Several entries with the values of their parts. -/
def Entry.evalAll (meaning : Meaning α) :
    List Entry → Env α → List (EntryOperation (Option (Value α)))
  | [], _ => []
  | first :: rest, env => first.eval meaning env :: Entry.evalAll meaning rest env

end

example (meaning : Meaning α) (env : Env α) :
    (Expr.list 1 []).eval meaning env = some (.list []) := by
  cbv

/-- Booleans, integers and the operators of the expansions have their usual meaning. Integers are
unbounded, and a conditional needs a value of the branch that it takes only. -/
structure Meaning.Standard (meaning : Meaning α) : Prop where
  bool : ∀ value, meaning.constant (.bool value) = some (.bool value)
  int : ∀ value, meaning.constant (.int64 value) = some (.int value.toInt)
  or : ∀ first second, meaning.call "_||_" [some (.bool first), some (.bool second)] =
    some (.bool (first || second))
  and : ∀ first second, meaning.call "_&&_" [some (.bool first), some (.bool second)] =
    some (.bool (first && second))
  not : ∀ value, meaning.call "!_" [some (.bool value)] = some (.bool !value)
  notStrictlyFalse : ∀ value, meaning.call "@not_strictly_false" [some (.bool value)] =
    some (.bool value)
  conditional : ∀ test first second, meaning.call "_?_:_" [some (.bool test), first, second] =
    if test then first else second
  equal : ∀ first second, meaning.call "_==_" [some (.int first), some (.int second)] =
    some (.bool (decide (first = second)))
  addInt : ∀ first second, meaning.call "_+_" [some (.int first), some (.int second)] =
    some (.int (first + second))
  addList : ∀ first second, meaning.call "_+_" [some (.list first), some (.list second)] =
    some (.list (first ++ second))

/-- The value of an expression does not depend on a variable. -/
def Expr.Ignores (meaning : Meaning α) (name : String) (tree : Expr) : Prop :=
  ∀ env value, tree.eval meaning (Env.bind env name value) = tree.eval meaning env

namespace Env

variable (env : Env α) (name : String) (value : Value α)

@[simp] theorem bind_self : env.bind name value name = some value := Function.update_self ..

theorem bind_of_ne {other : String} (different : other ≠ name) :
    env.bind name value other = env other := Function.update_of_ne different ..

theorem bind_comm {other : String} (different : other ≠ name) (value' : Value α) :
    (env.bind other value').bind name value = (env.bind name value).bind other value' :=
  Function.update_comm different ..

end Env

end CelTree
