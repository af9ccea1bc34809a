/-
**Macros.**

Six calls are macros. `has` is a global call with one argument; the others are member calls with
two arguments, of which `map` also takes three.

* `Macro.function`, `Macro.ofFunction`: names; `exists_one` has a second spelling.
* `Macro.lookup`: the macro of a call's name, number of arguments and style.
-/

namespace CelTree

/-- The macros of the language. -/
inductive Macro
  | has
  | all
  | existsAny
  | existsOne
  | map
  | filter
deriving DecidableEq, Repr

namespace Macro

/-- Every macro, in the order in which sets list them. -/
def everyMacro : List Macro := [.has, .all, .existsAny, .existsOne, .map, .filter]

/-- The function name of a macro. -/
def function : Macro → String
  | .has => "has"
  | .all => "all"
  | .existsAny => "exists"
  | .existsOne => "exists_one"
  | .map => "map"
  | .filter => "filter"

/-- A macro written as a member call. -/
def isMember : Macro → Bool
  | .has => false
  | _ => true

/-- A macro may have this many arguments. -/
def acceptsArity : Macro → Nat → Bool
  | .has, arity => arity == 1
  | .map, arity => arity == 2 || arity == 3
  | _, arity => arity == 2

/-- The macro with a function name, in either spelling of `exists_one`. -/
def ofFunction (name : String) : Option Macro :=
  if name = "has" then some .has
  else if name = "all" then some .all
  else if name = "exists" then some .existsAny
  else if name = "exists_one" ∨ name = "existsOne" then some .existsOne
  else if name = "map" then some .map
  else if name = "filter" then some .filter
  else none

/-- The macro of a call by its name, its number of arguments and its style. -/
def lookup (name : String) (arity : Nat) (member : Bool) : Option Macro :=
  (ofFunction name).filter fun found => found.isMember == member && found.acceptsArity arity

theorem mem_everyMacro (m : Macro) : m ∈ everyMacro := by cases m <;> decide

theorem ofFunction_function (m : Macro) : ofFunction m.function = some m := by
  cases m <;> decide

end Macro

end CelTree
