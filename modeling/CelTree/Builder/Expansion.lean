/-
**Macro expansion.**

A recognised call is put in terms of the primitives. `has` marks its select; every other macro
becomes a fold whose accumulator is `accumulatorName`. All new nodes stand at the offset of the
call.

* `isHasCall`, `MacroCall.recognize`: which calls are expanded.
* `expandHas`, `MacroCall.expand`, `maybeExpand`: what becomes of them, and the record of the call
  as it was written.
* `call`: a global call, where a field test is expanded. The calls of the folds are made through it
  too.
-/

import CelTree.Builder.Basic

namespace CelTree

/-- The accumulator variable of every expansion. -/
def accumulatorName : String := "__result__"

namespace Builder

/-! ### The field test -/

/-- A global call is the field test `has(operand.field)` and the options expand it. -/
def isHasCall (options : Options) (function : String) (args : List Expr) : Bool :=
  Macro.lookup function args.length false == some .has && options.macros.contains .has &&
    match args with
    | [arg] => arg.isSelect
    | _ => false

/-- Turns the select of a field test into a test. The call takes an id but is not part of the
tree; it is recorded under the id of the select. Arguments of another shape stay a call. -/
def expandHas (offset : Offset) (args : List Expr) : Build Expr := do
  match args with
  | [.select id operand field testOnly] =>
    let callId ← allocate offset
    recordCall id (.call callId Macro.has.function [.select id operand field testOnly])
    return .select id operand field true
  | args => globalCall offset Macro.has.function args

/-- A global call; a field test is expanded. -/
def call (offset : Offset) (function : String) (args : List Expr) : Build Expr := do
  if isHasCall (← get).options function args then expandHas offset args
  else globalCall offset function args

end Builder

/-! ### The fold macros -/

/-- What a fold macro does with each element. -/
inductive MacroBody
  | existsAny (test : Expr)
  | all (test : Expr)
  | existsOne (test : Expr)
  | filter (test : Expr)
  | map (transform : Expr)
  | mapWhere (test transform : Expr)

/-- A recognised call of a fold macro. -/
structure MacroCall where
  range : Expr
  iterVar : String
  body : MacroBody

namespace MacroCall

/-- The body of a macro from its arguments after the iteration variable. -/
def bodyOf : Macro → List Expr → Option MacroBody
  | .existsAny, [test] => some (.existsAny test)
  | .all, [test] => some (.all test)
  | .existsOne, [test] => some (.existsOne test)
  | .filter, [test] => some (.filter test)
  | .map, [transform] => some (.map transform)
  | .map, [test, transform] => some (.mapWhere test transform)
  | _, _ => none

/-- A member call with the name and the number of arguments of a macro in the set, and with an
identifier for its first argument, is a call of that macro. -/
def recognize (options : Options) : Expr → Option MacroCall
  | .memberCall _ target function args =>
    match Macro.lookup function args.length true with
    | some found =>
      if options.macros.contains found then
        match args with
        | .ident _ iterVar :: rest => (bodyOf found rest).map fun body => ⟨target, iterVar, body⟩
        | _ => none
      else none
    | none => none
  | _ => none

open Builder

/-- A read of the accumulator. -/
def accumulator (offset : Offset) : Build Expr := ident offset accumulatorName

/-- The accumulator with one more element. -/
def append (offset : Offset) (element : Build Expr) : Build Expr := do
  let accu ← accumulator offset
  let wrapped ← list offset [← element]
  Builder.call offset "_+_" [accu, wrapped]

/-- A step that is taken where the test holds and keeps the accumulator elsewhere. -/
def stepWhere (offset : Offset) (test taken : Expr) : Build Expr := do
  let otherwise ← accumulator offset
  Builder.call offset "_?_:_" [test, taken, otherwise]

/-- A fold that starts from a boolean and results in its accumulator. -/
def boolFold (offset : Offset) (call : MacroCall) (start : Bool) (condition step : Expr) :
    Build Expr := do
  let init ← literal offset (.bool start)
  let result ← accumulator offset
  comprehension offset call.iterVar call.range accumulatorName init condition step result

/-- A fold over the whole range that starts from the empty list and results in its accumulator. -/
def listFold (offset : Offset) (call : MacroCall) (step : Expr) : Build Expr := do
  let init ← list offset []
  let condition ← literal offset (.bool true)
  let result ← accumulator offset
  comprehension offset call.iterVar call.range accumulatorName init condition step result

/-- Some element satisfies the test; the fold stops at the first one that does. -/
def expandExistsAny (offset : Offset) (call : MacroCall) (test : Expr) : Build Expr := do
  let accu ← accumulator offset
  let step ← Builder.call offset "_||_" [accu, test]
  let accu ← accumulator offset
  let negated ← Builder.call offset "!_" [accu]
  let condition ← Builder.call offset "@not_strictly_false" [negated]
  boolFold offset call false condition step

/-- Every element satisfies the test; the fold stops at the first one that does not. -/
def expandAll (offset : Offset) (call : MacroCall) (test : Expr) : Build Expr := do
  let accu ← accumulator offset
  let step ← Builder.call offset "_&&_" [accu, test]
  let accu ← accumulator offset
  let condition ← Builder.call offset "@not_strictly_false" [accu]
  boolFold offset call true condition step

/-- Exactly one element satisfies the test; the accumulator counts those that do. -/
def expandExistsOne (offset : Offset) (call : MacroCall) (test : Expr) : Build Expr := do
  let init ← literal offset (.int64 0)
  let condition ← literal offset (.bool true)
  let accu ← accumulator offset
  let one ← literal offset (.int64 1)
  let incremented ← Builder.call offset "_+_" [accu, one]
  let step ← stepWhere offset test incremented
  let accu ← accumulator offset
  let one ← literal offset (.int64 1)
  let result ← Builder.call offset "_==_" [accu, one]
  comprehension offset call.iterVar call.range accumulatorName init condition step result

/-- The elements that satisfy the test. -/
def expandFilter (offset : Offset) (call : MacroCall) (test : Expr) : Build Expr := do
  let appended ← append offset (ident offset call.iterVar)
  let step ← stepWhere offset test appended
  listFold offset call step

/-- The transforms of all elements. -/
def expandMap (offset : Offset) (call : MacroCall) (transform : Expr) : Build Expr := do
  let step ← append offset (pure transform)
  listFold offset call step

/-- The transforms of the elements that satisfy the test. -/
def expandMapWhere (offset : Offset) (call : MacroCall) (test transform : Expr) : Build Expr := do
  let appended ← append offset (pure transform)
  let step ← stepWhere offset test appended
  listFold offset call step

/-- The fold that a macro call stands for. -/
def expand (offset : Offset) (call : MacroCall) : Build Expr :=
  match call.body with
  | .existsAny test => expandExistsAny offset call test
  | .all test => expandAll offset call test
  | .existsOne test => expandExistsOne offset call test
  | .filter test => expandFilter offset call test
  | .map transform => expandMap offset call transform
  | .mapWhere test transform => expandMapWhere offset call test transform

end MacroCall

namespace Builder

/-- Expands a call that is recognised as a macro, and records it under the id of the fold.
Anything else stays as it is. -/
def maybeExpand (offset : Offset) (call : Expr) : Build Expr := do
  match MacroCall.recognize (← get).options call with
  | some found =>
    let expanded ← found.expand offset
    recordCall expanded.id call
    return expanded
  | none => return call

end Builder

end CelTree
