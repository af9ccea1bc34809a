/-
**Sessions.**

A session runs steps on one builder. Each step has a register of its own, and later steps refer to
earlier results by register number. While a session plans, steps make plans, and a plan leaves its
register when it is used; afterwards steps build, and results stay where they are.

* `Item`, `Session`: what registers hold, and the state of a session.
* `Step`, `Answer`: a step and what is said about its result.
-/

import CelTree.Builder.Traverse
import CelTree.Plan.Force

namespace CelTree

/-- What a register may hold. -/
inductive Item
  | node (tree : Expr)
  | entry (entry : Entry)
  | plan (plan : Plan)
  | planEntry (plan : PlanEntry)

/-- The state of a session. -/
structure Session where
  builder : Builder := {}
  /-- Steps make plans. -/
  planning : Bool := false
  /-- The registers, one for each step so far; a step without a result leaves its own empty. -/
  registers : List (Option Item) := []

/-- A question about a session. -/
inductive Query
  | node (register : Nat)
  | entry (register : Nat)
  | equal (first second : Nat)
  | planOffset (register : Nat)
  | position (id : Int)
  | macroCall (id : Int)
  | isHasCall (function : String) (args : List Nat)
  | options

/-- A step of a session. -/
inductive Step
  | node (offset : Offset) (operation : NodeOperation Nat Nat)
  | entry (offset : Offset) (operation : EntryOperation Nat)
  /-- A literal node of a known constant. -/
  | constant (offset : Offset) (value : Constant)
  /-- The expansion of a field test, whatever the options say. -/
  | expandHas (offset : Offset) (args : List Nat)
  /-- The expansion of a call that is already built. -/
  | maybeExpand (offset : Offset) (call : Nat)
  | force (plan : Nat)
  | endPlanning
  | ask (query : Query)

/-- What is said about a step. -/
inductive Answer
  | node (id : Int) (kind : String)
  | entry (id : Int) (optional : Bool)
  | plan (offset : Offset)
  | planEntry
  | refused (error : BuildError)
  /-- A register does not hold what the step needs. -/
  | badReference
  | planningEnded
  | tree (tree : Expr)
  | entryTree (entry : Entry)
  | truth (value : Bool)
  | planOffset (offset : Offset)
  | position (offset : Option Offset)
  | macroCall (call : Option Expr)
  | options (options : Options)
  /-- The step belongs to the other phase of a session. -/
  | unavailable

end CelTree
