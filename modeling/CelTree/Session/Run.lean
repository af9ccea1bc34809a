/-
**Running a session.**

* `Session.step`: one step, its answer and the session after it.
* `Session.run`: several steps in order.
-/

import CelTree.Expr.Equality
import CelTree.Session.Basic

namespace CelTree

namespace Session

/-! ### Registers -/

/-- What a register holds. -/
def itemAt (session : Session) (register : Nat) : Option Item :=
  session.registers[register]?.join

/-- The node in a register. -/
def nodeAt (session : Session) (register : Nat) : Option Expr :=
  match session.itemAt register with
  | some (.node tree) => some tree
  | _ => none

/-- The entry in a register. -/
def entryAt (session : Session) (register : Nat) : Option Entry :=
  match session.itemAt register with
  | some (.entry entry) => some entry
  | _ => none

/-- The plan in a register. -/
def planAt (session : Session) (register : Nat) : Option Plan :=
  match session.itemAt register with
  | some (.plan plan) => some plan
  | _ => none

/-- The planned entry in a register. -/
def planEntryAt (session : Session) (register : Nat) : Option PlanEntry :=
  match session.itemAt register with
  | some (.planEntry plan) => some plan
  | _ => none

/-- The session with one more register. -/
def push (session : Session) (item : Option Item) : Session :=
  { session with registers := session.registers ++ [item] }

/-- The session with some registers emptied. -/
def consume (session : Session) (registers : List Nat) : Session :=
  { session with
    registers := registers.foldl (fun held register => held.set register none) session.registers }

/-- A step that is not carried out. -/
def reject (session : Session) (answer : Answer) : Answer × Session := (answer, session.push none)

/-! ### Steps that build -/

/-- Runs a construction of a node. -/
def buildNode (session : Session) (construction : Attempt Expr) : Answer × Session :=
  match construction.run.run session.builder with
  | (.ok tree, builder) =>
    (.node tree.id tree.kind, { session with builder }.push (some (.node tree)))
  | (.error error, builder) => (.refused error, { session with builder }.push none)

/-- Runs a construction of an entry. -/
def buildEntry (session : Session) (construction : Build Entry) : Answer × Session :=
  let (entry, builder) := construction.run session.builder
  (.entry entry.id entry.optional, { session with builder }.push (some (.entry entry)))

/-! ### Steps that plan -/

/-- Plans a node. No register may be named twice, since its plan is used up. -/
def planNode (session : Session) (offset : Offset) (operation : NodeOperation Nat Nat) :
    Answer × Session :=
  match operation.resolve? session.planAt session.planEntryAt with
  | some parts =>
    if operation.references.Nodup then
      (.plan offset,
        (session.consume operation.references).push (some (.plan (.ofOperation offset parts))))
    else session.reject .badReference
  | none => session.reject .badReference

/-- Plans an entry. No register may be named twice, since its plan is used up. -/
def planEntry (session : Session) (offset : Offset) (operation : EntryOperation Nat) :
    Answer × Session :=
  match operation.resolve? session.planAt with
  | some parts =>
    if operation.references.Nodup then
      (.planEntry,
        (session.consume operation.references).push (some (.planEntry (.ofOperation offset parts))))
    else session.reject .badReference
  | none => session.reject .badReference

/-! ### Questions -/

/-- Equality of two items of one kind. -/
def sameItem : Item → Item → Option Bool
  | .node first, .node second => some (first.equal second)
  | .entry first, .entry second => some (first.equal second)
  | .plan first, .plan second => some (first.equal second)
  | .planEntry first, .planEntry second => some (first.equal second)
  | _, _ => none

/-- The answer to a question. -/
def answer (session : Session) : Query → Answer
  | .node register => (session.nodeAt register).elim .badReference .tree
  | .entry register => (session.entryAt register).elim .badReference .entryTree
  | .equal first second =>
    match session.itemAt first, session.itemAt second with
    | some first, some second => (sameItem first second).elim .badReference .truth
    | _, _ => .badReference
  | .planOffset register =>
    (session.planAt register).elim .badReference fun plan => .planOffset plan.offset
  | .position id => .position (session.builder.info.positions.get? id)
  | .macroCall id => .macroCall (session.builder.info.macroCalls.get? id)
  | .isHasCall function args =>
    if session.planning then .unavailable
    else
      match args.mapM session.nodeAt with
      | some args => .truth (Builder.isHasCall session.builder.options function args)
      | none => .badReference
  | .options => if session.planning then .unavailable else .options session.builder.options

/-! ### Runs -/

/-- One step: its answer and the session after it. -/
def step (session : Session) : Step → Answer × Session
  | .node offset operation =>
    if session.planning then session.planNode offset operation
    else
      match operation.resolve? session.nodeAt session.entryAt with
      | some parts => session.buildNode (parts.perform offset)
      | none => session.reject .badReference
  | .entry offset operation =>
    if session.planning then session.planEntry offset operation
    else
      match operation.resolve? session.nodeAt with
      | some parts => session.buildEntry (parts.perform offset)
      | none => session.reject .badReference
  | .constant offset value =>
    if session.planning then session.reject .unavailable
    else session.buildNode (Builder.literal offset value)
  | .expandHas offset args =>
    if session.planning then session.reject .unavailable
    else
      match args.mapM session.nodeAt with
      | some args => session.buildNode (Builder.expandHas offset args)
      | none => session.reject .badReference
  | .maybeExpand offset call =>
    if session.planning then session.reject .unavailable
    else
      match session.nodeAt call with
      | some call => session.buildNode (Builder.maybeExpand offset call)
      | none => session.reject .badReference
  | .force register =>
    if session.planning then
      match session.planAt register with
      | some plan => (session.consume [register]).buildNode plan.force
      | none => session.reject .badReference
    else session.reject .unavailable
  | .endPlanning =>
    if session.planning then (.planningEnded, { session with planning := false }.push none)
    else session.reject .unavailable
  | .ask query => session.reject (session.answer query)

/-- Steps in order: their answers and the session after the last. -/
def run (session : Session) : List Step → List Answer × Session
  | [] => ([], session)
  | first :: rest =>
    let (answer, next) := session.step first
    let (answers, last) := next.run rest
    (answer :: answers, last)

end Session

end CelTree
