/-
**The record over whole runs.**

The steps of a session that builds may use a result as often as they like. Still the record explains
every node at any depth of every result: a fold is found under its own new id, and a select, which
keeps its id when it becomes a test, is the same select wherever this id occurs.

* `Session.nodes`: all nodes at any depth of all results.
* `Explained`: the invariant. Every node is explained, and the nodes with the id of a select are this
  select, whether it is a test or not.
* `Explained.fresh`, `Explained.test`: the two ways in which a step adds nodes.
* **`run_explains`** — the record of every run of operations explains every node.
-/

import CelTree.Proofs.Builder.Explanation
import CelTree.Proofs.Session.Operation
import CelTree.Proofs.Session.Positions

namespace CelTree

/-- All nodes of a result. Plans have none. -/
def Item.nodes : Item → List Expr
  | .node tree => tree.nodes
  | .entry held => held.nodes
  | .plan _ => []
  | .planEntry _ => []

/-- A node that a step writes holds no nodes but those of its parts. -/
theorem NodeOperation.mem_nodes_node {operation : NodeOperation Expr Entry} {id : Int}
    {tree : Expr} (written : operation.node id = .ok tree) {node : Expr}
    (member : node ∈ tree.nodes) : node = tree ∨ ∃ item ∈ operation.items, node ∈ item.nodes := by
  cases operation with
  | literal source =>
    obtain ⟨value, rfl⟩ := literal_of_node written
    exact .inl (List.mem_singleton.mp member)
  | _ =>
    cases written
    simpa [Expr.nodes, Expr.nodesAll, Expr.nodesAll_eq, Entry.nodesAll_eq, items, Item.nodes]
      using member

theorem EntryOperation.mem_nodes_entry {operation : EntryOperation Expr} {id : Int} {node : Expr}
    (member : node ∈ (operation.entry id).nodes) : ∃ item ∈ operation.items, node ∈ item.nodes := by
  cases operation <;> simpa [entry, Entry.nodes, items, Item.nodes] using member

namespace Session

/-- All nodes, at any depth, of all results. -/
def nodes (session : Session) : List Expr :=
  session.registers.flatMap fun slot => slot.elim [] Item.nodes

theorem nodes_push (session : Session) (item : Option Item) :
    (session.push item).nodes = session.nodes ++ item.elim [] Item.nodes := by
  rw [nodes, push, List.flatMap_append, List.flatMap_singleton]
  rfl

theorem mem_nodes_of_itemAt {session : Session} {register : Nat} {item : Item}
    (held : session.itemAt register = some item) {node : Expr} (inside : node ∈ item.nodes) :
    node ∈ session.nodes := by
  rw [itemAt, Option.join_eq_some_iff] at held
  exact List.mem_flatMap.mpr ⟨some item, List.mem_of_getElem? held, inside⟩

/-- The nodes of a part of a step are nodes of the session. -/
theorem Holds.mem_nodes {session : Session} {registers : List Nat} {items : List Item}
    (holds : session.Holds registers items) {item : Item} (part : item ∈ items) {node : Expr}
    (inside : node ∈ item.nodes) : node ∈ session.nodes := by
  induction holds with
  | nil => cases part
  | cons here _ ih =>
    rcases List.mem_cons.mp part with rfl | later
    · exact mem_nodes_of_itemAt here inside
    · exact ih later

/-! ### The invariant -/

/-- The session records calls and the record explains every node. -/
structure Explained (session : Session) : Prop where
  building : session.planning = false
  recording : session.builder.options.recordCalls = true
  dense : session.builder.Dense
  allocated : ∀ node ∈ session.nodes, 0 < node.id ∧ node.id ≤ session.builder.lastId
  explained : ∀ node ∈ session.nodes, session.builder.Explains node
  /-- All nodes with the id of a select are that select. -/
  selects : ∀ {id operand field testOnly}, .select id operand field testOnly ∈ session.nodes →
    ∀ node ∈ session.nodes, node.id = id → ∃ flag, node = .select id operand field flag
  /-- Records stand under allocated ids, and the recorded calls have such ids themselves. -/
  records : ∀ id call, session.builder.info.macroCalls.get? id = some call →
    (0 < id ∧ id ≤ session.builder.lastId) ∧ 0 < call.id ∧ call.id ≤ session.builder.lastId

theorem explained_fresh {options : Options} (recording : options.recordCalls = true) :
    (fresh options).Explained where
  building := rfl
  recording := recording
  dense := Builder.dense_fresh options
  allocated node member := by cases member
  explained node member := by cases member
  selects member := by cases member
  records id call found := by cases found

variable {session : Session}

/-- Without a result, everything stays explained. -/
theorem Explained.pushNone (explained : session.Explained) : (session.push none).Explained := by
  have same : (session.push none).nodes = session.nodes := by
    rw [nodes_push]
    exact List.append_nil _
  obtain ⟨building, recording, dense, allocated, explains, selects, records⟩ := explained
  refine ⟨building, recording, dense, ?_, ?_, ?_, records⟩
  · rw [same]
    exact allocated
  · rw [same]
    exact explains
  · rw [same]
    exact selects

/-- A result whose new nodes have new ids and are explained, while old records stay. -/
theorem Explained.fresh (explained : session.Explained) {after : Builder} {places : List Offset}
    (advances : session.builder.Advances places after) (item : Item)
    (kept : ∀ id ≤ session.builder.lastId,
      after.info.macroCalls.get? id = session.builder.info.macroCalls.get? id)
    (records : ∀ id call, session.builder.lastId < id →
      after.info.macroCalls.get? id = some call →
        id ≤ after.lastId ∧ 0 < call.id ∧ call.id ≤ after.lastId)
    (new : ∀ node ∈ item.nodes, node ∈ session.nodes ∨
      (session.builder.lastId < node.id ∧ node.id ≤ after.lastId ∧ after.Explains node ∧
        (node.isSelect = true → item.nodes ⊆ node :: session.nodes))) :
    ({ session with builder := after }.push (some item)).Explained := by
  have start := explained.dense.start
  have last := advances.lastId
  have split : ∀ {node}, node ∈ ({ session with builder := after }.push (some item)).nodes →
      node ∈ session.nodes ∨
        (session.builder.lastId < node.id ∧ node.id ≤ after.lastId ∧ after.Explains node ∧
          (node.isSelect = true → item.nodes ⊆ node :: session.nodes)) := by
    intro node member
    rw [nodes_push] at member
    rcases List.mem_append.mp member with old | added
    · exact .inl old
    · exact new node added
  refine ⟨explained.building, ?_, advances.dense explained.dense, ?_, ?_, ?_, ?_⟩
  · show after.options.recordCalls = true
    rw [advances.options, explained.recording]
  · intro node member
    show 0 < node.id ∧ node.id ≤ after.lastId
    rcases split member with old | ⟨above, allocated, -, -⟩
    · have := explained.allocated node old
      omega
    · omega
  · intro node member
    rcases split member with old | ⟨-, -, explains, -⟩
    · have allocated := (explained.allocated node old).2
      exact (explained.explained node old).later advances allocated (kept _ allocated)
    · exact explains
  · intro id operand field testOnly select node member same
    rcases split select with oldSelect | ⟨above, -, -, single⟩
    · have selectId : id ≤ session.builder.lastId := (explained.allocated _ oldSelect).2
      rcases split member with old | ⟨above, -, -, -⟩
      · exact explained.selects oldSelect node old same
      · omega
    · -- a new select is the only node with its id
      have newId : session.builder.lastId < id := above
      rw [nodes_push] at member
      rcases List.mem_append.mp member with old | added
      · have := (explained.allocated node old).2
        omega
      · rcases List.mem_cons.mp (single rfl added) with rfl | old
        · exact ⟨testOnly, rfl⟩
        · have := (explained.allocated node old).2
          omega
  · intro id call found
    have here : after.info.macroCalls.get? id = some call := found
    show (0 < id ∧ id ≤ after.lastId) ∧ 0 < call.id ∧ call.id ≤ after.lastId
    by_cases old : id ≤ session.builder.lastId
    · rw [kept id old] at here
      have := explained.records id call here
      omega
    · have := records id call (by omega) here
      omega

/-- A result that is a select of the session, as a test, with a new record of its test. -/
theorem Explained.test (explained : session.Explained) {after : Builder} {places : List Offset}
    (advances : session.builder.Advances places after) {id callId : Int} {operand : Expr}
    {field : String} {testOnly : Bool}
    (given : .select id operand field testOnly ∈ session.nodes)
    (operands : operand.nodes ⊆ session.nodes)
    (newer : session.builder.lastId < callId) (allocated : callId ≤ after.lastId)
    (added : after.info.macroCalls = session.builder.info.macroCalls.insert id
      (.call callId Macro.has.function [.select id operand field testOnly])) :
    ({ session with builder := after }.push
      (some (.node (.select id operand field true)))).Explained := by
  have last := advances.lastId
  have inside : 0 < id ∧ id ≤ session.builder.lastId := explained.allocated _ given
  have record : after.info.macroCalls.get? id =
      some (.call callId Macro.has.function [.select id operand field testOnly]) := by
    rw [added, IdMap.get?_insert_self]
  have split : ∀ {node}, node ∈ ({ session with builder := after }.push
      (some (.node (.select id operand field true)))).nodes →
      node ∈ session.nodes ∨ node = .select id operand field true := by
    intro node member
    rw [nodes_push] at member
    rcases List.mem_append.mp member with old | added
    · exact .inl old
    · rcases List.mem_cons.mp added with root | below
      · exact .inr root
      · exact .inl (operands below)
  -- every node with the id of the select is the select, and so explained by the new record
  have selected : ∀ node ∈ session.nodes, node.id = id →
      ∃ flag, node = .select id operand field flag := explained.selects given
  refine ⟨explained.building, ?_, advances.dense explained.dense, ?_, ?_, ?_, ?_⟩
  · show after.options.recordCalls = true
    rw [advances.options, explained.recording]
  · intro node member
    show 0 < node.id ∧ node.id ≤ after.lastId
    rcases split member with old | rfl
    · have := explained.allocated node old
      omega
    · show 0 < id ∧ id ≤ after.lastId
      omega
  · intro node member
    show after.Explains node
    rcases split member with old | rfl
    · by_cases same : node.id = id
      · obtain ⟨flag, rfl⟩ := selected node old same
        exact Builder.explains_test record (by omega) flag
      · refine (explained.explained node old).later advances (explained.allocated node old).2 ?_
        rw [added, IdMap.get?_insert, if_neg same]
    · exact Builder.explains_test record (by omega) true
  · intro id' operand' field' testOnly' select node member same
    rcases split select with oldSelect | isRoot
    · rcases split member with old | rfl
      · exact explained.selects oldSelect node old same
      · have here : id = id' := same
        obtain ⟨flag, shape⟩ := selected _ oldSelect here.symm
        cases shape
        exact ⟨true, rfl⟩
    · cases isRoot
      rcases split member with old | rfl
      · exact selected node old same
      · exact ⟨true, rfl⟩
  · intro other call found
    have here : after.info.macroCalls.get? other = some call := found
    show (0 < other ∧ other ≤ after.lastId) ∧ 0 < call.id ∧ call.id ≤ after.lastId
    have start := explained.dense.start
    by_cases same : other = id
    · rw [same, record] at here
      cases here
      show (0 < other ∧ other ≤ after.lastId) ∧ 0 < callId ∧ callId ≤ after.lastId
      omega
    · rw [added, IdMap.get?_insert, if_neg same] at here
      have := explained.records other call here
      omega

/-! ### One operation -/

/-- An operation whose parts are not at hand changes nothing. -/
theorem step_rejected (building : session.planning = false) {step : Step}
    (kind : step.isOperation = true) (rejected : (session.step step).1 = .badReference) :
    (session.step step).2 = session.push none := by
  cases step with
  | node offset operation =>
    cases resolved : operation.resolve? session.nodeAt session.entryAt with
    | none =>
      simp only [Session.step, building, resolved]
      rfl
    | some parts =>
      rw [step_node building offset resolved] at rejected
      rcases ran : (parts.perform offset).run.run session.builder with ⟨error | tree, after⟩
      · rw [buildNode_error ran] at rejected
        cases rejected
      · rw [buildNode_ok ran] at rejected
        cases rejected
  | entry offset operation =>
    cases resolved : operation.resolve? session.nodeAt with
    | none =>
      simp only [Session.step, building, resolved]
      rfl
    | some parts =>
      rw [step_entry building offset resolved] at rejected
      cases rejected
  | constant offset value =>
    rw [step_constant building offset value] at rejected
    cases rejected
  | _ => cases kind

/-- At most one new node, under the next id and with no new record, keeps everything explained. -/
theorem Explained.one (explained : session.Explained) (offset : Offset) (item : Item)
    (new : ∀ node ∈ item.nodes, node ∈ session.nodes ∨
      (node.id = session.builder.lastId + 1 ∧ (session.builder.advance offset).Explains node ∧
        item.nodes ⊆ node :: session.nodes)) :
    ({ session with builder := session.builder.advance offset }.push (some item)).Explained := by
  refine explained.fresh (explained.dense.advance offset) item (fun _ _ => rfl)
    (fun other call above found => ?_) fun node member => ?_
  · have := (explained.records other call found).1
    omega
  · rcases new node member with old | ⟨id, explains, single⟩
    · exact .inl old
    · exact .inr ⟨by omega, Int.le_of_eq id, explains, fun _ => single⟩

/-- A fold of nodes of the session keeps everything explained. -/
theorem Explained.fold (explained : session.Explained) (offset : Offset) {target : Expr}
    {function : String} {args : List Expr} {found : MacroCall}
    (recognized : MacroCall.recognize session.builder.options
      (.memberCall (session.builder.lastId + 1) target function args) = some found)
    (range : ∀ node ∈ target.nodes, node ∈ session.nodes)
    (others : ∀ node ∈ Expr.nodesAll args, node ∈ session.nodes) :
    ({ session with
        builder := ((session.builder.advance offset).advanceBy offset found.size).recorded
          (session.builder.lastId + 1 + found.size)
          (.memberCall (session.builder.lastId + 1) target function args) }.push
      (some (.node (found.fold (session.builder.lastId + 1))))).Explained := by
  have root := Builder.explains_fold explained.dense explained.recording offset recognized
  obtain ⟨id, name, variableId, same⟩ := MacroCall.recognize_eq_some recognized
  obtain ⟨-, rfl, -, rfl⟩ := Expr.memberCall.inj same
  generalize called : Expr.memberCall (session.builder.lastId + 1) found.range function
    (.ident variableId found.iterVar :: found.body.args) = call at root ⊢
  have callId : call.id = session.builder.lastId + 1 := by rw [← called]; rfl
  have one := explained.dense.advance offset
  have advances : session.builder.Advances _
      (((session.builder.advance offset).advanceBy offset found.size).recorded
        (session.builder.lastId + 1 + found.size) call) :=
    (one.trans ((one.dense explained.dense).advanceBy offset found.size)).recorded _ call
  have start := explained.dense.start
  have last := advances.lastId
  rw [List.length_append, List.length_singleton, List.length_replicate] at last
  have added := Builder.recorded_macroCalls
    ((session.builder.advance offset).advanceBy offset found.size)
    (session.builder.lastId + 1 + found.size) call (by
      rw [Builder.advanceBy_options]
      exact explained.recording)
  rw [Builder.advanceBy_macroCalls, Builder.advance_macroCalls] at added
  refine explained.fresh advances (.node (found.fold _)) (fun other old => ?_)
    (fun other call' above inserted => ?_) ?_
  · rw [added, IdMap.get?_insert, if_neg (by omega)]
  · rw [added, IdMap.get?_insert] at inserted
    split at inserted
    · cases inserted
      omega
    · have := (explained.records other call' inserted).1
      omega
  · refine MacroCall.forall_mem_nodes_fold (.inr ⟨?_, ?_, root, fun select => ?_⟩)
      (fun node above below unselected single => .inr ⟨by omega, by omega, ?_, fun select => ?_⟩)
      (fun node inside => .inl (range node inside))
      fun node inside => .inl (others node (List.mem_append_right _ inside))
    · rw [MacroCall.fold_id]
      omega
    · rw [MacroCall.fold_id]
      omega
    · obtain ⟨init, condition, step, result, shape⟩ :=
        found.exists_fold_eq (session.builder.lastId + 1)
      rw [shape] at select
      cases select
    · refine Builder.explains_of_plain _ single fun tested => ?_
      obtain ⟨id, operand, field, rfl⟩ := Expr.testOnly?_eq_some tested
      cases unselected
    · rw [unselected] at select
      cases select

/-- **An operation keeps everything explained.** -/
theorem Performs.explained {step : Step} {next : Session} (performs : session.Performs step next)
    (explained : session.Explained) : next.Explained := by
  cases performs with
  | @node offset operation parts tree after resolved effect =>
    have holds := holds_of_resolve? resolved
    cases effect with
    | plain unexpanded written =>
      have split : ∀ node ∈ tree.nodes, node = tree ∨ node ∈ session.nodes := by
        intro node member
        rcases NodeOperation.mem_nodes_node written member with same | ⟨item, part, inside⟩
        · exact .inl same
        · exact .inr (holds.mem_nodes part inside)
      refine explained.one offset (.node tree) fun node member => ?_
      rcases split node member with rfl | old
      · exact .inr ⟨NodeOperation.node_id written, Builder.explains_node _ written,
          fun other inside => List.mem_cons.mpr (split other inside)⟩
      · exact .inl old
    | @test id operand field testOnly enabled =>
      have within : ∀ node ∈ (Expr.select id operand field testOnly).nodes,
          node ∈ session.nodes := fun _ inside => holds.mem_nodes List.mem_cons_self inside
      refine explained.test ((explained.dense.advance offset).recorded _ _)
        (within _ List.mem_cons_self)
        (fun node inside => within node (List.mem_cons_of_mem _ inside))
        (Int.lt_succ session.builder.lastId) ?_
        (Builder.recorded_macroCalls _ _ _ explained.recording)
      rw [Builder.recorded_lastId]
      exact Int.le_refl _
    | @fold target function args found recognized =>
      refine explained.fold offset recognized
        (fun _ inside => holds.mem_nodes List.mem_cons_self inside) fun node inside => ?_
      rw [Expr.nodesAll_eq] at inside
      obtain ⟨arg, given, below⟩ := List.mem_flatMap.mp inside
      exact holds.mem_nodes (List.mem_cons_of_mem _ (List.mem_map_of_mem given)) below
  | refused value => exact explained.pushNone
  | @entry offset operation parts resolved =>
    have holds := holds_of_resolve?_entry resolved
    refine explained.one offset (.entry _) fun node member => .inl ?_
    obtain ⟨item, part, inside⟩ := EntryOperation.mem_nodes_entry member
    exact holds.mem_nodes part inside
  | @constant offset value =>
    refine explained.one offset (.node _) fun node member => .inr ?_
    obtain rfl := List.mem_singleton.mp member
    exact ⟨rfl, trivial, fun other inside => List.mem_cons.mpr (.inl (List.mem_singleton.mp inside))⟩

theorem Explained.step (explained : session.Explained) {step : Step}
    (kind : step.isOperation = true) : (session.step step).2.Explained := by
  by_cases rejected : (session.step step).1 = .badReference
  · rw [step_rejected explained.building kind rejected]
    exact explained.pushNone
  · exact (step_performs explained.building kind rejected).explained explained

/-! ### Runs -/

theorem Explained.run (explained : session.Explained) {steps : List Step}
    (operations : ∀ step ∈ steps, step.isOperation = true) :
    (session.run steps).2.Explained ∧
      (session.run steps).2.builder.options = session.builder.options := by
  induction steps generalizing session with
  | nil => exact ⟨explained, rfl⟩
  | cons first rest ih =>
    obtain ⟨places, advances⟩ := step_advances explained.dense first
    have next := explained.step (operations first List.mem_cons_self)
    obtain ⟨last, options⟩ := ih next fun step member =>
      operations step (List.mem_cons_of_mem _ member)
    exact ⟨last, options.trans advances.options⟩

/-- **The record explains every node.** In every run of operations from a new builder that records
calls, with any macros and however often the results are used, every node at any depth of every
result is explained, and both the ids under which calls are on record and the ids of these calls are
placed. -/
theorem run_explains (options : Options) (recording : options.recordCalls = true)
    (steps : List Step) (operations : ∀ step ∈ steps, step.isOperation = true) :
    let session := ((fresh options).run steps).2
    session.builder.options = options ∧
      (∀ node ∈ session.nodes, session.builder.Explains node) ∧
      ∀ id call, session.builder.info.macroCalls.get? id = some call →
        id ∈ session.builder.info.positions.keys ∧
          call.id ∈ session.builder.info.positions.keys := by
  intro session
  obtain ⟨explained, same⟩ := (explained_fresh recording).run operations
  refine ⟨same, explained.explained, fun id call found => ?_⟩
  obtain ⟨key, callId⟩ := explained.records id call found
  exact ⟨explained.dense.mem_keys.mpr key, explained.dense.mem_keys.mpr callId⟩

/-- In the run of `testInFold`, the fold and the field test in it are both nodes, and explained. -/
theorem run_explains_testInFold :
    ({} : Options).recordCalls = true ∧ (∀ step ∈ testInFold, step.isOperation = true) ∧
      let session := ((fresh {}).run testInFold).2
      (∃ node ∈ session.nodes, node.isComprehension = true ∧ session.builder.Explains node) ∧
        ∃ node ∈ session.nodes, node.testOnly? = some true ∧ session.builder.Explains node := by
  have operations : ∀ step ∈ testInFold, step.isOperation = true := linear_testInFold.operations
  obtain ⟨-, explains, -⟩ := run_explains {} rfl testInFold operations
  refine ⟨rfl, operations, ?_⟩
  intro session
  have folds : session.nodes.any Expr.isComprehension = true := rfl
  have tests : session.nodes.any (fun node => node.testOnly? == some true) = true := rfl
  obtain ⟨fold, member, single⟩ := List.any_eq_true.mp folds
  obtain ⟨test, member', tested⟩ := List.any_eq_true.mp tests
  exact ⟨⟨fold, member, single, explains fold member⟩,
    ⟨test, member', beq_iff_eq.mp tested, explains test member'⟩⟩

end Session

end CelTree
