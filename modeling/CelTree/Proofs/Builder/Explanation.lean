/-
**The record explains what was expanded.**

* `Builder.Explains`: a node that an expansion puts in place of a call has that call on record, with
  the parts that it now holds, and expanding the call once more gives the node again.
* `Explains.later`: the explanation of an old node stays as long as its own record does.
* `explains_node`, `explains_fold`, `explains_test`: what a step results in is explained.
-/

import CelTree.Proofs.Builder.Positions
import CelTree.Proofs.Expr.Nodes

namespace CelTree

namespace Builder

/-- The record explains a node. Under the id of a comprehension stands an older member call, at the
same offset, on the range of the comprehension and with its variable for a first argument; a new
builder with the same options expands the call into the comprehension again, up to ids. Under the id
of a field test stands a newer call of `has` on the select that is tested. Other nodes need no
explanation. -/
def Explains (builder : Builder) (node : Expr) : Prop :=
  match node with
  | .comprehension id iterVar _ range _ _ _ _ _ =>
    ∃ callId function variableId args,
      let call : Expr := .memberCall callId range function (.ident variableId iterVar :: args)
      builder.info.macroCalls.get? id = some call ∧ callId < id ∧
        (∃ offset, builder.info.positions.get? callId = some offset ∧
          builder.info.positions.get? id = some offset) ∧
        ∀ offset, ((maybeExpand offset call).run { options := builder.options }).1.eraseIds =
          node.eraseIds
  | .select id operand field true =>
    ∃ callId testOnly,
      builder.info.macroCalls.get? id =
          some (.call callId Macro.has.function [.select id operand field testOnly]) ∧
        id < callId
  | _ => True

variable {builder after : Builder}

/-- A node that is neither a comprehension nor a field test needs no explanation. -/
theorem explains_of_plain {node : Expr} (builder : Builder)
    (single : node.isComprehension = false) (untested : node.testOnly? ≠ some true) :
    builder.Explains node := by
  cases node with
  | select id operand field testOnly =>
    cases testOnly with
    | false => trivial
    | true => exact absurd rfl untested
  | comprehension id iterVar iterVar2 range accuVar init condition step result => cases single
  | _ => trivial

/-- An old node stays explained as long as its own record does not change. -/
theorem Explains.later {node : Expr} (explained : builder.Explains node) {places : List Offset}
    (advances : builder.Advances places after) (allocated : node.id ≤ builder.lastId)
    (same : after.info.macroCalls.get? node.id = builder.info.macroCalls.get? node.id) :
    after.Explains node := by
  cases node with
  | comprehension id iterVar iterVar2 range accuVar init condition step result =>
    obtain ⟨callId, function, variableId, args, record, older, ⟨offset, ofCall, ofNode⟩, again⟩ :=
      explained
    have early : callId ≤ builder.lastId := Int.le_trans (Int.le_of_lt older) allocated
    refine ⟨callId, function, variableId, args, same.trans record, older, ⟨offset, ?_, ?_⟩, ?_⟩
    · rw [advances.get?_of_le early, ofCall]
    · exact (advances.get?_of_le allocated).trans ofNode
    · rw [advances.options]
      exact again
  | select id operand field testOnly =>
    cases testOnly with
    | false => trivial
    | true =>
      obtain ⟨callId, testOnly, record, newer⟩ := explained
      exact ⟨callId, testOnly, same.trans record, newer⟩
  | _ => trivial

/-- A node that a step writes needs no explanation. -/
theorem explains_node {operation : NodeOperation Expr Entry} {id : Int} {tree : Expr}
    (builder : Builder) (written : operation.node id = .ok tree) : builder.Explains tree := by
  refine builder.explains_of_plain ?_ fun tested => ?_
  · cases operation with
    | literal source =>
      obtain ⟨value, rfl⟩ := NodeOperation.literal_of_node written
      rfl
    | _ =>
      cases written
      rfl
  · cases NodeOperation.testOnly?_node written tested

/-- A select with the record of a field test is explained, whether it is a test itself or not. -/
theorem explains_test {id callId : Int} {operand : Expr} {field : String} {testOnly : Bool}
    (record : builder.info.macroCalls.get? id =
      some (.call callId Macro.has.function [.select id operand field testOnly]))
    (newer : id < callId) (flag : Bool) : builder.Explains (.select id operand field flag) := by
  cases flag with
  | false => trivial
  | true => exact ⟨callId, testOnly, record, newer⟩

/-- The fold of a call is explained once the call is on record. -/
theorem explains_fold (dense : builder.Dense) (recording : builder.options.recordCalls = true)
    (offset : Offset) {target : Expr} {function : String} {args : List Expr} {found : MacroCall}
    (recognized : MacroCall.recognize builder.options
      (.memberCall (builder.lastId + 1) target function args) = some found) :
    (((builder.advance offset).advanceBy offset found.size).recorded
      (builder.lastId + 1 + found.size)
      (.memberCall (builder.lastId + 1) target function args)).Explains
        (found.fold (builder.lastId + 1)) := by
  obtain ⟨id, name, variableId, same⟩ := MacroCall.recognize_eq_some recognized
  obtain ⟨-, rfl, -, rfl⟩ := Expr.memberCall.inj same
  obtain ⟨init, condition, step, result, shape⟩ := found.exists_fold_eq (builder.lastId + 1)
  have one := dense.advance offset
  have folded : builder.Advances (List.replicate (found.size + 1) offset) _ :=
    (one.trans ((one.dense dense).advanceBy offset found.size)).recorded
      (builder.lastId + 1 + found.size) (.memberCall (builder.lastId + 1) found.range function
        (.ident variableId found.iterVar :: found.body.args))
  have positive := found.size_pos
  have last := folded.lastId
  rw [List.length_replicate] at last
  have again : ∀ offset, ((maybeExpand offset (.memberCall (builder.lastId + 1) found.range
      function (.ident variableId found.iterVar :: found.body.args))).run
        { options := builder.options }).1.eraseIds =
          (found.fold (builder.lastId + 1)).eraseIds := by
    intro offset
    rw [maybeExpand_run, recognized]
    exact found.fold_eraseIds 0 (builder.lastId + 1)
  rw [shape] at again ⊢
  refine ⟨builder.lastId + 1, function, variableId, found.body.args, ?_, ?_, ⟨offset, ?_, ?_⟩, ?_⟩
  · rw [recorded_macroCalls _ _ _ (by rw [advanceBy_options]; exact recording)]
    exact IdMap.get?_insert_self _ _ _
  · omega
  · exact folded.get?_of_gt (by omega) (by omega)
  · exact folded.get?_of_gt (by omega) (by omega)
  · rw [folded.options]
    exact again

end Builder

end CelTree
