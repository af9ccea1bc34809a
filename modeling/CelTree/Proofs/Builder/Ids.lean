/-
**Where the ids go.**

* `idsBetween`: the ids that are allocated while the last id moves from one value to another.
* `NodeOperation.partIds`: the ids of the trees that a step is given.
* `NodeOperation.droppedIds`: the ids that an expansion allocates or is given, and that its result
  does not hold: that of the expanded call, and that of the identifier which names the variable of a
  fold.
* **`Effect.ids_perm`** — a step loses and doubles no id: its result and what it drops hold exactly
  the new ids and those of its parts.
-/

import CelTree.Expr.Ids
import CelTree.Proofs.Builder.Step
import Mathlib.Algebra.Order.Group.Multiset
import Mathlib.Tactic.Abel

namespace CelTree

/-! ### Ids in allocation order -/

/-- The ids after the first and up to the last. -/
def idsBetween (first last : Int) : List Int :=
  (List.range (last - first).toNat).map fun index : Nat => first + (index + 1)

theorem mem_idsBetween {first last id : Int} :
    id ∈ idsBetween first last ↔ first < id ∧ id ≤ last := by
  unfold idsBetween
  rw [List.mem_map]
  constructor
  · rintro ⟨index, member, rfl⟩
    have := List.mem_range.mp member
    omega
  · rintro ⟨above, below⟩
    refine ⟨(id - first - 1).toNat, List.mem_range.mpr ?_, ?_⟩ <;> omega

theorem nodup_idsBetween (first last : Int) : (idsBetween first last).Nodup := by
  unfold idsBetween
  refine List.Nodup.map (fun index index' same => ?_) List.nodup_range
  have same' : first + ((index : Int) + 1) = first + ((index' : Int) + 1) := same
  omega

theorem idsBetween_self (first : Int) : idsBetween first first = [] := by
  unfold idsBetween
  rw [Int.sub_self]
  rfl

/-- Two stretches of new ids, one after the other, are one stretch. -/
theorem idsBetween_append_eq {first middle last : Int} (one : first ≤ middle)
    (two : middle ≤ last) :
    idsBetween first middle ++ idsBetween middle last = idsBetween first last := by
  unfold idsBetween
  have total : (last - first).toNat = (middle - first).toNat + (last - middle).toNat := by omega
  rw [total, List.range_add, List.map_append, List.map_map]
  congr 1
  refine List.map_congr_left fun index _ => ?_
  show middle + ((index : Int) + 1) = first + (((middle - first).toNat + index : Nat) + 1 : Int)
  omega

theorem idsBetween_append {first middle last : Int} (one : first ≤ middle) (two : middle ≤ last) :
    (idsBetween first middle ++ idsBetween middle last).Perm (idsBetween first last) :=
  .of_eq (idsBetween_append_eq one two)

theorem length_idsBetween (first last : Int) :
    (idsBetween first last).length = (last - first).toNat := by
  unfold idsBetween
  rw [List.length_map, List.length_range]

/-- The ids after the first one, as many as counted. -/
theorem idsBetween_add (first : Int) (count : Nat) :
    idsBetween first (first + count) =
      (List.range count).map fun index : Nat => first + (index + 1) := by
  unfold idsBetween
  congr 2
  omega

theorem idsBetween_succ (first : Int) : idsBetween first (first + 1) = [first + 1] :=
  idsBetween_add first 1

/-! ### Folds -/

namespace MacroCall

/-- A fold holds each of its new ids once, and each id of its parts as often as the parts do. -/
theorem fold_ids_perm (base : Int) (call : MacroCall) :
    (call.fold base).ids.Perm
      (idsBetween base (base + call.size) ++ (call.range.ids ++ Expr.idsAll call.body.args)) := by
  obtain ⟨range, iterVar, body⟩ := call
  rw [← Multiset.coe_eq_coe, idsBetween_add]
  cases body <;>
    simp only [fold, overRange, accu, size, MacroBody.args, Expr.ids, Expr.idsAll, List.range,
      List.range.loop, List.map_cons, List.map_nil, List.append_nil, List.nil_append,
      List.cons_append, Nat.cast_ofNat, Nat.cast_zero, Nat.cast_one, Int.reduceAdd,
      ← Multiset.coe_add, ← Multiset.cons_coe, ← Multiset.singleton_add, Multiset.coe_nil] <;>
    abel

end MacroCall

/-! ### Steps -/

namespace NodeOperation

/-- The ids of the parts of a step, from left to right. -/
def partIds : NodeOperation Expr Entry → List Int
  | .literal _ => []
  | .ident _ => []
  | .select operand _ => operand.ids
  | .call _ args => Expr.idsAll args
  | .memberCall target _ args => target.ids ++ Expr.idsAll args
  | .operatorCall _ args => Expr.idsAll args
  | .index operand subscript => operand.ids ++ subscript.ids
  | .list elements => Expr.idsAll elements
  | .struct _ entries => Entry.idsAll entries

/-- The ids of a node are its own and those of its parts. -/
theorem node_ids {operation : NodeOperation Expr Entry} {id : Int} {tree : Expr}
    (written : operation.node id = .ok tree) : tree.ids = id :: operation.partIds := by
  cases operation with
  | literal source =>
    obtain ⟨value, rfl⟩ := literal_of_node written
    rfl
  | index operand subscript =>
    cases written
    simp only [Expr.ids, Expr.idsAll, partIds, List.append_nil]
  | _ =>
    cases written
    rfl

/-- The id of the first argument of a member call, which names the variable if it is a fold. -/
def variableIds : NodeOperation Expr Entry → List Int
  | .memberCall _ _ (variableName :: _) => [variableName.id]
  | _ => []

/-- The ids that a step drops: none, unless it is an expansion. Then that of the call itself and,
for a fold, that of the identifier which names its variable. -/
def droppedIds (builder : Builder) (operation : NodeOperation Expr Entry) : List Int :=
  if operation.isExpansion builder.options then
    (builder.lastId + 1) :: operation.variableIds
  else []

/-- **A step loses and doubles no id.** -/
theorem Effect.ids_perm {offset : Offset} {builder after : Builder}
    {operation : NodeOperation Expr Entry} {tree : Expr}
    (effect : operation.Effect offset builder (.ok tree) after) :
    (tree.ids ++ operation.droppedIds builder).Perm
      (idsBetween builder.lastId after.lastId ++ operation.partIds) := by
  cases effect with
  | plain unexpanded written =>
    rw [droppedIds, unexpanded, node_ids written, Builder.advance_lastId, idsBetween_succ]
    simp
  | test enabled =>
    rw [droppedIds, if_pos (isExpansion_test enabled ..), Builder.recorded_lastId,
      Builder.advance_lastId, idsBetween_succ]
    simp only [Expr.ids, partIds, Expr.idsAll, variableIds, List.append_nil]
    exact List.perm_append_comm
  | @fold target function args found recognized =>
    obtain ⟨id, name, variableId, same⟩ := MacroCall.recognize_eq_some recognized
    obtain ⟨-, rfl, -, rfl⟩ := Expr.memberCall.inj same
    have new : (idsBetween builder.lastId (builder.lastId + 1) ++
        idsBetween (builder.lastId + 1) (builder.lastId + 1 + found.size)).Perm
          (idsBetween builder.lastId (builder.lastId + 1 + found.size)) :=
      idsBetween_append (by omega) (by omega)
    have held := found.fold_ids_perm (builder.lastId + 1)
    rw [idsBetween_succ] at new
    rw [droppedIds, if_pos (isExpansion_fold recognized), Builder.recorded_lastId,
      Builder.advanceBy_lastId, Builder.advance_lastId]
    rw [← Multiset.coe_eq_coe] at new held ⊢
    simp only [partIds, variableIds, Expr.idsAll, Expr.ids, Expr.id, ← Multiset.coe_add,
      ← Multiset.cons_coe, ← Multiset.singleton_add, Multiset.coe_nil] at new held ⊢
    rw [held, ← new]
    abel

end NodeOperation

namespace EntryOperation

/-- The ids of the parts of a step, from left to right. -/
def partIds : EntryOperation Expr → List Int
  | .map key value _ => key.ids ++ value.ids
  | .field _ value _ => value.ids

theorem entry_ids (operation : EntryOperation Expr) (id : Int) :
    (operation.entry id).ids = id :: operation.partIds := by
  cases operation <;> rfl

end EntryOperation

end CelTree
