/-
**The nodes of a tree.**

* `Expr.nodes`, `Entry.nodes`: all nodes at any depth, in pre-order.
* `MacroCall.forall_mem_nodes_fold`: a node of a fold is its root, a new one that is neither a select
  nor a comprehension, or a node of what the fold works on.
* `MacroCall.mem_nodes_fold`: the range and what a fold works on are nodes of it.
* `MacroCall.fold_eraseIds`: up to ids, a fold does not depend on where its new ids begin.
-/

import CelTree.Proofs.Expr.MapIds

namespace CelTree

mutual

/-- All nodes of a tree, itself included. -/
def Expr.nodes : Expr → List Expr
  | .literal id value => [.literal id value]
  | .ident id name => [.ident id name]
  | .select id operand field testOnly => .select id operand field testOnly :: operand.nodes
  | .call id function args => .call id function args :: Expr.nodesAll args
  | .memberCall id target function args =>
    .memberCall id target function args :: (target.nodes ++ Expr.nodesAll args)
  | .list id elements => .list id elements :: Expr.nodesAll elements
  | .struct id message entries => .struct id message entries :: Entry.nodesAll entries
  | .comprehension id iterVar iterVar2 range accuVar init condition step result =>
    .comprehension id iterVar iterVar2 range accuVar init condition step result ::
      (range.nodes ++ init.nodes ++ condition.nodes ++ step.nodes ++ result.nodes)

/-- All nodes of several trees. -/
def Expr.nodesAll : List Expr → List Expr
  | [] => []
  | first :: rest => first.nodes ++ Expr.nodesAll rest

/-- All nodes of an entry, those of its key before those of its value. -/
def Entry.nodes : Entry → List Expr
  | .map _ key value _ => key.nodes ++ value.nodes
  | .field _ _ value _ => value.nodes

/-- All nodes of several entries. -/
def Entry.nodesAll : List Entry → List Expr
  | [] => []
  | first :: rest => first.nodes ++ Entry.nodesAll rest

end

theorem Expr.nodesAll_eq (trees : List Expr) : Expr.nodesAll trees = trees.flatMap Expr.nodes := by
  induction trees with
  | nil => rfl
  | cons first rest ih => rw [Expr.nodesAll, ih, List.flatMap_cons]

theorem Entry.nodesAll_eq (entries : List Entry) :
    Entry.nodesAll entries = entries.flatMap Entry.nodes := by
  induction entries with
  | nil => rfl
  | cons first rest ih => rw [Entry.nodesAll, ih, List.flatMap_cons]

theorem Expr.mem_nodes_self (tree : Expr) : tree ∈ tree.nodes := by
  cases tree <;> exact List.mem_cons_self

/-- The node is a comprehension. -/
def Expr.isComprehension : Expr → Bool
  | .comprehension _ _ _ _ _ _ _ _ _ => true
  | _ => false

namespace MacroCall

theorem size_pos (call : MacroCall) : 0 < call.size := by
  obtain ⟨range, iterVar, body⟩ := call
  cases body <;> exact Nat.succ_pos _

/-- What holds of the root of a fold, of new nodes of other kinds, and of the nodes of what the fold
works on, holds of all nodes of the fold. -/
theorem forall_mem_nodes_fold {P : Expr → Prop} {base : Int} {call : MacroCall}
    (root : P (call.fold base))
    (fresh : ∀ node : Expr, base < node.id → node.id ≤ base + call.size →
      node.isSelect = false → node.isComprehension = false → P node)
    (range : ∀ node ∈ call.range.nodes, P node)
    (args : ∀ node ∈ Expr.nodesAll call.body.args, P node) :
    ∀ node ∈ (call.fold base).nodes, P node := by
  obtain ⟨range, iterVar, body⟩ := call
  cases body <;>
    simp only [fold, overRange, accu, MacroBody.args, Expr.nodes, Expr.nodesAll,
      List.forall_mem_cons, List.forall_mem_append, List.append_nil] at root args ⊢ <;>
    repeat' apply And.intro
  all_goals
    first
    | exact root
    | exact range
    | exact args
    | exact args.1
    | exact args.2
    | exact fun _ member => by cases member
    | refine fresh _ ?_ ?_ rfl rfl <;> simp only [Expr.id, size] <;> omega

/-- The range of a fold and all trees that it works on are nodes of it. -/
theorem mem_nodes_fold {base : Int} {call : MacroCall} {part : Expr}
    (member : part ∈ call.range :: call.body.args) : part ∈ (call.fold base).nodes := by
  obtain ⟨range, iterVar, body⟩ := call
  rcases List.mem_cons.mp member with rfl | member
  · cases body <;> simp [fold, overRange, Expr.nodes, Expr.mem_nodes_self]
  · cases body with
    | mapWhere test transform =>
      rcases List.mem_cons.mp member with rfl | member
      · simp [fold, overRange, Expr.nodes, Expr.nodesAll, Expr.mem_nodes_self]
      · obtain rfl := List.mem_singleton.mp member
        simp [fold, overRange, Expr.nodes, Expr.nodesAll, Expr.mem_nodes_self]
    | _ =>
      obtain rfl := List.mem_singleton.mp member
      simp [fold, overRange, Expr.nodes, Expr.nodesAll, Expr.mem_nodes_self]

/-- Up to ids, a fold does not depend on where its new ids begin. -/
theorem fold_eraseIds (call : MacroCall) (base base' : Int) :
    (call.fold base).eraseIds = (call.fold base').eraseIds := by
  obtain ⟨range, iterVar, body⟩ := call
  cases body <;> rfl

end MacroCall

end CelTree
