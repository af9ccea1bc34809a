/-
**Heap order.**

A tree is heap-ordered if the id of every node and of every entry in it is greater than all ids
beneath it. It is enough to compare each id with those directly beneath it. So a new node over
heap-ordered parts keeps the order if its id is new, and so does a fold, whatever order its template
takes its ids in.

* `Element.HeapOrdered`: every element of an element has a greater id than all beneath it.
* `Element.OrderedBelow`: heap-ordered, with all ids below a bound.
* **`orderedBelow_iff`** — heap order is a matter of each element and the parts directly beneath it.
* **`MacroCall.fold_orderedBelow`** — the fold of a macro is heap-ordered if its parts are older.
-/

import CelTree.Proofs.Expr.Elements
import CelTree.Proofs.Macro.Fold

namespace CelTree

open Render

namespace Render.Element

/-- The id of an element is greater than all ids beneath it. -/
def Dominates (element : Element) : Prop := ∀ id ∈ element.below, id < element.id

/-- Every node and every entry in an element, itself included, dominates what is beneath it. -/
def HeapOrdered (element : Element) : Prop := ∀ inner ∈ element.elements, inner.Dominates

/-- A heap-ordered element with an id below the bound. -/
structure OrderedBelow (bound : Int) (element : Element) : Prop where
  root : element.id < bound
  ordered : element.HeapOrdered

variable {bound bound' id : Int} {element : Element}

theorem OrderedBelow.mono (ordered : element.OrderedBelow bound) (le : bound ≤ bound') :
    element.OrderedBelow bound' :=
  ⟨Int.lt_of_lt_of_le ordered.root le, ordered.ordered⟩

/-- An element is heap-ordered if its parts are and it dominates them. -/
theorem heapOrdered_iff : element.HeapOrdered ↔
    (∀ part ∈ element.parts, part.HeapOrdered) ∧ element.Dominates := by
  unfold HeapOrdered
  rw [elements_eq, List.forall_mem_append, List.forall_mem_singleton]
  simp only [List.forall_mem_flatMap]

/-- All ids of a heap-ordered element are below a bound exactly if its own is. -/
theorem HeapOrdered.forall_lt_iff (ordered : element.HeapOrdered) :
    (∀ id ∈ element.ids, id < bound) ↔ element.id < bound := by
  have dominates := (heapOrdered_iff.mp ordered).2
  rw [ids_eq, List.forall_mem_cons]
  exact and_iff_left_of_imp fun root id member => Int.lt_trans (dominates id member) root

/-- **Heap order is a matter of each element and its parts.** -/
theorem orderedBelow_iff : element.OrderedBelow bound ↔
    element.id < bound ∧ ∀ part ∈ element.parts, part.OrderedBelow element.id := by
  have lower : (∀ part ∈ element.parts, part.HeapOrdered) →
      (element.Dominates ↔ ∀ part ∈ element.parts, part.id < element.id) := by
    intro ordered
    unfold Dominates
    rw [below_eq]
    simp only [List.forall_mem_flatMap]
    exact forall₂_congr fun part member => (ordered part member).forall_lt_iff
  constructor
  · rintro ⟨root, ordered⟩
    obtain ⟨parts, dominates⟩ := heapOrdered_iff.mp ordered
    exact ⟨root, fun part member => ⟨(lower parts).mp dominates part member, parts part member⟩⟩
  · rintro ⟨root, parts⟩
    have ordered : ∀ part ∈ element.parts, part.HeapOrdered := fun part member =>
      (parts part member).ordered
    exact ⟨root, heapOrdered_iff.mpr ⟨ordered, (lower ordered).mpr fun part member =>
      (parts part member).root⟩⟩

/-! ### Nodes of a fold -/

theorem orderedBelow_literal {value : Constant} :
    (Element.node (.literal id value)).OrderedBelow bound ↔ id < bound := by
  rw [orderedBelow_iff]
  exact and_iff_left (List.forall_mem_nil _)

theorem orderedBelow_ident {name : String} :
    (Element.node (.ident id name)).OrderedBelow bound ↔ id < bound := by
  rw [orderedBelow_iff]
  exact and_iff_left (List.forall_mem_nil _)

theorem orderedBelow_call {function : String} {args : List Expr} :
    (Element.node (.call id function args)).OrderedBelow bound ↔
      id < bound ∧ ∀ arg ∈ args, (Element.node arg).OrderedBelow id := by
  rw [orderedBelow_iff, parts, List.forall_mem_map]
  rfl

theorem orderedBelow_list {elements : List Expr} :
    (Element.node (.list id elements)).OrderedBelow bound ↔
      id < bound ∧ ∀ element ∈ elements, (Element.node element).OrderedBelow id := by
  rw [orderedBelow_iff, parts, List.forall_mem_map]
  rfl

theorem orderedBelow_overRange {call : MacroCall} {init condition step result : Expr} :
    (Element.node (call.overRange id init condition step result)).OrderedBelow bound ↔
      id < bound ∧ ∀ part ∈ [call.range, init, condition, step, result],
        (Element.node part).OrderedBelow id := by
  have mapped : (Element.node (call.overRange id init condition step result)).parts =
      [call.range, init, condition, step, result].map .node := rfl
  rw [orderedBelow_iff, mapped, List.forall_mem_map]
  rfl

end Render.Element

open Element

/-- **The fold of a macro over older parts is heap-ordered**, and its root has the last of the new
ids. -/
theorem MacroCall.fold_orderedBelow {base : Int} {call : MacroCall}
    (range : (Element.node call.range).OrderedBelow (base + 1))
    (args : ∀ arg ∈ call.body.args, (Element.node arg).OrderedBelow (base + 1)) :
    (Element.node (call.fold base)).OrderedBelow (base + call.size + 1) := by
  obtain ⟨range', iterVar, body⟩ := call
  cases body <;>
    simp only [fold, accu, size, MacroBody.args, orderedBelow_literal, orderedBelow_ident,
      orderedBelow_call, orderedBelow_list, orderedBelow_overRange,
      List.forall_mem_cons] at range args ⊢ <;>
    repeat' apply And.intro
  all_goals
    first
    | omega
    | exact range.mono (by omega)
    | exact args.1.mono (by omega)
    | exact args.2.1.mono (by omega)
    | exact List.forall_mem_nil _

end CelTree
