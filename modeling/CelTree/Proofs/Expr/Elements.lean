/-
**The elements of a tree.**

What an adornment may follow is an element: a node or an entry.

* `Expr.elements`, `Entry.elements`: all elements at any depth in post-order, a target before the
  arguments, a key before its value, and the parts of a fold in the order of its labels.
* `Element.parts`: what stands directly beneath an element. Its elements and the ids beneath it come
  from these parts (`Element.elements_eq`, `Element.below_eq`).
* `Expr.elements_perm`: the elements of a tree are each node once, and the entries of each struct
  once.
* `Expr.elements_ids_perm`: their ids are the ids of the tree.
-/

import CelTree.Expr.Ids
import CelTree.Proofs.Expr.Nodes
import CelTree.Render.Adorner

namespace CelTree

open Render

mutual

/-- All nodes and entries of a tree, parts before the whole. -/
def Expr.elements : Expr → List Element
  | .literal id value => [.node (.literal id value)]
  | .ident id name => [.node (.ident id name)]
  | .select id operand field testOnly =>
    operand.elements ++ [.node (.select id operand field testOnly)]
  | .call id function args => Expr.elementsAll args ++ [.node (.call id function args)]
  | .memberCall id target function args =>
    target.elements ++ Expr.elementsAll args ++ [.node (.memberCall id target function args)]
  | .list id elements => Expr.elementsAll elements ++ [.node (.list id elements)]
  | .struct id message entries =>
    Entry.elementsAll entries ++ [.node (.struct id message entries)]
  | .comprehension id iterVar iterVar2 range accuVar init condition step result =>
    range.elements ++ init.elements ++ condition.elements ++ step.elements ++ result.elements ++
      [.node (.comprehension id iterVar iterVar2 range accuVar init condition step result)]

/-- All nodes and entries of several trees. -/
def Expr.elementsAll : List Expr → List Element
  | [] => []
  | first :: rest => first.elements ++ Expr.elementsAll rest

/-- All nodes and entries of an entry: those of its key, those of its value, and itself. -/
def Entry.elements : Entry → List Element
  | .map id key value optional =>
    key.elements ++ value.elements ++ [.entry (.map id key value optional)]
  | .field id name value optional => value.elements ++ [.entry (.field id name value optional)]

/-- All nodes and entries of several entries. -/
def Entry.elementsAll : List Entry → List Element
  | [] => []
  | first :: rest => first.elements ++ Entry.elementsAll rest

end

theorem Expr.elementsAll_eq (trees : List Expr) :
    Expr.elementsAll trees = trees.flatMap Expr.elements := by
  induction trees with
  | nil => rfl
  | cons first rest ih => rw [Expr.elementsAll, ih, List.flatMap_cons]

theorem Entry.elementsAll_eq (entries : List Entry) :
    Entry.elementsAll entries = entries.flatMap Entry.elements := by
  induction entries with
  | nil => rfl
  | cons first rest ih => rw [Entry.elementsAll, ih, List.flatMap_cons]

/-! ### Elements of elements -/

namespace Render.Element

/-- All nodes and entries of an element, itself last. -/
def elements : Element → List Element
  | .node tree => tree.elements
  | .entry member => member.elements

/-- The ids of an element, its own first. -/
def ids : Element → List Int
  | .node tree => tree.ids
  | .entry member => member.ids

/-- The ids beneath an element. -/
def below (element : Element) : List Int := element.ids.tail

/-- The parts directly beneath an element. -/
def parts : Element → List Element
  | .node (.literal _ _) => []
  | .node (.ident _ _) => []
  | .node (.select _ operand _ _) => [.node operand]
  | .node (.call _ _ args) => args.map .node
  | .node (.memberCall _ target _ args) => .node target :: args.map .node
  | .node (.list _ elements) => elements.map .node
  | .node (.struct _ _ entries) => entries.map .entry
  | .node (.comprehension _ _ _ range _ init condition step result) =>
    [.node range, .node init, .node condition, .node step, .node result]
  | .entry (.map _ key value _) => [.node key, .node value]
  | .entry (.field _ _ value _) => [.node value]

/-- The elements of an element are those of its parts and itself. -/
theorem elements_eq (element : Element) :
    element.elements = element.parts.flatMap elements ++ [element] := by
  rcases element with tree | member
  · cases tree <;>
      simp [elements, parts, Expr.elements, Expr.elementsAll_eq, Entry.elementsAll_eq,
        List.flatMap_map]
  · cases member <;> simp [elements, parts, Entry.elements]

/-- The ids beneath an element are those of its parts. -/
theorem below_eq (element : Element) : element.below = element.parts.flatMap ids := by
  rcases element with tree | member
  · cases tree <;>
      simp [below, ids, parts, Expr.ids, Expr.idsAll_eq, Entry.idsAll_eq, List.flatMap_map]
  · cases member <;> simp [below, ids, parts, Entry.ids]

/-- The ids of an element are its own and those beneath it. -/
theorem ids_eq (element : Element) : element.ids = element.id :: element.below := by
  rcases element with tree | member
  · cases tree <;> rfl
  · cases member <;> rfl

end Render.Element

/-! ### Every node and every entry -/

/-- The entries of a struct; other nodes have none. -/
def Expr.entries : Expr → List Entry
  | .struct _ _ entries => entries
  | _ => []

/-- A node with the entries that it has. -/
def Expr.withEntries (node : Expr) : List Element := .node node :: node.entries.map .entry

/-- What stands after its parts can be put before them. -/
theorem perm_cons_of_concat {α : Type} {parts parts' : List α} (same : parts.Perm parts')
    (whole : α) : (parts ++ [whole]).Perm (whole :: parts') :=
  (List.perm_append_singleton whole parts).trans (same.cons whole)

mutual

/-- **The elements of a tree are its nodes and the entries of these.** -/
theorem Expr.elements_perm :
    (tree : Expr) → tree.elements.Perm (tree.nodes.flatMap Expr.withEntries)
  | .literal _ _ => .refl _
  | .ident _ _ => .refl _
  | .select _ operand _ _ => perm_cons_of_concat operand.elements_perm _
  | .call _ _ args => perm_cons_of_concat (Expr.elementsAll_perm args) _
  | .memberCall id target function args => by
    have parts := target.elements_perm.append (Expr.elementsAll_perm args)
    rw [← List.flatMap_append] at parts
    exact perm_cons_of_concat parts _
  | .list _ elements => perm_cons_of_concat (Expr.elementsAll_perm elements) _
  | .struct _ _ entries => perm_cons_of_concat (Entry.elementsAll_perm entries) _
  | .comprehension id iterVar iterVar2 range accuVar init condition step result => by
    have parts := (((range.elements_perm.append init.elements_perm).append
      condition.elements_perm).append step.elements_perm).append result.elements_perm
    simp only [← List.flatMap_append] at parts
    exact perm_cons_of_concat parts _

theorem Expr.elementsAll_perm : (trees : List Expr) →
    (Expr.elementsAll trees).Perm ((Expr.nodesAll trees).flatMap Expr.withEntries)
  | [] => .refl _
  | first :: rest => by
    rw [Expr.elementsAll, Expr.nodesAll, List.flatMap_append]
    exact first.elements_perm.append (Expr.elementsAll_perm rest)

/-- The elements of an entry are itself and the nodes within, each with its entries. -/
theorem Entry.elements_perm : (entry : Entry) →
    entry.elements.Perm (.entry entry :: entry.nodes.flatMap Expr.withEntries)
  | .map _ key value _ => by
    have parts := key.elements_perm.append value.elements_perm
    rw [← List.flatMap_append] at parts
    exact perm_cons_of_concat parts _
  | .field _ _ value _ => perm_cons_of_concat value.elements_perm _

theorem Entry.elementsAll_perm : (entries : List Entry) → (Entry.elementsAll entries).Perm
    (entries.map .entry ++ (Entry.nodesAll entries).flatMap Expr.withEntries)
  | [] => .refl _
  | first :: rest => by
    rw [Entry.elementsAll, Entry.nodesAll, List.flatMap_append, List.map_cons, List.cons_append]
    refine (first.elements_perm.append (Entry.elementsAll_perm rest)).trans ?_
    exact (List.perm_append_comm_assoc _ _ _).cons _

end

mutual

/-- **The ids of the elements of a tree are its ids.** -/
theorem Expr.elements_ids_perm :
    (tree : Expr) → (tree.elements.map Element.id).Perm tree.ids
  | .literal _ _ => .refl _
  | .ident _ _ => .refl _
  | .select _ operand _ _ => by
    rw [Expr.elements, List.map_append]
    exact perm_cons_of_concat operand.elements_ids_perm _
  | .call _ _ args => by
    rw [Expr.elements, List.map_append]
    exact perm_cons_of_concat (Expr.elementsAll_ids_perm args) _
  | .memberCall _ target _ args => by
    rw [Expr.elements, List.map_append, List.map_append]
    exact perm_cons_of_concat
      (target.elements_ids_perm.append (Expr.elementsAll_ids_perm args)) _
  | .list _ elements => by
    rw [Expr.elements, List.map_append]
    exact perm_cons_of_concat (Expr.elementsAll_ids_perm elements) _
  | .struct _ _ entries => by
    rw [Expr.elements, List.map_append]
    exact perm_cons_of_concat (Entry.elementsAll_ids_perm entries) _
  | .comprehension _ _ _ range _ init condition step result => by
    simp only [Expr.elements, List.map_append]
    exact perm_cons_of_concat ((((range.elements_ids_perm.append init.elements_ids_perm).append
      condition.elements_ids_perm).append step.elements_ids_perm).append
        result.elements_ids_perm) _

theorem Expr.elementsAll_ids_perm :
    (trees : List Expr) → ((Expr.elementsAll trees).map Element.id).Perm (Expr.idsAll trees)
  | [] => .refl _
  | first :: rest => by
    rw [Expr.elementsAll, List.map_append]
    exact first.elements_ids_perm.append (Expr.elementsAll_ids_perm rest)

theorem Entry.elements_ids_perm :
    (entry : Entry) → (entry.elements.map Element.id).Perm entry.ids
  | .map _ key value _ => by
    rw [Entry.elements, List.map_append, List.map_append]
    exact perm_cons_of_concat (key.elements_ids_perm.append value.elements_ids_perm) _
  | .field _ _ value _ => by
    rw [Entry.elements, List.map_append]
    exact perm_cons_of_concat value.elements_ids_perm _

theorem Entry.elementsAll_ids_perm :
    (entries : List Entry) → ((Entry.elementsAll entries).map Element.id).Perm (Entry.idsAll entries)
  | [] => .refl _
  | first :: rest => by
    rw [Entry.elementsAll, List.map_append]
    exact first.elements_ids_perm.append (Entry.elementsAll_ids_perm rest)

end

end CelTree
