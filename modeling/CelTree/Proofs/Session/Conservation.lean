/-
**Conservation of ids.**

Where every result is used at most once, the ids of the results that are still unused, and those
that expansions drop, are all ids that were ever allocated, each once.

* `Session.liveIds`: the ids of the results that are not used yet.
* `Session.dropped`: the ids that the expansions of a run drop.
* `Performs.ids_perm`: what one operation does to the ids of its parts.
* `Accounts`: the invariant of a linear run, kept by each operation (`Accounts.step`).
* **`run_conserves_ids`** — in every linear run from a new builder, ids are conserved, by the run as
  a whole and by each of its operations.
-/

import CelTree.Proofs.Builder.Ids
import CelTree.Proofs.Session.Operation

namespace CelTree

/-- The ids of a result. Plans have none. -/
def Item.ids : Item → List Int
  | .node tree => tree.ids
  | .entry held => held.ids
  | .plan _ => []
  | .planEntry _ => []

namespace Session

/-- The ids of what a register holds. -/
def idsAt (session : Session) (register : Nat) : List Int :=
  ((session.itemAt register).map Item.ids).getD []

/-- The registers whose results are not among those used. -/
def unused (session : Session) (used : List Nat) : List Nat :=
  (List.range session.registers.length).filter (· ∉ used)

/-- The ids of the results that are not used yet. -/
def liveIds (session : Session) (used : List Nat) : List Int :=
  (session.unused used).flatMap session.idsAt

/-- The ids that a step drops. -/
def droppedBy (session : Session) (step : Step) : List Int :=
  ((session.partsOf step).map (NodeOperation.droppedIds session.builder)).getD []

/-- The ids that steps drop, one after the other. -/
def dropped (session : Session) : List Step → List Int
  | [] => []
  | first :: rest => session.droppedBy first ++ (session.step first).2.dropped rest

/-! ### Parts -/

theorem flatMap_map_node_ids (trees : List Expr) :
    (trees.map Item.node).flatMap Item.ids = Expr.idsAll trees := by
  rw [Expr.idsAll_eq, List.flatMap_map]
  rfl

theorem items_ids (parts : NodeOperation Expr Entry) :
    parts.items.flatMap Item.ids = parts.partIds := by
  cases parts with
  | literal source => rfl
  | ident name => rfl
  | select operand field => exact List.append_nil _
  | memberCall target function args =>
    rw [NodeOperation.items, List.flatMap_cons, flatMap_map_node_ids]
    rfl
  | index operand subscript =>
    rw [NodeOperation.items, List.flatMap_cons, List.flatMap_cons, List.flatMap_nil,
      List.append_nil]
    rfl
  | struct message entries =>
    rw [NodeOperation.items, NodeOperation.partIds, Entry.idsAll_eq, List.flatMap_map]
    rfl
  | _ => exact flatMap_map_node_ids _

theorem items_ids_entry (parts : EntryOperation Expr) :
    parts.items.flatMap Item.ids = parts.partIds := by
  cases parts with
  | map key value optional =>
    rw [EntryOperation.items, List.flatMap_cons, List.flatMap_cons, List.flatMap_nil,
      List.append_nil]
    rfl
  | field name value optional => exact List.append_nil _

/-- Registers hold the ids of the items that they hold. -/
theorem Holds.flatMap_idsAt {session : Session} {registers : List Nat} {items : List Item}
    (holds : session.Holds registers items) :
    registers.flatMap session.idsAt = items.flatMap Item.ids := by
  induction holds with
  | nil => rfl
  | cons here _ ih =>
    rw [List.flatMap_cons, List.flatMap_cons, ih, idsAt, here]
    rfl

/-! ### One operation -/

/-- An operation leaves the ids of the registers that are filled already. -/
theorem Performs.idsAt_of_lt {session next : Session} {step : Step}
    (performs : session.Performs step next) {register : Nat}
    (old : register < session.registers.length) :
    next.idsAt register = session.idsAt register := by
  rw [idsAt, idsAt, performs.itemAt_of_lt old]

theorem idsAt_push (session : Session) (item : Option Item) :
    (session.push item).idsAt session.registers.length = (item.map Item.ids).getD [] := by
  rw [idsAt, itemAt_push_length]

/-- An operation refers to registers that exist. -/
theorem Performs.references_lt {session next : Session} {step : Step}
    (performs : session.Performs step next) :
    ∀ register ∈ step.references, register < session.registers.length := by
  cases performs with
  | node resolved effect => exact (holds_of_resolve? resolved).lt_length
  | refused value => exact fun _ member => by cases member
  | entry resolved => exact (holds_of_resolve?_entry resolved).lt_length
  | constant => exact fun _ member => by cases member

/-- An operation takes no ids back. -/
theorem Performs.lastId_le {session next : Session} {step : Step}
    (performs : session.Performs step next) :
    session.builder.lastId ≤ next.builder.lastId := by
  cases performs with
  | node resolved effect => exact effect.lastId_le
  | refused value => exact Int.le_refl _
  | entry resolved => exact Int.le_add_one (Int.le_refl _)
  | constant => exact Int.le_add_one (Int.le_refl _)

/-- **An operation loses and doubles no id.** Its result and what it drops hold exactly the new ids
and those of the results that it uses. -/
theorem Performs.ids_perm {session next : Session} {step : Step}
    (performs : session.Performs step next) :
    (next.idsAt session.registers.length ++ session.droppedBy step).Perm
      (idsBetween session.builder.lastId next.builder.lastId ++
        step.references.flatMap session.idsAt) := by
  cases performs with
  | @node offset operation parts tree after resolved effect =>
    have parted : operation.references.flatMap session.idsAt = parts.partIds :=
      (holds_of_resolve? resolved).flatMap_idsAt.trans (items_ids parts)
    rw [idsAt_push { session with builder := after }, droppedBy, partsOf, resolved, Step.references,
      parted]
    exact effect.ids_perm
  | refused value =>
    rw [idsAt_push]
    show [].Perm (idsBetween session.builder.lastId session.builder.lastId ++ [])
    rw [idsBetween_self]
    exact .refl []
  | @entry offset operation parts resolved =>
    have parted : operation.references.flatMap session.idsAt = parts.partIds :=
      (holds_of_resolve?_entry resolved).flatMap_idsAt.trans (items_ids_entry parts)
    rw [idsAt_push { session with builder := _ }, Step.references, parted]
    show ((parts.entry (session.builder.lastId + 1)).ids ++ []).Perm
      (idsBetween session.builder.lastId (session.builder.lastId + 1) ++ parts.partIds)
    rw [EntryOperation.entry_ids, idsBetween_succ, List.append_nil]
    exact .refl _
  | constant =>
    rw [idsAt_push { session with builder := _ }]
    show [session.builder.lastId + 1].Perm
      (idsBetween session.builder.lastId (session.builder.lastId + 1) ++ [])
    rw [idsBetween_succ]
    exact .refl _

/-! ### Runs -/

theorem mem_unused {session : Session} {used : List Nat} {register : Nat} :
    register ∈ session.unused used ↔ register < session.registers.length ∧ register ∉ used := by
  simp only [unused, List.mem_filter, List.mem_range, decide_eq_true_eq]

/-- Taking results into use splits the unused ones. -/
theorem unused_perm {session : Session} {used more : List Nat} (once : (used ++ more).Nodup)
    (within : ∀ register ∈ more, register < session.registers.length) :
    (session.unused used).Perm (more ++ session.unused (used ++ more)) := by
  obtain ⟨-, moreOnce, apart⟩ := List.nodup_append'.mp once
  refine (List.perm_ext_iff_of_nodup (List.nodup_range.filter _) ?_).mpr fun register => ?_
  · refine List.nodup_append'.mpr ⟨moreOnce, List.nodup_range.filter _, ?_⟩
    intro register inMore inUnused
    rw [mem_unused, List.mem_append, not_or] at inUnused
    exact inUnused.2.2 inMore
  · show register ∈ session.unused used ↔ register ∈ more ++ session.unused (used ++ more)
    rw [List.mem_append, mem_unused, mem_unused, List.mem_append, not_or]
    constructor
    · rintro ⟨old, notUsed⟩
      by_cases inMore : register ∈ more
      · exact .inl inMore
      · exact .inr ⟨old, notUsed, inMore⟩
    · rintro (inMore | ⟨old, notUsed, -⟩)
      · exact ⟨within register inMore, fun inUsed => apart inUsed inMore⟩
      · exact ⟨old, notUsed⟩

/-- An operation adds its own register to the unused ones. -/
theorem Performs.unused_eq {session next : Session} {step : Step}
    (performs : session.Performs step next) {used : List Nat}
    (within : ∀ register ∈ used, register < session.registers.length) :
    next.unused used = session.unused used ++ [session.registers.length] := by
  obtain ⟨item, filled⟩ := performs.registers
  have new : session.registers.length ∉ used := fun member => absurd (within _ member) (by omega)
  rw [unused, unused, filled, List.length_append, List.length_singleton,
    List.range_succ, List.filter_append, List.filter_singleton, decide_eq_true new]
  rfl

/-- Some results are used, and the ids of the others and some dropped ids are all that were ever
allocated, each once. -/
structure Accounts (session : Session) (used : List Nat) (dropped : List Int) : Prop where
  building : session.planning = false
  within : ∀ register ∈ used, register < session.registers.length
  start : 0 ≤ session.builder.lastId
  balance : (session.liveIds used ++ dropped).Perm (idsBetween 0 session.builder.lastId)

/-- A new session has allocated nothing and dropped nothing. -/
theorem accounts_fresh (options : Options) : (fresh options).Accounts [] [] where
  building := rfl
  within _ member := by cases member
  start := Int.le_refl 0
  balance := .refl []

/-- **An operation on unused results keeps the account.** -/
theorem Accounts.step {session next : Session} {used : List Nat} {dropped : List Int}
    (accounts : session.Accounts used dropped) {step : Step}
    (performs : session.Performs step next) (once : (used ++ step.references).Nodup) :
    next.Accounts (used ++ step.references) (dropped ++ session.droppedBy step) := by
  obtain ⟨building, within, start, balance⟩ := accounts
  have parts := performs.references_lt
  have within' : ∀ register ∈ used ++ step.references,
      register < session.registers.length := by
    intro register member
    rcases List.mem_append.mp member with inUsed | inParts
    · exact within register inUsed
    · exact parts register inParts
  refine ⟨performs.planning.trans building, ?_, start.trans performs.lastId_le, ?_⟩
  · obtain ⟨item, filled⟩ := performs.registers
    intro register member
    have old := within' register member
    rw [filled, List.length_append]
    omega
  · -- the live ids before are those of the parts and of the results that stay unused
    have before : (session.liveIds used).Perm (step.references.flatMap session.idsAt ++
        (session.unused (used ++ step.references)).flatMap session.idsAt) := by
      rw [← List.flatMap_append]
      exact (unused_perm once parts).flatMap_right _
    have after : next.liveIds (used ++ step.references) =
        (session.unused (used ++ step.references)).flatMap session.idsAt ++
          next.idsAt session.registers.length := by
      rw [liveIds, performs.unused_eq within', List.flatMap_append, List.flatMap_singleton]
      congr 1
      exact List.flatMap_congr fun register member =>
        performs.idsAt_of_lt (mem_unused.mp member).1
    have new := performs.ids_perm
    have all := idsBetween_append start performs.lastId_le
    rw [after]
    rw [← Multiset.coe_eq_coe] at balance before new all ⊢
    simp only [← Multiset.coe_add] at balance before new all ⊢
    generalize ((session.unused (used ++ step.references)).flatMap session.idsAt : Multiset Int) =
      left at before ⊢
    calc left + (next.idsAt session.registers.length : Multiset Int) +
          ((dropped : Multiset Int) + (session.droppedBy step : Multiset Int))
        = (next.idsAt session.registers.length + session.droppedBy step) + (left + dropped) := by
          abel
      _ = (step.references.flatMap session.idsAt + left) + dropped +
            idsBetween session.builder.lastId next.builder.lastId := by
          rw [new]
          abel
      _ = idsBetween 0 next.builder.lastId := by rw [← before, balance, all]

/-- **A linear run keeps the account.** -/
theorem Accounts.run {session : Session} {used : List Nat} {dropped : List Int}
    (accounts : session.Accounts used dropped) (steps : List Step)
    (operations : ∀ step ∈ steps, step.isOperation = true)
    (atHand : .badReference ∉ (session.run steps).1)
    (once : (used ++ steps.flatMap Step.references).Nodup) :
    (session.run steps).2.Accounts (used ++ steps.flatMap Step.references)
      (dropped ++ session.dropped steps) := by
  induction steps generalizing session used dropped with
  | nil =>
    rw [List.flatMap_nil, List.append_nil, Session.dropped, List.append_nil]
    exact accounts
  | cons first rest ih =>
    rw [List.flatMap_cons, ← List.append_assoc] at once ⊢
    rw [Session.dropped, ← List.append_assoc]
    rw [Session.run, List.mem_cons, not_or] at atHand
    have performs := step_performs accounts.building (operations first List.mem_cons_self)
      (Ne.symm atHand.1)
    exact ih (accounts.step performs (List.nodup_append.mp once).1)
      (fun step member => operations step (List.mem_cons_of_mem _ member)) atHand.2 once

theorem Linear.accounts {options : Options} {steps : List Step}
    (linear : (fresh options).Linear steps) :
    ((fresh options).run steps).2.Accounts (steps.flatMap Step.references)
      ((fresh options).dropped steps) :=
  (accounts_fresh options).run steps linear.operations linear.atHand linear.once

/-- Each step of a linear run is performed. -/
theorem Linear.performs {options : Options} {before after : List Step} {step : Step}
    (linear : (fresh options).Linear (before ++ step :: after)) :
    ((fresh options).run before).2.Performs step
      (((fresh options).run before).2.step step).2 := by
  have atHand := linear.atHand
  rw [run_append, Session.run, List.mem_append, List.mem_cons, not_or, not_or] at atHand
  refine step_performs linear.before.accounts.building ?_ (Ne.symm atHand.2.1)
  exact linear.operations step (List.mem_append_right _ List.mem_cons_self)

/-- **Conservation of ids.** In a linear run from a new builder, the ids of the results that are not
used and the ids that expansions drop are all different, and they are all ids that were allocated.
Each operation conserves ids by itself: its result and what it drops hold exactly the ids that it
allocates and those of the results that it uses, with multiplicity. -/
theorem run_conserves_ids (options : Options) (steps : List Step)
    (linear : (fresh options).Linear steps) :
    let last := ((fresh options).run steps).2
    let live := last.liveIds (steps.flatMap Step.references)
    let dropped := (fresh options).dropped steps
    (live ++ dropped).Nodup ∧
      (∀ id, id ∈ live ∨ id ∈ dropped ↔ 1 ≤ id ∧ id ≤ last.builder.lastId) ∧
      ∀ before step after, steps = before ++ step :: after →
        let session := ((fresh options).run before).2
        let next := (session.step step).2
        (next.idsAt session.registers.length ++ session.droppedBy step).Perm
          (idsBetween session.builder.lastId next.builder.lastId ++
            step.references.flatMap session.idsAt) := by
  intro last live dropped
  have balance := linear.accounts.balance
  refine ⟨balance.nodup_iff.mpr (nodup_idsBetween _ _), fun id => ?_, ?_⟩
  · rw [← List.mem_append, balance.mem_iff, mem_idsBetween]
    exact Iff.rfl
  · rintro before step after rfl
    exact linear.performs.ids_perm

theorem run_conserves_ids_testInFold :
    let last := ((fresh {}).run testInFold).2
    (fresh {}).Linear testInFold ∧
      last.liveIds (testInFold.flatMap Step.references) =
        [14, 1, 12, 11, 10, 9, 8, 7, 4, 3, 13] ∧
      (fresh {}).dropped testInFold = [5, 6, 2] ∧ last.builder.lastId = 14 ∧
      (last.liveIds (testInFold.flatMap Step.references) ++ (fresh {}).dropped testInFold).Nodup :=
  ⟨linear_testInFold, rfl, rfl, rfl, (run_conserves_ids {} testInFold linear_testInFold).1⟩

end Session

end CelTree
