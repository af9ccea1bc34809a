/-
**Forcing is the same wherever the ids start.**

A construction does not look at the ids that it uses: started from a last id further on, it results
in the same tree, records the same calls and takes as many ids, all of them moved by the distance.

* `HasIds`: what a construction can result in.
* `Attempt.Translates`: constructions, one for each distance by which the parts they use are moved,
  that are the same but for this distance. `Translates.bind` puts one after the other, and the base
  from which the second one starts is moved with the first one.
* `Plan.force_translates`: so is forcing a plan.
* **`Plan.force_translate`** — two runs of one plan from any two states are images of each other.
-/

import CelTree.Plan.Force
import CelTree.Proofs.Builder.Translation

namespace CelTree

/-! ### Results -/

/-- What a construction can result in: it has ids, and they can be replaced. -/
class HasIds (α : Type) where
  mapIds : (Int → Int) → α → α
  ids : α → List Int

instance : HasIds Expr := ⟨Expr.mapIds, Expr.ids⟩

instance : HasIds Entry := ⟨Entry.mapIds, Entry.ids⟩

instance : HasIds (List Expr) := ⟨fun f => List.map (Expr.mapIds f), Expr.idsAll⟩

instance : HasIds (List Entry) := ⟨fun f => List.map (Entry.mapIds f), Entry.idsAll⟩

namespace Attempt

variable {α β : Type} [HasIds α] [HasIds β] {options : Options} {base : Int}

/-- The constructions, one for each distance, do the same from any state whose last id is this
distance behind the base, and everything is moved by it. All new ids are positive, and none but
these and the ids of the parts are used. -/
def Translates (options : Options) (base : Int) (family : Int → Attempt α) : Prop :=
  ∃ (outcome : Except BuildError α) (additions : Additions),
    additions.Above 0 ∧ (∀ value, outcome = .ok value → ∀ id ∈ HasIds.ids value, 0 < id) ∧
      ∀ (distance : Int) (info : SourceInfo),
        (family distance).run.run ⟨options, base + distance, info⟩ =
          (outcome.map (HasIds.mapIds (· + distance)),
            (Builder.mk options (base + distance) info).add (additions.mapIds (· + distance)))

theorem Translates.pure (value : α) (above : ∀ id ∈ HasIds.ids value, 0 < id) :
    Translates options base fun distance => Pure.pure (HasIds.mapIds (· + distance) value) := by
  refine ⟨.ok value, .none, .none, fun _ same => ?_, fun distance info => ?_⟩
  · cases same
    exact above
  · rw [Additions.mapIds_none, Builder.add_none]
    rfl

/-- Additions that are moved as the last id is bring it as far. -/
theorem add_mapIds_eq (distance : Int) (info : SourceInfo) (additions : Additions) :
    (Builder.mk options (base + distance) info).add (additions.mapIds (· + distance)) =
      ⟨options, base + additions.placed.length + distance,
        info.add (additions.mapIds (· + distance))⟩ := by
  rw [Builder.add, Additions.mapIds, List.length_map, Int.add_right_comm]

/-- Families of constructions that translate, one after the other. -/
theorem Translates.bind {family : Int → Attempt α} {rest : Int → α → Attempt β}
    (low : 0 ≤ base) (one : Translates options base family)
    (two : ∀ value, (∀ id ∈ HasIds.ids value, 0 < id) → ∀ base', 0 ≤ base' →
      Translates options base' fun distance => rest distance (HasIds.mapIds (· + distance) value)) :
    Translates options base fun distance => family distance >>= rest distance := by
  obtain ⟨outcome, additions, above, aboveValue, ran⟩ := one
  cases outcome with
  | error error =>
    refine ⟨.error error, additions, above, fun _ never => (by cases never), fun distance info => ?_⟩
    rw [run_bind, ran]
    rfl
  | ok value =>
    obtain ⟨outcome', additions', above', aboveValue', ran'⟩ :=
      two value (aboveValue value rfl) (base + additions.placed.length) (by omega)
    refine ⟨outcome', additions.append additions', above.append above', aboveValue',
      fun distance info => ?_⟩
    rw [run_bind_ok (ran distance info), add_mapIds_eq, ran', ← add_mapIds_eq,
      Builder.add_append, Additions.mapIds_append]

/-- A step on shifted parts is the shifted step. -/
theorem Translates.node (offset : Offset) (operation : NodeOperation Expr Entry) (low : 0 ≤ base)
    (above : ∀ id ∈ operation.partIds, 0 < id) :
    Translates options base fun distance =>
      (operation.mapParts (Expr.mapIds (· + distance)) (Entry.mapIds (· + distance))).perform
        offset := by
  have effect := operation.perform_effect offset ⟨options, base, {}⟩
  generalize (operation.perform offset).run.run ⟨options, base, {}⟩ = ran at effect
  obtain ⟨outcome, after⟩ := ran
  obtain ⟨additions, aboveAll, moved⟩ := effect.translate low above
  refine ⟨outcome, additions, aboveAll, fun tree same id member => ?_, fun distance info => ?_⟩
  · -- an id of the result is new, or it is one of a part
    obtain rfl : outcome = .ok tree := same
    have held := effect.ids_perm.subset (List.mem_append_left _ member)
    rcases List.mem_append.mp held with new | old
    · exact Int.lt_of_le_of_lt low (mem_idsBetween.mp new).1
    · exact above id old
  · exact (moved distance info).perform_run

theorem Translates.entry (offset : Offset) (operation : EntryOperation Expr) (low : 0 ≤ base)
    (above : ∀ id ∈ operation.partIds, 0 < id) :
    Translates options base fun distance =>
      liftM ((operation.mapParts (Expr.mapIds (· + distance))).perform offset) := by
  refine ⟨.ok (operation.entry (base + 1)), .placing base offset 1,
    Additions.placing_above low offset 1, fun entry same id member => ?_, fun distance info => ?_⟩
  · cases same
    have held : id ∈ (base + 1) :: operation.partIds := by
      rw [← operation.entry_ids]
      exact member
    rcases List.mem_cons.mp held with rfl | old
    · omega
    · exact above id old
  · have written := operation.entry_mapIds (· + distance) (base + 1)
    rw [Int.add_right_comm] at written
    have placed := Builder.advanceBy_eq_add ⟨options, base + distance, info⟩ offset 1
    rw [run_lift, EntryOperation.perform_run, written, Additions.placing_mapIds, ← placed]
    rfl

end Attempt

open Attempt

/-! ### Plans -/

section Plans

variable {options : Options}

mutual

/-- **Forcing a plan is the same from any last id.** -/
theorem Plan.force_translates :
    (plan : Plan) → (base : Int) → 0 ≤ base → Translates options base fun _ => plan.force
  | .literal offset source, _, low => .node offset (.literal source) low (List.forall_mem_nil _)
  | .ident offset name, _, low => .node offset (.ident name) low (List.forall_mem_nil _)
  | .select offset operand field, base, low => by
    simp only [Plan.force]
    exact (operand.force_translates base low).bind low fun tree above _ low' =>
      .node offset (.select tree field) low' above
  | .call offset function args, base, low => by
    simp only [Plan.force]
    exact (Plan.forceAll_translates args base low).bind low fun trees above _ low' =>
      .node offset (.call function trees) low' above
  | .memberCall offset target function args, base, low => by
    simp only [Plan.force]
    refine (target.force_translates base low).bind low fun tree above base' low' => ?_
    exact (Plan.forceAll_translates args base' low').bind low' fun trees above' _ low'' =>
      .node offset (.memberCall tree function trees) low''
        (List.forall_mem_append.mpr ⟨above, above'⟩)
  | .operatorCall offset operator args, base, low => by
    simp only [Plan.force]
    exact (Plan.forceAll_translates args base low).bind low fun trees above _ low' =>
      .node offset (.operatorCall operator trees) low' above
  | .index offset operand subscript, base, low => by
    simp only [Plan.force]
    refine (operand.force_translates base low).bind low fun tree above base' low' => ?_
    exact (subscript.force_translates base' low').bind low' fun tree' above' _ low'' =>
      .node offset (.index tree tree') low'' (List.forall_mem_append.mpr ⟨above, above'⟩)
  | .list offset elements, base, low => by
    simp only [Plan.force]
    exact (Plan.forceAll_translates elements base low).bind low fun trees above _ low' =>
      .node offset (.list trees) low' above
  | .struct offset message entries, base, low => by
    simp only [Plan.force]
    exact (PlanEntry.forceAll_translates entries base low).bind low fun built above _ low' =>
      .node offset (.struct message built) low' above

theorem Plan.forceAll_translates : (plans : List Plan) → (base : Int) → 0 ≤ base →
    Translates options base fun _ => Plan.forceAll plans
  | [], _, _ => .pure [] (List.forall_mem_nil _)
  | first :: rest, base, low => by
    simp only [Plan.forceAll]
    refine (first.force_translates base low).bind low fun tree above base' low' => ?_
    exact (Plan.forceAll_translates rest base' low').bind low' fun trees above' _ _ =>
      .pure (tree :: trees) (List.forall_mem_append.mpr ⟨above, above'⟩)

theorem PlanEntry.force_translates :
    (entry : PlanEntry) → (base : Int) → 0 ≤ base → Translates options base fun _ => entry.force
  | .map offset key value optional, base, low => by
    simp only [PlanEntry.force]
    refine (key.force_translates base low).bind low fun tree above base' low' => ?_
    exact (value.force_translates base' low').bind low' fun tree' above' _ low'' =>
      .entry offset (.map tree tree' optional) low'' (List.forall_mem_append.mpr ⟨above, above'⟩)
  | .field offset name value optional, base, low => by
    simp only [PlanEntry.force]
    exact (value.force_translates base low).bind low fun tree above _ low' =>
      .entry offset (.field name tree optional) low' above

theorem PlanEntry.forceAll_translates : (entries : List PlanEntry) → (base : Int) → 0 ≤ base →
    Translates options base fun _ => PlanEntry.forceAll entries
  | [], _, _ => .pure [] (List.forall_mem_nil _)
  | first :: rest, base, low => by
    simp only [PlanEntry.forceAll]
    refine (first.force_translates base low).bind low fun entry above base' low' => ?_
    exact (PlanEntry.forceAll_translates rest base' low').bind low' fun built above' _ _ =>
      .pure (entry :: built) (List.forall_mem_append.mpr ⟨above, above'⟩)

end

end Plans

/-- **Construction does not look at the ids.** Two states with the same options whose last ids are
`n` and `m` force a plan to images of each other under moving every id by `m - n`, or they refuse it
with the same error. Either way they take as many ids, and what they add to the positions and to the
written calls, all of it at new ids, are such images too. -/
theorem Plan.force_translate (plan : Plan) (options : Options) (n m : Int)
    (info info' : SourceInfo) :
    let first := plan.force.run.run { options, lastId := n, info }
    let second := plan.force.run.run { options, lastId := m, info := info' }
    second.1 = first.1.map (Expr.mapIds (· + (m - n))) ∧
      second.2.lastId - m = first.2.lastId - n ∧
      ∃ additions : Additions, additions.Above n ∧ first.2.info = info.add additions ∧
        second.2.info = info'.add (additions.mapIds (· + (m - n))) := by
  have translates : Translates options 0 fun _ => plan.force :=
    plan.force_translates 0 (Int.le_refl 0)
  obtain ⟨outcome, additions, above, -, ran⟩ := translates
  have runs : ∀ (last : Int) (info : SourceInfo), plan.force.run.run ⟨options, last, info⟩ =
      (outcome.map (Expr.mapIds (· + last)),
        (Builder.mk options last info).add (additions.mapIds (· + last))) := by
    intro last info
    have moved := ran last info
    rw [Int.zero_add] at moved
    exact moved
  have onwards : (fun id => id + n + (m - n)) = fun id : Int => id + m :=
    funext fun id => by omega
  intro first second
  rw [show first = _ from runs n info, show second = _ from runs m info']
  refine ⟨?_, ?_, additions.mapIds (· + n), ?_, rfl, ?_⟩
  · cases outcome with
    | error error => rfl
    | ok tree =>
      show Except.ok (tree.mapIds _) = Except.ok ((tree.mapIds _).mapIds _)
      rw [Expr.mapIds_mapIds, onwards]
  · show m + ((additions.placed.map _).length : Int) - m = n + ((additions.placed.map _).length : Int) - n
    rw [List.length_map, List.length_map]
    omega
  · have moved := above.mapIds (f := (· + n)) fun id positive => Int.add_lt_add_right positive n
    rw [Int.zero_add] at moved
    exact moved
  · rw [Additions.mapIds_mapIds, onwards]
    rfl

end CelTree
