/-
**A step over moved ids.**

What a step adds to a builder is a list of placed ids and a list of recorded calls. Over parts with
ids moved by a distance, and from a last id moved by the same distance, a step has the same effect,
all of it moved: the ids it takes, the calls it records, and the ids at which it records them.

* `Additions`, `Builder.add`: what is added, and the builder with it. `add_append` puts one addition
  after the other, `Additions.mapIds` replaces all ids.
* `advanceBy_eq_add`, `recorded_eq_add`: allocations and records as additions.
* **`Effect.translate`** — the effect of a step, wherever its ids are moved.
-/

import CelTree.Proofs.Builder.Ids
import CelTree.Proofs.Macro.MapIds

namespace CelTree

/-! ### Additions -/

/-- The map with several values replaced or added; of several values of one id the last one
counts. -/
def IdMap.insertAll {α : Type} (map : IdMap α) (entries : List (Int × α)) : IdMap α :=
  entries.foldl (fun map entry => map.insert entry.1 entry.2) map

/-- What a construction adds to a builder: the ids that it takes with their offsets, and the written
calls that it records, both in order. -/
structure Additions where
  placed : List (Int × Offset)
  recorded : List (Int × Expr)

namespace Additions

/-- Nothing is added. -/
def none : Additions := ⟨[], []⟩

/-- One addition after the other. -/
def append (first second : Additions) : Additions :=
  ⟨first.placed ++ second.placed, first.recorded ++ second.recorded⟩

/-- The additions with every id replaced: those that are placed, those at which calls are recorded,
and all ids in these calls. -/
def mapIds (f : Int → Int) (additions : Additions) : Additions where
  placed := additions.placed.map fun entry => (f entry.1, entry.2)
  recorded := additions.recorded.map fun entry => (f entry.1, entry.2.mapIds f)

/-- Nothing is added at an id up to the given one. -/
structure Above (low : Int) (additions : Additions) : Prop where
  placed : ∀ entry ∈ additions.placed, low < entry.1
  recorded : ∀ entry ∈ additions.recorded, low < entry.1

variable {low : Int} {first second : Additions}

theorem Above.none : Above low Additions.none :=
  ⟨fun _ member => (by cases member), fun _ member => (by cases member)⟩

theorem Above.append (one : first.Above low) (two : second.Above low) :
    (first.append second).Above low :=
  ⟨List.forall_mem_append.mpr ⟨one.placed, two.placed⟩,
    List.forall_mem_append.mpr ⟨one.recorded, two.recorded⟩⟩

/-- Ids that keep their order stay above. -/
theorem Above.mapIds {f : Int → Int} (one : first.Above low)
    (ascends : ∀ id, low < id → f low < f id) : (first.mapIds f).Above (f low) := by
  refine ⟨fun entry member => ?_, fun entry member => ?_⟩
  · obtain ⟨entry', inside, rfl⟩ := List.mem_map.mp member
    exact ascends _ (one.placed entry' inside)
  · obtain ⟨entry', inside, rfl⟩ := List.mem_map.mp member
    exact ascends _ (one.recorded entry' inside)

theorem mapIds_none (f : Int → Int) : none.mapIds f = none := rfl

theorem mapIds_append (f : Int → Int) (first second : Additions) :
    (first.append second).mapIds f = (first.mapIds f).append (second.mapIds f) := by
  simp only [mapIds, append, List.map_append]

theorem mapIds_mapIds (f g : Int → Int) (additions : Additions) :
    (additions.mapIds f).mapIds g = additions.mapIds fun id => g (f id) := by
  simp only [mapIds, List.map_map, Function.comp_def, Expr.mapIds_mapIds]

/-- Ids after a first one, all at one offset. -/
def placing (first : Int) (offset : Offset) (count : Nat) : Additions :=
  ⟨(idsBetween first (first + count)).map fun id => (id, offset), []⟩

/-- One written call, if the options ask for it. -/
def recording (options : Options) (id : Int) (call : Expr) : Additions :=
  ⟨[], if options.recordCalls then [(id, call)] else []⟩

/-- The ids that are placed lie above the last one before. -/
theorem placing_above {start : Int} (low_le : low ≤ start) (offset : Offset) (count : Nat) :
    (placing start offset count).Above low := by
  refine ⟨fun entry member => ?_, fun _ member => (by cases member)⟩
  obtain ⟨id, inside, rfl⟩ := List.mem_map.mp member
  have new := (mem_idsBetween.mp inside).1
  show low < id
  omega

theorem recording_above {id : Int} (above : low < id) (options : Options) (call : Expr) :
    (recording options id call).Above low := by
  refine ⟨fun _ member => (by cases member), fun entry member => ?_⟩
  unfold recording at member
  split at member
  · obtain rfl := List.mem_singleton.mp member
    exact above
  · cases member

theorem placing_append (first : Int) (offset : Offset) (count more : Nat) :
    (placing first offset count).append (placing (first + count) offset more) =
      placing first offset (count + more) := by
  have joined : idsBetween first (first + count) ++
      idsBetween (first + count) (first + count + more) =
        idsBetween first (first + (count + more : Nat)) := by
    rw [idsBetween_append_eq (by omega) (by omega)]
    congr 1
    omega
  simp only [placing, append, ← List.map_append, joined, List.append_nil]

theorem placing_mapIds (distance first : Int) (offset : Offset) (count : Nat) :
    (placing first offset count).mapIds (· + distance) =
      placing (first + distance) offset count := by
  simp only [placing, mapIds, idsBetween_add, List.map_map, List.map_nil]
  congr 1
  refine List.map_congr_left fun index _ => ?_
  show (first + ((index : Int) + 1) + distance, offset) =
    (first + distance + ((index : Int) + 1), offset)
  rw [Int.add_right_comm]

/-- A call with other ids is recorded under the other id. -/
theorem recording_mapIds (f : Int → Int) (options : Options) (id : Int) (call : Expr) :
    (recording options id call).mapIds f = recording options (f id) (call.mapIds f) := by
  unfold recording mapIds
  split <;> rfl

end Additions

/-- What is recorded beside a tree, with the additions. -/
def SourceInfo.add (info : SourceInfo) (additions : Additions) : SourceInfo :=
  { info with
    positions := info.positions.insertAll additions.placed
    macroCalls := info.macroCalls.insertAll additions.recorded }

namespace Builder

/-- The builder with the additions; it has taken the ids that are placed. -/
def add (builder : Builder) (additions : Additions) : Builder :=
  { builder with
    lastId := builder.lastId + additions.placed.length
    info := builder.info.add additions }

theorem add_none (builder : Builder) : builder.add .none = builder := by
  show { builder with lastId := builder.lastId + 0 } = builder
  rw [Int.add_zero]

/-- Additions one after the other are added at once. -/
theorem add_append (builder : Builder) (first second : Additions) :
    (builder.add first).add second = builder.add (first.append second) := by
  simp only [add, SourceInfo.add, IdMap.insertAll, Additions.append, List.foldl_append,
    List.length_append, Nat.cast_add, Int.add_assoc]

theorem advance_advanceBy (builder : Builder) (offset : Offset) (count : Nat) :
    (builder.advance offset).advanceBy offset count = builder.advanceBy offset (count + 1) := by
  induction count with
  | zero => rfl
  | succ count ih => rw [advanceBy, ih, advanceBy.eq_2 _ _ (count + 1)]

/-- Ids that are placed at one offset, as an addition. -/
theorem advanceBy_eq_add (builder : Builder) (offset : Offset) (count : Nat) :
    builder.advanceBy offset count = builder.add (.placing builder.lastId offset count) := by
  induction count with
  | zero =>
    rw [Additions.placing, Nat.cast_zero, Int.add_zero, idsBetween_self]
    exact (builder.add_none).symm
  | succ count ih =>
    have last := builder.advanceBy_lastId offset count
    have one : (builder.advanceBy offset count).advance offset =
        (builder.advanceBy offset count).add
          (.placing (builder.advanceBy offset count).lastId offset 1) := by
      rw [Additions.placing, Nat.cast_one, idsBetween_succ]
      rfl
    rw [advanceBy, one, last, ih, add_append, Additions.placing_append]

/-- A call that is offered for the record, as an addition. -/
theorem recorded_eq_add (builder : Builder) (id : Int) (call : Expr) :
    builder.recorded id call = builder.add (.recording builder.options id call) := by
  unfold recorded Additions.recording
  split
  · show { builder with info := _ } = { builder with lastId := builder.lastId + 0, info := _ }
    rw [Int.add_zero]
    rfl
  · exact (builder.add_none).symm

end Builder

/-! ### Steps -/

namespace NodeOperation

open Additions

/-- Ids that are placed at one offset and a call that is offered for the record, with all ids moved
by a distance. -/
theorem recorded_advanceBy_eq_add {options : Options} {first distance : Int} (info : SourceInfo)
    (offset : Offset) (count : Nat) (id : Int) (call : Expr) :
    ((Builder.mk options (first + distance) info).advanceBy offset count).recorded (id + distance)
        (call.mapIds (· + distance)) =
      (Builder.mk options (first + distance) info).add
        (((placing first offset count).append (recording options id call)).mapIds
          (· + distance)) := by
  rw [Builder.recorded_eq_add, Builder.advanceBy_options, Builder.advanceBy_eq_add,
    Builder.add_append, mapIds_append, placing_mapIds, recording_mapIds]

/-- **A step over moved ids has its effect moved.** Everything that it adds is above whatever its
parts and the last id are above. -/
theorem Effect.translate {offset : Offset} {options : Options} {base low : Int} {info : SourceInfo}
    {operation : NodeOperation Expr Entry} {outcome : Except BuildError Expr} {after : Builder}
    (effect : operation.Effect offset ⟨options, base, info⟩ outcome after) (low_le : low ≤ base)
    (above : ∀ id ∈ operation.partIds, low < id) :
    ∃ additions : Additions, additions.Above low ∧ ∀ (distance : Int) (info' : SourceInfo),
      (operation.mapParts (Expr.mapIds (· + distance)) (Entry.mapIds (· + distance))).Effect offset
        ⟨options, base + distance, info'⟩ (outcome.map (Expr.mapIds (· + distance)))
        ((Builder.mk options (base + distance) info').add
          (additions.mapIds (· + distance))) := by
  cases effect with
  | refused value =>
    refine ⟨.none, .none, fun distance info' => ?_⟩
    rw [mapIds_none, Builder.add_none]
    exact .refused value
  | plain unexpanded written =>
    refine ⟨placing base offset 1, placing_above low_le offset 1, fun distance info' => ?_⟩
    have moved := operation.node_mapIds (· + distance) (base + 1)
    rw [written, Int.add_right_comm] at moved
    have placed := Builder.advanceBy_eq_add ⟨options, base + distance, info'⟩ offset 1
    rw [placing_mapIds, ← placed]
    exact .plain ((operation.isExpansion_mapIds options _).trans unexpanded) moved
  | @test id operand field testOnly enabled =>
    -- the record stands at the id of the select, which is a part and may be older than the base
    have selected : low < id := above id List.mem_cons_self
    refine ⟨(placing base offset 1).append (recording options id
        (.call (base + 1) Macro.has.function [.select id operand field testOnly])),
      (placing_above low_le offset 1).append (recording_above selected options _),
      fun distance info' => ?_⟩
    rw [← recorded_advanceBy_eq_add, Expr.mapIds, Int.add_right_comm base 1]
    exact .test enabled
  | @fold target function args found recognized =>
    have new : low < base + 1 + found.size := by omega
    refine ⟨(placing base offset (found.size + 1)).append (recording options
        (base + 1 + found.size) (.memberCall (base + 1) target function args)),
      (placing_above low_le offset _).append (recording_above new options _),
      fun distance info' => ?_⟩
    have recognized' := MacroCall.recognize_mapIds options (· + distance)
      (.memberCall (base + 1) target function args)
    rw [recognized, Expr.mapIds, Expr.mapIdsAll_eq, Int.add_right_comm,
      Option.map_some] at recognized'
    have folded : (found.mapIds (· + distance)).fold (base + 1 + distance) =
        (found.fold (base + 1)).mapIds (· + distance) :=
      found.fold_mapIds fun count => Int.add_right_comm _ _ _
    have last : base + 1 + (found.size : Int) + distance = base + distance + 1 + found.size := by
      omega
    rw [← recorded_advanceBy_eq_add, ← Builder.advance_advanceBy, Expr.mapIds, Expr.mapIdsAll_eq,
      Except.map, ← folded, last, Int.add_right_comm base 1 distance,
      ← found.size_mapIds (· + distance)]
    exact .fold recognized'

end NodeOperation

end CelTree
