/-
**Finite maps keyed by ids.**

The entries of a map stand in ascending order of their ids, so two maps with the same values are
equal.

* `IdMap.get?`, `IdMap.insert`: look-up and update.
* `get?_insert`: an update changes the value of its own id only.
* `size_insert`: an update adds one entry, unless it replaces one.
* `ext_get?`: maps that agree on every id are equal.
-/

import CelTree.Expr.Basic

namespace CelTree

/-- Values of some ids, in ascending order of the ids. -/
structure IdMap (α : Type) where
  entries : List (Int × α) := []
  ascending : entries.Pairwise (fun first second => first.1 < second.1) := by exact .nil

namespace IdMap

variable {α : Type}

/-- The map without entries. -/
def empty : IdMap α := {}

instance : Inhabited (IdMap α) := ⟨empty⟩

/-- The number of ids with a value. -/
def size (map : IdMap α) : Nat := map.entries.length

/-- The ids with a value, in ascending order. -/
def keys (map : IdMap α) : List Int := map.entries.map Prod.fst

/-- The value of an id among some entries. -/
def find (id : Int) : List (Int × α) → Option α
  | [] => none
  | (key, value) :: rest => if key = id then some value else find id rest

/-- The value of an id. -/
def get? (map : IdMap α) (id : Int) : Option α := find id map.entries

/-- Ascending entries with the value of one id replaced or added. -/
def place (id : Int) (value : α) : List (Int × α) → List (Int × α)
  | [] => [(id, value)]
  | (key, old) :: rest =>
    if id < key then (id, value) :: (key, old) :: rest
    else if id = key then (id, value) :: rest
    else (key, old) :: place id value rest

/-- Placing adds no entry but its own. -/
theorem mem_place {id : Int} {value : α} {entries : List (Int × α)} {entry : Int × α}
    (member : entry ∈ place id value entries) : entry = (id, value) ∨ entry ∈ entries := by
  induction entries with
  | nil => simpa [place] using member
  | cons head rest ih =>
    rw [place] at member
    split at member
    · simpa using member
    · split at member
      · rcases List.mem_cons.mp member with same | inside
        · exact .inl same
        · exact .inr (List.mem_cons_of_mem _ inside)
      · rcases List.mem_cons.mp member with same | inside
        · exact .inr (same ▸ List.mem_cons_self)
        · rcases ih inside with same | inside
          · exact .inl same
          · exact .inr (List.mem_cons_of_mem _ inside)

/-- Placing keeps the entries in ascending order. -/
theorem place_ascending (id : Int) (value : α) {entries : List (Int × α)}
    (ascending : entries.Pairwise (fun first second => first.1 < second.1)) :
    (place id value entries).Pairwise (fun first second => first.1 < second.1) := by
  induction entries with
  | nil => exact List.pairwise_singleton _ _
  | cons head rest ih =>
    obtain ⟨above, restAscending⟩ := List.pairwise_cons.mp ascending
    rw [place]
    split
    · rename_i less
      refine List.pairwise_cons.mpr ⟨fun entry member => ?_, ascending⟩
      rcases List.mem_cons.mp member with same | inside
      · exact same ▸ less
      · exact Int.lt_trans less (above entry inside)
    · split
      · rename_i same
        exact List.pairwise_cons.mpr
          ⟨fun entry member => same ▸ above entry member, restAscending⟩
      · rename_i notLess different
        refine List.pairwise_cons.mpr ⟨fun entry member => ?_, ih restAscending⟩
        rcases mem_place member with same | inside
        · subst same
          show head.1 < id
          omega
        · exact above entry inside

/-- The map with the value of one id replaced or added. -/
def insert (map : IdMap α) (id : Int) (value : α) : IdMap α where
  entries := place id value map.entries
  ascending := place_ascending id value map.ascending

/-- The map of a list of entries; of several entries of one id the last one counts. -/
def ofList (entries : List (Int × α)) : IdMap α :=
  entries.foldl (fun map entry => map.insert entry.1 entry.2) empty

/-- A placed value is found under its own id; under other ids nothing changes. -/
theorem find_place (id : Int) (value : α) (entries : List (Int × α)) (other : Int) :
    find other (place id value entries) = if other = id then some value else find other entries := by
  induction entries with
  | nil =>
    by_cases same : other = id
    · rw [if_pos same, place, find, if_pos same.symm]
    · simp [place, find, same, Ne.symm same]
  | cons head rest ih =>
    rw [place]
    split
    · rw [find]
      by_cases same : other = id
      · rw [if_pos same, if_pos same.symm]
      · rw [if_neg same, if_neg fun reversed => same reversed.symm]
    · split
      · rename_i here
        rw [find, find]
        by_cases same : other = id
        · rw [if_pos same, if_pos same.symm]
        · rw [if_neg same, if_neg fun reversed => same reversed.symm,
            if_neg fun reversed => same (here ▸ reversed.symm)]
      · rename_i different
        rw [find, ih, find]
        by_cases here : head.1 = other
        · rw [if_pos here, if_neg fun same => different (by rw [here, same]), if_pos here]
        · rw [if_neg here, if_neg here]

/-- An update changes the value of its own id only. -/
theorem get?_insert (map : IdMap α) (id : Int) (value : α) (other : Int) :
    (map.insert id value).get? other = if other = id then some value else map.get? other :=
  find_place id value map.entries other

theorem get?_insert_self (map : IdMap α) (id : Int) (value : α) :
    (map.insert id value).get? id = some value := by
  rw [get?_insert, if_pos rfl]

theorem find_eq_none {id : Int} {entries : List (Int × α)}
    (absent : ∀ entry ∈ entries, entry.1 ≠ id) : find id entries = none := by
  induction entries with
  | nil => rfl
  | cons head rest ih =>
    rw [find, if_neg (absent head List.mem_cons_self)]
    exact ih fun entry member => absent entry (List.mem_cons_of_mem _ member)

/-- Placing adds one entry, unless it replaces one. -/
theorem length_place (id : Int) (value : α) {entries : List (Int × α)}
    (ascending : entries.Pairwise (fun first second => first.1 < second.1)) :
    (place id value entries).length =
      if (find id entries).isSome then entries.length else entries.length + 1 := by
  induction entries with
  | nil => rfl
  | cons head rest ih =>
    obtain ⟨above, restAscending⟩ := List.pairwise_cons.mp ascending
    rw [place, find]
    split
    · rename_i less
      have absent : find id rest = none := find_eq_none fun entry member => by
        have := above entry member
        omega
      have notHere : ¬ head.1 = id := by omega
      rw [if_neg notHere, absent]
      rfl
    · split
      · rename_i same
        rw [if_pos same.symm]
        rfl
      · rename_i different
        rw [if_neg (Ne.symm different), List.length_cons, ih restAscending]
        split <;> rfl

/-- An update adds one entry, unless it replaces one. -/
theorem size_insert (map : IdMap α) (id : Int) (value : α) :
    (map.insert id value).size = if (map.get? id).isSome then map.size else map.size + 1 :=
  length_place id value map.ascending

/-- In ascending entries, each value is found under its id. -/
theorem find_of_mem {entries : List (Int × α)} {entry : Int × α}
    (ascending : entries.Pairwise (fun first second => first.1 < second.1))
    (member : entry ∈ entries) : find entry.1 entries = some entry.2 := by
  induction entries with
  | nil => cases member
  | cons head rest ih =>
    obtain ⟨above, restAscending⟩ := List.pairwise_cons.mp ascending
    rw [find]
    rcases List.mem_cons.mp member with same | inside
    · rw [if_pos (by rw [same]), same]
    · rw [if_neg (Int.ne_of_lt (above entry inside)), ih restAscending inside]

/-- Ascending entries are determined by what is found in them. -/
theorem entries_eq_of_find {first second : List (Int × α)}
    (firstAscending : first.Pairwise (fun a b => a.1 < b.1))
    (secondAscending : second.Pairwise (fun a b => a.1 < b.1))
    (agree : ∀ id, find id first = find id second) : first = second := by
  induction first generalizing second with
  | nil =>
    cases second with
    | nil => rfl
    | cons head rest =>
      have here := agree head.1
      rw [find, find, if_pos rfl] at here
      cases here
  | cons head rest ih =>
    cases second with
    | nil =>
      have here := agree head.1
      rw [find, find, if_pos rfl] at here
      cases here
    | cons head' rest' =>
      obtain ⟨above, restAscending⟩ := List.pairwise_cons.mp firstAscending
      obtain ⟨above', restAscending'⟩ := List.pairwise_cons.mp secondAscending
      have same : head.1 = head'.1 := by
        rcases Int.lt_trichotomy head.1 head'.1 with less | same | greater
        · have here := agree head.1
          rw [find, find, if_pos rfl, if_neg (by omega),
            find_eq_none fun entry member => by have := above' entry member; omega] at here
          cases here
        · exact same
        · have here := agree head'.1
          rw [find, find, if_pos rfl, if_neg (by omega),
            find_eq_none fun entry member => by have := above entry member; omega] at here
          cases here
      have values : head.2 = head'.2 := by
        have here := agree head.1
        rw [find, find, if_pos rfl, if_pos same.symm] at here
        exact Option.some.inj here
      rw [show head = head' from Prod.ext same values]
      congr 1
      refine ih restAscending restAscending' fun id => ?_
      have here := agree id
      rw [find, find, ← same] at here
      by_cases first : head.1 = id
      · rw [find_eq_none fun entry member => by have := above entry member; omega,
          find_eq_none fun entry member => by have := above' entry member; omega]
      · rwa [if_neg first, if_neg first] at here

/-- A map is determined by its entries. -/
theorem ext_entries {first second : IdMap α} (same : first.entries = second.entries) :
    first = second := by
  cases first
  cases second
  cases same
  rfl

/-- Maps that agree on every id are equal. -/
theorem ext_get? {first second : IdMap α} (agree : ∀ id, first.get? id = second.get? id) :
    first = second :=
  ext_entries (entries_eq_of_find first.ascending second.ascending agree)

/-- An id above all others is placed at the end. -/
theorem place_of_above (id : Int) (value : α) {entries : List (Int × α)}
    (above : ∀ entry ∈ entries, entry.1 < id) :
    place id value entries = entries ++ [(id, value)] := by
  induction entries with
  | nil => rfl
  | cons head rest ih =>
    have first := above head List.mem_cons_self
    rw [place, if_neg (by omega), if_neg (by omega),
      ih fun entry member => above entry (List.mem_cons_of_mem _ member), List.cons_append]

/-- A value of an id above all others comes last. -/
theorem entries_insert (map : IdMap α) {id : Int} (value : α) (above : ∀ key ∈ map.keys, key < id) :
    (map.insert id value).entries = map.entries ++ [(id, value)] :=
  place_of_above id value fun entry member => above entry.1 (List.mem_map_of_mem member)

end IdMap

end CelTree
