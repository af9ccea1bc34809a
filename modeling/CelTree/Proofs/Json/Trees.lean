/-
**Trees read back.**

* `Expr.Storable`, `Entry.Storable`: a tree that has a document. Every id has 64 bits and every
  double is finite.
* **`Expr.ofJson?_toJson`**, `Entry.ofJson?_toJson`: where doubles read back, a written tree does if
  the bound allows the containers of its document, and is refused otherwise.
* **`Expr.fits_of_ofJson?`**, `Entry.fits_of_ofJson?`: a tree that is read has a document that keeps
  to the bound.
-/

import CelTree.Json.Tree
import CelTree.Proofs.Json.Scalars

namespace CelTree

open Json

mutual

/-- The tree has a document: every id has 64 bits and every double is finite. -/
def Expr.Storable : Expr → Prop
  | .literal id value => IsInt64 id ∧ value.Storable
  | .ident id _ => IsInt64 id
  | .select id operand _ _ => IsInt64 id ∧ operand.Storable
  | .call id _ args => IsInt64 id ∧ Expr.StorableAll args
  | .memberCall id target _ args => IsInt64 id ∧ target.Storable ∧ Expr.StorableAll args
  | .list id elements => IsInt64 id ∧ Expr.StorableAll elements
  | .struct id _ entries => IsInt64 id ∧ Entry.StorableAll entries
  | .comprehension id _ _ range _ init condition step result =>
    IsInt64 id ∧ range.Storable ∧ init.Storable ∧ condition.Storable ∧ step.Storable ∧
      result.Storable

/-- Several trees that have documents. -/
def Expr.StorableAll : List Expr → Prop
  | [] => True
  | first :: rest => first.Storable ∧ Expr.StorableAll rest

/-- The entry has a document. -/
def Entry.Storable : Entry → Prop
  | .map id key value _ => IsInt64 id ∧ key.Storable ∧ value.Storable
  | .field id _ value _ => IsInt64 id ∧ value.Storable

/-- Several entries that have documents. -/
def Entry.StorableAll : List Entry → Prop
  | [] => True
  | first :: rest => first.Storable ∧ Entry.StorableAll rest

end

theorem Expr.storableAll_iff {trees : List Expr} :
    Expr.StorableAll trees ↔ ∀ tree ∈ trees, tree.Storable := by
  induction trees with
  | nil => simp [Expr.StorableAll]
  | cons first rest ih => rw [Expr.StorableAll, ih, List.forall_mem_cons]

theorem Entry.storableAll_iff {entries : List Entry} :
    Entry.StorableAll entries ↔ ∀ entry ∈ entries, entry.Storable := by
  induction entries with
  | nil => simp [Entry.StorableAll]
  | cons first rest ih => rw [Entry.StorableAll, ih, List.forall_mem_cons]

theorem Expr.toJsonAll_eq_map (trees : List Expr) : Expr.toJsonAll trees = trees.map Expr.toJson := by
  induction trees with
  | nil => rfl
  | cons first rest ih => rw [Expr.toJsonAll, ih, List.map_cons]

theorem Entry.toJsonAll_eq_map (entries : List Entry) :
    Entry.toJsonAll entries = entries.map Entry.toJson := by
  induction entries with
  | nil => rfl
  | cons first rest ih => rw [Entry.toJsonAll, ih, List.map_cons]

/-! ### Proper documents -/

/-- The document of a node is proper if its content is. -/
theorem Json.proper_ofNode (id : Int) (kind : String) {content : Json} (proper : content.Proper) :
    (ofNode id kind content).Proper :=
  proper_ofFields (List.forall_mem_cons.mpr ⟨proper_ofInteger id,
    List.forall_mem_singleton.mpr (proper_ofAlternative kind proper)⟩)

mutual

/-- The document of a tree is proper. -/
theorem Expr.proper_toJson : (tree : Expr) → tree.toJson.Proper
  | .literal id value => proper_ofNode id _ value.proper_toJson
  | .ident id name => proper_ofNode id _ (proper_ofFields
      (List.forall_mem_singleton.mpr (proper_ofText name)))
  | .select id operand field testOnly => by
    refine proper_ofNode id _ (proper_ofFields ?_)
    have below := operand.proper_toJson
    simpa [proper_ofText, Json.Proper] using below
  | .call id function args => by
    refine proper_ofNode id _ (proper_ofFields ?_)
    have below := Expr.proper_toJsonAll args
    simpa [proper_ofText, Json.Proper] using below
  | .memberCall id target function args => by
    refine proper_ofNode id _ (proper_ofFields ?_)
    have receiver := target.proper_toJson
    have below := Expr.proper_toJsonAll args
    simpa [proper_ofText, Json.Proper] using ⟨receiver, below⟩
  | .list id elements => proper_ofNode id _ (proper_ofFields
      (List.forall_mem_singleton.mpr (Expr.proper_toJsonAll elements)))
  | .struct id message entries => by
    refine proper_ofNode id _ (proper_ofFields ?_)
    have below := Entry.proper_toJsonAll entries
    simpa [proper_ofText, Json.Proper] using below
  | .comprehension id iterVar iterVar2 range accuVar init condition step result => by
    refine proper_ofNode id _ (proper_ofFields ?_)
    have parts := And.intro range.proper_toJson (And.intro init.proper_toJson
      (And.intro condition.proper_toJson (And.intro step.proper_toJson result.proper_toJson)))
    simpa [proper_ofText] using parts

theorem Expr.proper_toJsonAll : (trees : List Expr) → Json.ProperAll (Expr.toJsonAll trees)
  | [] => trivial
  | first :: rest => ⟨first.proper_toJson, Expr.proper_toJsonAll rest⟩

/-- The document of an entry is proper. -/
theorem Entry.proper_toJson : (entry : Entry) → entry.toJson.Proper
  | .map id key value optional => by
    refine proper_ofFields ?_
    have parts := And.intro (proper_ofAlternative "MapKey" key.proper_toJson) value.proper_toJson
    simpa [proper_ofInteger, Json.Proper] using parts
  | .field id name value optional => by
    refine proper_ofFields ?_
    have parts :=
      And.intro (proper_ofAlternative "FieldKey" (proper_ofText name)) value.proper_toJson
    simpa [proper_ofInteger, Json.Proper] using parts

theorem Entry.proper_toJsonAll : (entries : List Entry) → Json.ProperAll (Entry.toJsonAll entries)
  | [] => trivial
  | first :: rest => ⟨first.proper_toJson, Entry.proper_toJsonAll rest⟩

end

/-! ### Nodes -/

theorem Json.depth_ofNode (id : Int) (kind : String) (content : Json) :
    (ofNode id kind content).depth = content.depth + 2 := by
  show max 0 (max (ofAlternative kind content).depth 0) + 1 = _
  rw [depth_ofAlternative]
  omega

section Reading

variable {readDouble : List Char → Option Double}

/-- A written node reads back if its kind does. -/
theorem Expr.ofJson?_ofNode {id : Int} (inside : IsInt64 id) {kind : String} {content : Json}
    {tree : Expr}
    (reads : ∀ bound, (if kind = "Literal" then
        (Constant.ofJson? readDouble bound content).map (.literal id)
      else Expr.ofContent? readDouble bound id kind content) = content.within bound tree)
    (bound : Nat) :
    Expr.ofJson? readDouble bound (ofNode id kind content) =
      (ofNode id kind content).within bound tree := by
  have fields : (ofNode id kind content).record ["id", "kind"] false =
      some [some (ofInteger id), some (ofAlternative kind content)] :=
    record_ofFields rfl (by decide)
  -- The record of the node and the alternative of its kind open one container each.
  match bound with
  | 0 => rw [within_of_gt (by rw [depth_ofNode]; omega), Expr.ofJson?]
  | 1 =>
    rw [within_of_gt (by rw [depth_ofNode]; omega), Expr.ofJson?, fields]
    simp only [Option.bind_eq_bind, Option.bind_some, toInt64_ofInteger inside, Expr.ofKind?]
  | bound + 2 =>
    rw [Expr.ofJson?, fields]
    simp only [Option.bind_eq_bind, Option.bind_some, toInt64_ofInteger inside]
    rw [Expr.ofKind?, alternative_ofAlternative]
    refine Eq.trans ?_ ((reads bound).trans (within_congr (by rw [depth_ofNode]; omega) tree))
    simp only [Option.bind_eq_bind, Option.bind_some]
    split
    · cases Constant.ofJson? readDouble bound content <;> rfl
    · rfl

/-- A written node other than a literal reads back if the record of its parts does. -/
theorem Expr.ofJson?_ofParts {id : Int} (inside : IsInt64 id) {kind : String}
    (other : kind ≠ "Literal") {fields : List (String × Json)} {tree : Expr}
    (reads : ∀ bound, Expr.ofContent? readDouble (bound + 1) id kind (ofFields fields) =
      if ∀ field ∈ fields, field.2.depth ≤ bound then some tree else none) (bound : Nat) :
    Expr.ofJson? readDouble bound (ofNode id kind (ofFields fields)) =
      (ofNode id kind (ofFields fields)).within bound tree := by
  refine Expr.ofJson?_ofNode inside (fun bound => ?_) bound
  rw [if_neg other]
  cases bound with
  | zero => rw [Expr.ofContent?, within_zero_ofFields]
  | succ bound => rw [reads, within_ofFields]

/-! ### Reading back -/

/-- Written trees read back if each of them does. -/
theorem Expr.ofItems?_toJsonAll {trees : List Expr}
    (each : ∀ tree ∈ trees, ∀ bound,
      Expr.ofJson? readDouble bound tree.toJson = tree.toJson.within bound tree)
    (bound : Nat) :
    Expr.ofItems? readDouble bound (.array (Expr.toJsonAll trees)) =
      (Json.array (Expr.toJsonAll trees)).within bound trees := by
  cases bound with
  | zero => exact (within_of_gt (Nat.succ_pos _) _).symm
  | succ bound =>
    rw [Expr.toJsonAll_eq_map]
    exact mapM_within fun tree member => each tree member bound

/-- Written entries read back if each of them does. -/
theorem Entry.ofItems?_toJsonAll {entries : List Entry}
    (each : ∀ entry ∈ entries, ∀ bound,
      Entry.ofJson? readDouble bound entry.toJson = entry.toJson.within bound entry)
    (bound : Nat) :
    Entry.ofItems? readDouble bound (.array (Entry.toJsonAll entries)) =
      (Json.array (Entry.toJsonAll entries)).within bound entries := by
  cases bound with
  | zero => exact (within_of_gt (Nat.succ_pos _) _).symm
  | succ bound =>
    rw [Entry.toJsonAll_eq_map]
    exact mapM_within fun entry member => each entry member bound

/-- A written tree is not null. -/
theorem Expr.toJson_ne_null (tree : Expr) : tree.toJson ≠ .null := by
  cases tree <;> exact Json.noConfusion

/-- A written entry reads back if its key and its value do. -/
theorem Entry.ofJson?_ofFields {id : Int} (inside : IsInt64 id) {key : Json} {value : Expr}
    {optional : Bool} {entry : Entry}
    (held : ∀ bound, Expr.ofJson? readDouble bound value.toJson = value.toJson.within bound value)
    (reads : ∀ bound, Entry.ofParts? readDouble bound id key value optional = key.within bound entry)
    (bound : Nat) :
    Entry.ofJson? readDouble bound
        (ofFields [("id", ofInteger id), ("key", key), ("value", value.toJson),
          ("optional_entry", .bool optional)]) =
      (ofFields [("id", ofInteger id), ("key", key), ("value", value.toJson),
        ("optional_entry", .bool optional)]).within bound entry := by
  cases bound with
  | zero => rw [Entry.ofJson?, within_zero_ofFields]
  | succ bound =>
    rw [Entry.ofJson?]
    simp [record_ofFields, toInt64_ofInteger inside, held, Json.toBool, reads, bind_within,
      within_ofFields]
    by_cases fits : value.toJson.depth ≤ bound
    · simp [fits, within]
    · simp [fits]

/-- A written list reads back if its elements do. -/
theorem Expr.ofJson?_list {id : Int} (inside : IsInt64 id) {elements : List Expr}
    (each : ∀ element ∈ elements, ∀ bound,
      Expr.ofJson? readDouble bound element.toJson = element.toJson.within bound element)
    (bound : Nat) :
    Expr.ofJson? readDouble bound (Expr.list id elements).toJson =
      (Expr.list id elements).toJson.within bound (.list id elements) := by
  refine Expr.ofJson?_ofParts inside (by decide) (fun bound => ?_) bound
  have items := Expr.ofItems?_toJsonAll each bound
  rw [Expr.ofContent?, if_neg (by decide), if_neg (by decide), if_neg (by decide), if_pos rfl]
  simp [record_ofFields, items, bind_within]

mutual

/-- **A written tree reads back** if the bound allows its containers, and is refused otherwise. -/
theorem Expr.ofJson?_toJson (readsBack : ReadsBack readDouble) :
    (tree : Expr) → tree.Storable → (bound : Nat) →
    Expr.ofJson? readDouble bound tree.toJson = tree.toJson.within bound tree
  | .literal id value, ⟨inside, storable⟩, bound => by
    refine Expr.ofJson?_ofNode inside (fun bound => ?_) bound
    rw [if_pos rfl, Constant.ofJson?_toJson readsBack storable]
    unfold within
    split <;> rfl
  | .ident id name, inside, bound => by
    refine Expr.ofJson?_ofParts inside (by decide) (fun bound => ?_) bound
    rw [Expr.ofContent?, if_pos rfl]
    simp [record_ofFields, toText_ofText]
  | .select id operand field testOnly, ⟨inside, below⟩, bound => by
    refine Expr.ofJson?_ofParts inside (by decide) (fun bound => ?_) bound
    rw [Expr.ofContent?, if_neg (by decide), if_pos rfl]
    simp [record_ofFields, operand.ofJson?_toJson readsBack below, bind_within,
      toText_ofText, Json.toBool]
  | .call id function args, ⟨inside, below⟩, bound => by
    refine Expr.ofJson?_ofParts inside (by decide) (fun bound => ?_) bound
    have items := Expr.ofItems?_toJsonAll (Expr.ofJson?_toJsonAll readsBack args below) bound
    rw [Expr.ofContent?, if_neg (by decide), if_neg (by decide), if_pos rfl]
    simp [record_ofFields, items, bind_within, toText_ofText, depth_ofText,
      Json.nullable]
  | .memberCall id target function args, ⟨inside, receiver, below⟩, bound => by
    refine Expr.ofJson?_ofParts inside (by decide) (fun bound => ?_) bound
    have items := Expr.ofItems?_toJsonAll (Expr.ofJson?_toJsonAll readsBack args below) bound
    have called := nullable_within target.toJson_ne_null
      (target.ofJson?_toJson readsBack receiver bound)
    rw [Expr.ofContent?, if_neg (by decide), if_neg (by decide), if_pos rfl]
    simp [record_ofFields, items, called,
      bind_within, toText_ofText, ← ite_and]
  | .list id elements, ⟨inside, below⟩, bound =>
    Expr.ofJson?_list inside (Expr.ofJson?_toJsonAll readsBack elements below) bound
  | .struct id message entries, ⟨inside, below⟩, bound => by
    refine Expr.ofJson?_ofParts inside (by decide) (fun bound => ?_) bound
    have items := Entry.ofItems?_toJsonAll (Entry.ofJson?_toJsonAll readsBack entries below) bound
    rw [Expr.ofContent?, if_neg (by decide), if_neg (by decide), if_neg (by decide),
      if_neg (by decide), if_pos rfl]
    simp [record_ofFields, items, bind_within, toText_ofText]
  | .comprehension id iterVar iterVar2 range accuVar init condition step result,
      ⟨inside, ranges, starts, tests, steps, ends⟩, bound => by
    refine Expr.ofJson?_ofParts inside (by decide) (fun bound => ?_) bound
    rw [Expr.ofContent?, if_neg (by decide), if_neg (by decide), if_neg (by decide),
      if_neg (by decide), if_neg (by decide), if_pos rfl]
    simp [record_ofFields, range.ofJson?_toJson readsBack ranges,
      init.ofJson?_toJson readsBack starts, condition.ofJson?_toJson readsBack tests,
      step.ofJson?_toJson readsBack steps, result.ofJson?_toJson readsBack ends, bind_within,
      toText_ofText, ← ite_and]

theorem Expr.ofJson?_toJsonAll (readsBack : ReadsBack readDouble) :
    (trees : List Expr) → Expr.StorableAll trees →
    ∀ tree ∈ trees, ∀ bound,
      Expr.ofJson? readDouble bound tree.toJson = tree.toJson.within bound tree
  | first :: rest, ⟨here, below⟩, tree, member, bound => by
    rcases List.mem_cons.mp member with same | inside
    · rw [same]
      exact first.ofJson?_toJson readsBack here bound
    · exact Expr.ofJson?_toJsonAll readsBack rest below tree inside bound

/-- **A written entry reads back** if the bound allows its containers, and is refused otherwise. -/
theorem Entry.ofJson?_toJson (readsBack : ReadsBack readDouble) :
    (entry : Entry) → entry.Storable → (bound : Nat) →
    Entry.ofJson? readDouble bound entry.toJson = entry.toJson.within bound entry
  | .map id key value optional, ⟨inside, named, held⟩, bound => by
    refine Entry.ofJson?_ofFields inside (value.ofJson?_toJson readsBack held) (fun bound => ?_) bound
    cases bound with
    | zero => rw [Entry.ofParts?, ofAlternative, within_zero_ofFields]
    | succ bound =>
      rw [Entry.ofParts?, alternative_ofAlternative]
      simp [key.ofJson?_toJson readsBack named, bind_within, ofAlternative, within_ofFields]
  | .field id name value optional, ⟨inside, held⟩, bound => by
    refine Entry.ofJson?_ofFields inside (value.ofJson?_toJson readsBack held) (fun bound => ?_) bound
    cases bound with
    | zero => rw [Entry.ofParts?, ofAlternative, within_zero_ofFields]
    | succ bound =>
      rw [Entry.ofParts?, alternative_ofAlternative]
      simp [toText_ofText, ofAlternative, within_ofFields]

theorem Entry.ofJson?_toJsonAll (readsBack : ReadsBack readDouble) :
    (entries : List Entry) → Entry.StorableAll entries →
    ∀ entry ∈ entries, ∀ bound,
      Entry.ofJson? readDouble bound entry.toJson = entry.toJson.within bound entry
  | first :: rest, ⟨here, below⟩, entry, member, bound => by
    rcases List.mem_cons.mp member with same | inside
    · rw [same]
      exact first.ofJson?_toJson readsBack here bound
    · exact Entry.ofJson?_toJsonAll readsBack rest below entry inside bound

end

/-! ### What is read fits -/

/-- A node opens three containers around its parts: its record, its kind and the record of the
parts. -/
theorem Json.depth_ofNode_le_iff {id : Int} {kind : String} {fields : List (String × Json)}
    {bound : Nat} :
    (ofNode id kind (ofFields fields)).depth ≤ bound + 3 ↔
      ∀ field ∈ fields, field.2.depth ≤ bound := by
  rw [depth_ofNode, Nat.add_le_add_iff_right, depth_ofFields_le_iff]

mutual

/-- **A tree that is read has a document** that keeps to the bound. -/
theorem Expr.fits_of_ofJson? : (bound : Nat) → {json : Json} → {tree : Expr} →
    Expr.ofJson? readDouble bound json = some tree → tree.Storable ∧ tree.toJson.depth ≤ bound
  | 0, _, _, found => by rw [Expr.ofJson?] at found; cases found
  | bound + 1, _, _, found => by
    -- The recursion is on the bound, not on the tree: every reader gives the next one a smaller one.
    simp only [Expr.ofJson?, Option.bind_eq_bind, Option.bind_eq_some_iff] at found
    obtain ⟨fields, -, found⟩ := found
    split at found
    · simp only [Option.bind_eq_some_iff] at found
      obtain ⟨id, given, found⟩ := found
      exact Expr.fits_of_ofKind? bound (isInt64_of_toInt64 given) found
    · cases found

/-- A node that is read from its kind has a document that keeps to the bound. -/
theorem Expr.fits_of_ofKind? : (bound : Nat) → {id : Int} → {kind : Json} → {tree : Expr} →
    IsInt64 id → Expr.ofKind? readDouble bound id kind = some tree →
    tree.Storable ∧ tree.toJson.depth ≤ bound + 1
  | 0, _, _, _, _, found => by rw [Expr.ofKind?] at found; cases found
  | bound + 1, _, _, _, inside, found => by
    simp only [Expr.ofKind?, Option.bind_eq_bind, Option.bind_eq_some_iff] at found
    obtain ⟨⟨name, content⟩, -, found⟩ := found
    split at found
    · simp only [Option.bind_eq_some_iff, Option.pure_def, Option.some.injEq] at found
      obtain ⟨value, given, rfl⟩ := found
      obtain ⟨storable, fits⟩ := Constant.fits_of_ofJson? given
      refine ⟨⟨inside, storable⟩, ?_⟩
      rw [Expr.toJson, depth_ofNode]
      omega
    · exact Expr.fits_of_ofContent? bound inside found

/-- A node that is read from the record of its parts has a document that keeps to the bound. -/
theorem Expr.fits_of_ofContent? : (bound : Nat) → {id : Int} → {name : String} →
    {content : Json} → {tree : Expr} → IsInt64 id →
    Expr.ofContent? readDouble bound id name content = some tree →
    tree.Storable ∧ tree.toJson.depth ≤ bound + 2
  | 0, _, _, _, _, _, found => by rw [Expr.ofContent?] at found; cases found
  | bound + 1, _, _, _, _, inside, found => by
    rw [Expr.ofContent?] at found
    split at found
    · obtain ⟨fields, -, found⟩ := Option.bind_eq_some_iff.mp found
      split at found
      · simp only [Option.bind_eq_bind, Option.bind_eq_some_iff, Option.pure_def,
          Option.some.injEq] at found
        obtain ⟨text, -, rfl⟩ := found
        exact ⟨inside, depth_ofNode_le_iff.mpr (by simp)⟩
      · cases found
    split at found
    · obtain ⟨fields, -, found⟩ := Option.bind_eq_some_iff.mp found
      split at found
      · simp only [Option.bind_eq_bind, Option.bind_eq_some_iff, Option.pure_def,
          Option.some.injEq] at found
        obtain ⟨operand, given, field, -, testOnly, -, rfl⟩ := found
        obtain ⟨storable, fits⟩ := Expr.fits_of_ofJson? bound given
        exact ⟨⟨inside, storable⟩, depth_ofNode_le_iff.mpr (by
          simp [fits])⟩
      · cases found
    split at found
    · obtain ⟨fields, -, found⟩ := Option.bind_eq_some_iff.mp found
      split at found
      · simp only [Option.bind_eq_bind, Option.bind_eq_some_iff, Option.pure_def] at found
        obtain ⟨function, -, target, called, args, given, found⟩ := found
        obtain ⟨storable, fits⟩ := Expr.fits_of_ofItems? bound given
        split at found
        · cases found
          obtain ⟨json, given⟩ := exists_of_nullable called
          obtain ⟨receiver, targetFits⟩ := Expr.fits_of_ofJson? bound given
          exact ⟨⟨inside, receiver, storable⟩, depth_ofNode_le_iff.mpr (by
            simp [targetFits, fits])⟩
        · cases found
          exact ⟨⟨inside, storable⟩, depth_ofNode_le_iff.mpr (by
            simp [fits])⟩
      · cases found
    split at found
    · obtain ⟨fields, -, found⟩ := Option.bind_eq_some_iff.mp found
      split at found
      · simp only [Option.bind_eq_bind, Option.bind_eq_some_iff, Option.pure_def,
          Option.some.injEq] at found
        obtain ⟨elements, given, rfl⟩ := found
        obtain ⟨storable, fits⟩ := Expr.fits_of_ofItems? bound given
        exact ⟨⟨inside, storable⟩, depth_ofNode_le_iff.mpr (by simp [fits])⟩
      · cases found
    split at found
    · obtain ⟨fields, -, found⟩ := Option.bind_eq_some_iff.mp found
      split at found
      · simp only [Option.bind_eq_bind, Option.bind_eq_some_iff, Option.pure_def,
          Option.some.injEq] at found
        obtain ⟨message, -, entries, given, rfl⟩ := found
        obtain ⟨storable, fits⟩ := Entry.fits_of_ofItems? bound given
        exact ⟨⟨inside, storable⟩, depth_ofNode_le_iff.mpr (by simp [fits])⟩
      · cases found
    split at found
    · obtain ⟨fields, -, found⟩ := Option.bind_eq_some_iff.mp found
      split at found
      · simp only [Option.bind_eq_bind, Option.bind_eq_some_iff, Option.pure_def,
          Option.some.injEq] at found
        obtain ⟨iterVar, -, iterVar2, -, range, ranged, accuVar, -, init, started, condition,
          tested, step, stepped, result, ended, rfl⟩ := found
        obtain ⟨ranges, rangeFits⟩ := Expr.fits_of_ofJson? bound ranged
        obtain ⟨starts, initFits⟩ := Expr.fits_of_ofJson? bound started
        obtain ⟨tests, conditionFits⟩ := Expr.fits_of_ofJson? bound tested
        obtain ⟨steps, stepFits⟩ := Expr.fits_of_ofJson? bound stepped
        obtain ⟨ends, resultFits⟩ := Expr.fits_of_ofJson? bound ended
        exact ⟨⟨inside, ranges, starts, tests, steps, ends⟩, depth_ofNode_le_iff.mpr (by
          simp [rangeFits, initFits, conditionFits, stepFits, resultFits])⟩
      · cases found
    · cases found

theorem Expr.fits_of_ofItems? : (bound : Nat) → {json : Json} → {trees : List Expr} →
    Expr.ofItems? readDouble bound json = some trees →
    Expr.StorableAll trees ∧ (Json.array (Expr.toJsonAll trees)).depth ≤ bound
  | 0, _, _, found => by rw [Expr.ofItems?] at found; cases found
  | bound + 1, _, trees, found => by
    simp only [Expr.ofItems?, Option.bind_eq_bind, Option.bind_eq_some_iff] at found
    obtain ⟨items, -, found⟩ := found
    have each : ∀ tree ∈ trees, tree.Storable ∧ tree.toJson.depth ≤ bound := by
      intro tree member
      obtain ⟨item, -, given⟩ := exists_of_mapM found tree member
      exact Expr.fits_of_ofJson? bound given
    rw [Expr.storableAll_iff, depth_array_le_iff, Expr.toJsonAll_eq_map, List.forall_mem_map]
    exact ⟨fun tree member => (each tree member).1, fun tree member => (each tree member).2⟩

/-- **An entry that is read has a document** that keeps to the bound. -/
theorem Entry.fits_of_ofJson? : (bound : Nat) → {json : Json} → {entry : Entry} →
    Entry.ofJson? readDouble bound json = some entry → entry.Storable ∧ entry.toJson.depth ≤ bound
  | 0, _, _, found => by rw [Entry.ofJson?] at found; cases found
  | bound + 1, _, _, found => by
    simp only [Entry.ofJson?, Option.bind_eq_bind, Option.bind_eq_some_iff] at found
    obtain ⟨fields, -, found⟩ := found
    split at found
    · simp only [Option.bind_eq_some_iff] at found
      obtain ⟨id, given, value, held, optional, -, found⟩ := found
      exact Entry.fits_of_ofParts? bound (isInt64_of_toInt64 given)
        (Expr.fits_of_ofJson? bound held) found
    · cases found

/-- An entry that is read from its key has a document that keeps to the bound. -/
theorem Entry.fits_of_ofParts? : (bound : Nat) → {id : Int} → {key : Json} → {value : Expr} →
    {optional : Bool} → {entry : Entry} → IsInt64 id →
    value.Storable ∧ value.toJson.depth ≤ bound →
    Entry.ofParts? readDouble bound id key value optional = some entry →
    entry.Storable ∧ entry.toJson.depth ≤ bound + 1
  | 0, _, _, _, _, _, _, _, found => by rw [Entry.ofParts?] at found; cases found
  | bound + 1, _, _, _, _, _, inside, ⟨storable, fits⟩, found => by
    simp only [Entry.ofParts?, Option.bind_eq_bind, Option.bind_eq_some_iff] at found
    obtain ⟨⟨name, content⟩, -, found⟩ := found
    split at found
    · simp only [Option.bind_eq_some_iff, Option.pure_def, Option.some.injEq] at found
      obtain ⟨key, given, rfl⟩ := found
      obtain ⟨named, keyFits⟩ := Expr.fits_of_ofJson? bound given
      refine ⟨⟨inside, named, storable⟩, ?_⟩
      rw [Entry.toJson, depth_ofFields_le_iff]
      simp [depth_ofAlternative, keyFits, fits]
    · split at found
      · simp only [Option.bind_eq_some_iff, Option.pure_def, Option.some.injEq] at found
        obtain ⟨text, -, rfl⟩ := found
        refine ⟨⟨inside, storable⟩, ?_⟩
        rw [Entry.toJson, depth_ofFields_le_iff]
        simp [depth_ofAlternative, fits]
      · cases found

theorem Entry.fits_of_ofItems? : (bound : Nat) → {json : Json} → {entries : List Entry} →
    Entry.ofItems? readDouble bound json = some entries →
    Entry.StorableAll entries ∧ (Json.array (Entry.toJsonAll entries)).depth ≤ bound
  | 0, _, _, found => by rw [Entry.ofItems?] at found; cases found
  | bound + 1, _, entries, found => by
    simp only [Entry.ofItems?, Option.bind_eq_bind, Option.bind_eq_some_iff] at found
    obtain ⟨items, -, found⟩ := found
    have each : ∀ entry ∈ entries, entry.Storable ∧ entry.toJson.depth ≤ bound := by
      intro entry member
      obtain ⟨item, -, given⟩ := exists_of_mapM found entry member
      exact Entry.fits_of_ofJson? bound given
    rw [Entry.storableAll_iff, depth_array_le_iff, Entry.toJsonAll_eq_map, List.forall_mem_map]
    exact ⟨fun entry member => (each entry member).1, fun entry member => (each entry member).2⟩

end

end Reading

end CelTree
