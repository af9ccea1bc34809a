/-
**Equal texts mean equal trees.**

* `layout_identifyNaNs`: the text of a tree does not tell apart what is not a number.
* **`render_kindsAndIds_eq_iff`** — with kinds and ids, two trees with well-formed names have the same
  rendering exactly if they are equal up to what is not a number.
-/

import CelTree.Proofs.Render.Readable

namespace CelTree

open Render

/-! ### What the text does not tell apart -/

namespace Render

theorem literalText_identifyNaN (value : Constant) :
    literalText value.identifyNaN = literalText value := by
  cases value with
  | double value => exact value.text_identifyNaN
  | _ => rfl

theorem adornmentText_identifyNaNs (tree : Expr) :
    adornmentText Adorner.kindsAndIds (.node tree.identifyNaNs) =
      adornmentText Adorner.kindsAndIds (.node tree) := by
  cases tree with
  | literal id value => cases value <;> rfl
  | _ => rfl

mutual

/-- The text of a tree does not tell apart what is not a number. -/
theorem layout_identifyNaNs (indent : Nat) :
    ∀ tree : Expr, tree.identifyNaNs.layout Adorner.kindsAndIds indent =
      tree.layout Adorner.kindsAndIds indent
  | .literal id value => by
    show literalText value.identifyNaN ++ adornmentText _ (.node (Expr.literal id value).identifyNaNs) = _
    rw [literalText_identifyNaN, adornmentText_identifyNaNs]
    rfl
  | .ident id name => rfl
  | .select id operand field testOnly => by
    show operand.identifyNaNs.layout _ indent ++ ['.'] ++ field.toList ++ testText testOnly ++ _ = _
    rw [layout_identifyNaNs indent operand]
    rfl
  | .call id function args => by
    show function.toList ++ block _ _ _ (Expr.layoutAll _ _ (Expr.identifyNaNsAll args)) ++ _ = _
    rw [layoutAll_identifyNaNs (indent + 1) args]
    rfl
  | .memberCall id target function args => by
    show target.identifyNaNs.layout _ indent ++ ['.'] ++ function.toList ++
      block _ _ _ (Expr.layoutAll _ _ (Expr.identifyNaNsAll args)) ++ _ = _
    rw [layout_identifyNaNs indent target, layoutAll_identifyNaNs (indent + 1) args]
    rfl
  | .list id elements => by
    show block _ _ _ (Expr.layoutAll _ _ (Expr.identifyNaNsAll elements)) ++ _ = _
    rw [layoutAll_identifyNaNs (indent + 1) elements]
    rfl
  | .struct id message entries => by
    show message.toList ++ block _ _ _ (Entry.layoutAll _ _ (Entry.identifyNaNsAll entries)) ++ _ = _
    rw [layoutAll_identifyNaNs_entry (indent + 1) entries]
    rfl
  | .comprehension id iterVar iterVar2 range accuVar init condition step result => by
    show (Expr.comprehension id iterVar iterVar2 range.identifyNaNs accuVar init.identifyNaNs
      condition.identifyNaNs step.identifyNaNs result.identifyNaNs).body _ indent ++ _ = _
    rw [Expr.body_comprehension, layout_identifyNaNs (indent + 1) range,
      layout_identifyNaNs (indent + 1) init, layout_identifyNaNs (indent + 1) condition,
      layout_identifyNaNs (indent + 1) step, layout_identifyNaNs (indent + 1) result]
    rfl

theorem layoutAll_identifyNaNs (indent : Nat) :
    ∀ trees : List Expr, Expr.layoutAll Adorner.kindsAndIds indent (Expr.identifyNaNsAll trees) =
      Expr.layoutAll Adorner.kindsAndIds indent trees
  | [] => rfl
  | first :: rest => by
    show first.identifyNaNs.layout _ indent :: Expr.layoutAll _ indent (Expr.identifyNaNsAll rest) = _
    rw [layout_identifyNaNs indent first, layoutAll_identifyNaNs indent rest]
    rfl

/-- The text of an entry does not tell apart what is not a number. -/
theorem layout_identifyNaNs_entry (indent : Nat) :
    ∀ entry : Entry, entry.identifyNaNs.layout Adorner.kindsAndIds indent =
      entry.layout Adorner.kindsAndIds indent
  | .map id key value optional => by
    show optionalText optional ++ key.identifyNaNs.layout _ indent ++ [':'] ++
      value.identifyNaNs.layout _ indent ++ _ = _
    rw [layout_identifyNaNs indent key, layout_identifyNaNs indent value]
    rfl
  | .field id name value optional => by
    show optionalText optional ++ name.toList ++ [':'] ++ value.identifyNaNs.layout _ indent ++ _ = _
    rw [layout_identifyNaNs indent value]
    rfl

theorem layoutAll_identifyNaNs_entry (indent : Nat) :
    ∀ entries : List Entry,
      Entry.layoutAll Adorner.kindsAndIds indent (Entry.identifyNaNsAll entries) =
        Entry.layoutAll Adorner.kindsAndIds indent entries
  | [] => rfl
  | first :: rest => by
    show first.identifyNaNs.layout _ indent ::
      Entry.layoutAll _ indent (Entry.identifyNaNsAll rest) = _
    rw [layout_identifyNaNs_entry indent first, layoutAll_identifyNaNs_entry indent rest]
    rfl

end

end Render

/-! ### Equal texts -/

/-- **Equal texts mean equal trees.** With kinds and ids behind every element, two trees with
well-formed names have the same rendering exactly if they are equal up to what is not a number. -/
theorem render_kindsAndIds_eq_iff {tree tree' : Expr} (named : tree.WellNamed)
    (named' : tree'.WellNamed) :
    render Adorner.kindsAndIds tree = render Adorner.kindsAndIds tree' ↔
      tree.identifyNaNs = tree'.identifyNaNs := by
  rw [render_eq_layout, render_eq_layout, String.ofList_inj]
  constructor
  · intro same
    exact (readable_of_wellNamed 0 tree named tree' [] [] named' opens_nil opens_nil same).2
  · intro same
    have texts := congrArg (Expr.layout Adorner.kindsAndIds 0) same
    rwa [layout_identifyNaNs, layout_identifyNaNs] at texts

/-- A choice between a double and a string that looks like an adornment. -/
def adornedChoice (x : Double) : Expr :=
  .call 1 "_?_:_" [.ident 2 "ready", .literal 3 (.double x),
    .literal 4 (.string "ready^#2:*expr.Expr_IdentExpr#")]

/-- Two doubles that are not numbers give one text, and zero gives another. -/
theorem render_kindsAndIds_eq_iff_choice :
    (∀ x, (adornedChoice x).WellNamed) ∧
      render Adorner.kindsAndIds (adornedChoice ⟨0x7ff8000000000001⟩) =
        render Adorner.kindsAndIds (adornedChoice ⟨0xfff8000000000000⟩) ∧
      render Adorner.kindsAndIds (adornedChoice ⟨0x7ff8000000000001⟩) ≠
        render Adorner.kindsAndIds (adornedChoice ⟨0⟩) := by
  have plain : IsPlain "ready" := by decide
  have named (x : Double) : (adornedChoice x).WellNamed :=
    ⟨.conditional, plain, trivial, trivial, trivial⟩
  have nan (x : Double) (notNumber : x.isNaN = true) :
      (adornedChoice x).identifyNaNs = adornedChoice .nan :=
    congrArg adornedChoice (if_pos notNumber)
  have equal : (adornedChoice ⟨0x7ff8000000000001⟩).identifyNaNs =
      (adornedChoice ⟨0xfff8000000000000⟩).identifyNaNs := by
    rw [nan _ (by decide), nan _ (by decide)]
  refine ⟨named, (render_kindsAndIds_eq_iff (named _) (named _)).mpr equal, fun same => ?_⟩
  have trees := (render_kindsAndIds_eq_iff (named _) (named _)).mp same
  injection trees with _ _ args
  injection args with _ others
  injection others with choice _
  injection choice with _ constants
  injection constants with doubles
  exact absurd doubles (by decide)

end CelTree
