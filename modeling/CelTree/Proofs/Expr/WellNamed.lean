/-
**Trees with lexically well-formed names, and trees up to what is not a number.**

* `IsPlain`, `IsMessageName`, `IsFunctionName`: the names of a source text.
* `Expr.WellNamed`, `Entry.WellNamed`: every name of a tree is of its sort.
* `Expr.identifyNaNs`: a tree whose doubles that are no numbers are all the same one. Two trees are
  equal after it if they differ in the bits of such doubles only.
-/

import CelTree.Expr.Basic
import CelTree.Proofs.Double.ReadBack

namespace CelTree

/-! ### Names -/

/-- An ASCII letter or digit, or an underscore. -/
def IsPlainCharacter (c : Char) : Prop := c.isAlphanum = true ∨ c = '_'

instance (c : Char) : Decidable (IsPlainCharacter c) := inferInstanceAs (Decidable (_ ∨ _))

/-- A name of letters, digits and underscores. -/
def IsPlain (name : String) : Prop := name ≠ "" ∧ ∀ c ∈ name.toList, IsPlainCharacter c

instance (name : String) : Decidable (IsPlain name) :=
  @instDecidableAnd _ _ inferInstance (List.decidableBAll IsPlainCharacter name.toList)

/-- Nothing, or plain names joined by dots. -/
def IsMessageName (name : String) : Prop :=
  ∃ parts : List String, (∀ part ∈ parts, IsPlain part) ∧ name = String.intercalate "." parts

/-- A non-empty sequence of operator characters. -/
def IsOperator (operator : String) : Prop :=
  operator ≠ "" ∧
    ∀ c ∈ operator.toList, c ∈ ['+', '-', '*', '/', '%', '<', '>', '=', '!', '&', '|']

/-- A plain name, also after an at sign, or the name of an operator with a blank for each operand.
-/
inductive IsFunctionName : String → Prop
  | plain {name : String} (plain : IsPlain name) : IsFunctionName name
  | internal {name : String} (plain : IsPlain name) : IsFunctionName ("@" ++ name)
  | index : IsFunctionName "_[_]"
  | conditional : IsFunctionName "_?_:_"
  | unary {operator : String} (operator' : IsOperator operator) : IsFunctionName (operator ++ "_")
  | binary {operator : String} (operator' : IsOperator operator) :
    IsFunctionName ("_" ++ operator ++ "_")

/-! ### Trees -/

mutual

/-- Every name of a tree is of its sort, and folds run over one variable. -/
def Expr.WellNamed : Expr → Prop
  | .literal _ _ => True
  | .ident _ name => IsPlain name
  | .select _ operand field _ => operand.WellNamed ∧ IsPlain field
  | .call _ function args => IsFunctionName function ∧ Expr.WellNamedAll args
  | .memberCall _ target function args =>
    target.WellNamed ∧ IsFunctionName function ∧ Expr.WellNamedAll args
  | .list _ elements => Expr.WellNamedAll elements
  | .struct _ message entries => IsMessageName message ∧ Entry.WellNamedAll entries
  | .comprehension _ iterVar iterVar2 range accuVar init condition step result =>
    IsPlain iterVar ∧ iterVar2 = "" ∧ IsPlain accuVar ∧ range.WellNamed ∧ init.WellNamed ∧
      condition.WellNamed ∧ step.WellNamed ∧ result.WellNamed

/-- Every name of several trees is of its sort. -/
def Expr.WellNamedAll : List Expr → Prop
  | [] => True
  | first :: rest => first.WellNamed ∧ Expr.WellNamedAll rest

/-- Every name of an entry is of its sort. -/
def Entry.WellNamed : Entry → Prop
  | .map _ key value _ => key.WellNamed ∧ value.WellNamed
  | .field _ name value _ => IsPlain name ∧ value.WellNamed

/-- Every name of several entries is of its sort. -/
def Entry.WellNamedAll : List Entry → Prop
  | [] => True
  | first :: rest => first.WellNamed ∧ Entry.WellNamedAll rest

end

theorem Expr.wellNamedAll_iff (trees : List Expr) :
    Expr.WellNamedAll trees ↔ ∀ tree ∈ trees, tree.WellNamed := by
  induction trees with
  | nil => exact ⟨fun _ _ member => absurd member List.not_mem_nil, fun _ => trivial⟩
  | cons first rest ih =>
    rw [List.forall_mem_cons, ← ih]
    exact Iff.rfl

theorem Entry.wellNamedAll_iff (entries : List Entry) :
    Entry.WellNamedAll entries ↔ ∀ entry ∈ entries, entry.WellNamed := by
  induction entries with
  | nil => exact ⟨fun _ _ member => absurd member List.not_mem_nil, fun _ => trivial⟩
  | cons first rest ih =>
    rw [List.forall_mem_cons, ← ih]
    exact Iff.rfl

/-! ### Constants -/

/-- The same constant, but one and the same double for all that is not a number. -/
def Constant.identifyNaN : Constant → Constant
  | .double value => .double value.identifyNaN
  | value => value

mutual

/-- The same tree, but one and the same double for all that is not a number. -/
def Expr.identifyNaNs : Expr → Expr
  | .literal id value => .literal id value.identifyNaN
  | .ident id name => .ident id name
  | .select id operand field testOnly => .select id operand.identifyNaNs field testOnly
  | .call id function args => .call id function (Expr.identifyNaNsAll args)
  | .memberCall id target function args =>
    .memberCall id target.identifyNaNs function (Expr.identifyNaNsAll args)
  | .list id elements => .list id (Expr.identifyNaNsAll elements)
  | .struct id message entries => .struct id message (Entry.identifyNaNsAll entries)
  | .comprehension id iterVar iterVar2 range accuVar init condition step result =>
    .comprehension id iterVar iterVar2 range.identifyNaNs accuVar init.identifyNaNs
      condition.identifyNaNs step.identifyNaNs result.identifyNaNs

/-- Several trees, but one and the same double for all that is not a number. -/
def Expr.identifyNaNsAll : List Expr → List Expr
  | [] => []
  | first :: rest => first.identifyNaNs :: Expr.identifyNaNsAll rest

/-- The same entry, but one and the same double for all that is not a number. -/
def Entry.identifyNaNs : Entry → Entry
  | .map id key value optional => .map id key.identifyNaNs value.identifyNaNs optional
  | .field id name value optional => .field id name value.identifyNaNs optional

/-- Several entries, but one and the same double for all that is not a number. -/
def Entry.identifyNaNsAll : List Entry → List Entry
  | [] => []
  | first :: rest => first.identifyNaNs :: Entry.identifyNaNsAll rest

end

theorem Expr.identifyNaNsAll_eq_map (trees : List Expr) :
    Expr.identifyNaNsAll trees = trees.map Expr.identifyNaNs := by
  induction trees with
  | nil => rfl
  | cons first rest ih => rw [Expr.identifyNaNsAll, ih, List.map_cons]

theorem Entry.identifyNaNsAll_eq_map (entries : List Entry) :
    Entry.identifyNaNsAll entries = entries.map Entry.identifyNaNs := by
  induction entries with
  | nil => rfl
  | cons first rest ih => rw [Entry.identifyNaNsAll, ih, List.map_cons]

end CelTree
