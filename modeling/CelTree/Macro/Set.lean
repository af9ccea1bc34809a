/-
**Sets of macros.**

* `MacroSet`: a set by its members; sets with the same members are equal.
* `MacroSet.toList`: the members in the order of `Macro.everyMacro`.
-/

import CelTree.Macro.Basic

namespace CelTree

/-- A set of macros. -/
@[ext]
structure MacroSet where
  contains : Macro → Bool

namespace MacroSet

/-- The set of every macro. -/
def all : MacroSet := ⟨fun _ => true⟩

/-- The empty set. -/
def none : MacroSet := ⟨fun _ => false⟩

/-- The set with one more member. -/
def insert (set : MacroSet) (m : Macro) : MacroSet := ⟨fun other => other == m || set.contains other⟩

/-- The set without one member. -/
def erase (set : MacroSet) (m : Macro) : MacroSet := ⟨fun other => other != m && set.contains other⟩

/-- The set of the members of a list. -/
def ofList (macros : List Macro) : MacroSet := ⟨fun m => macros.contains m⟩

/-- The members in the order of `Macro.everyMacro`. -/
def toList (set : MacroSet) : List Macro := Macro.everyMacro.filter set.contains

theorem mem_toList (set : MacroSet) (m : Macro) : m ∈ set.toList ↔ set.contains m = true := by
  simp [toList, Macro.mem_everyMacro]

theorem ofList_toList (set : MacroSet) : ofList set.toList = set := by
  ext m
  rw [ofList]
  by_cases member : set.contains m = true
  · simp [(mem_toList set m).mpr member, member]
  · simp [mt (mem_toList set m).mp member, member]

end MacroSet

end CelTree
