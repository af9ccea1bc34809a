/-
**Sets of code points as lists of ranges.**

A character property is stored as the list of its inclusive ranges, in ascending order:

* `inRanges`: membership of a code point in such a list.
-/

namespace CelTree.Text

/-- Code points given as inclusive ranges. -/
abbrev Ranges := List (Nat × Nat)

/-- A code point lies in one of the ranges. -/
def inRanges (ranges : Ranges) (code : Nat) : Bool :=
  ranges.any fun range => range.1 ≤ code && code ≤ range.2

theorem inRanges_iff (ranges : Ranges) (code : Nat) :
    inRanges ranges code = true ↔ ∃ range ∈ ranges, range.1 ≤ code ∧ code ≤ range.2 := by
  simp [inRanges]

end CelTree.Text
