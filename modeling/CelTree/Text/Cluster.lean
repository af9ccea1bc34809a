/-
**Grapheme clusters.**

A text falls into extended grapheme clusters, by the boundary rules of Unicode 17.0:

* `ClusterClass`, `clusterClass`: what the rules see of a character.
* `joined`: no boundary between a character and the text before it.
* `clusters`: the clusters of a text, in order.
* `clusters_flatten`: they concatenate to the text.
-/

import CelTree.Text.ClusterTables

namespace CelTree.Text

/-- What the boundary rules see of a character. -/
inductive ClusterClass
  | carriageReturn
  | lineFeed
  | control
  | extend
  | joiner
  | spacingMark
  | prepend
  | leadingJamo
  | vowelJamo
  | trailingJamo
  | openSyllable
  | closedSyllable
  | consonant
  | pictograph
  | regionalIndicator
  | other
deriving DecidableEq, Repr

/-- The class of a character. The classes are disjoint, so the order of the tests is free. -/
def clusterClass (c : Char) : ClusterClass :=
  let code := c.toNat
  if code = 0xd then .carriageReturn
  else if code = 0xa then .lineFeed
  else if code = 0x200d then .joiner
  else if 0xac00 ≤ code ∧ code ≤ 0xd7a3 then
    if (code - 0xac00) % 28 = 0 then .openSyllable else .closedSyllable
  else if inRanges controlRanges code then .control
  else if inRanges extendRanges code then .extend
  else if inRanges spacingMarkRanges code then .spacingMark
  else if inRanges prependRanges code then .prepend
  else if inRanges conjunctConsonantRanges code then .consonant
  else if inRanges pictographRanges code then .pictograph
  else if inRanges regionalIndicatorRanges code then .regionalIndicator
  else if inRanges leadingJamoRanges code then .leadingJamo
  else if inRanges vowelJamoRanges code then .vowelJamo
  else if inRanges trailingJamoRanges code then .trailingJamo
  else .other

namespace ClusterClass

/-- Boundaries stand on both sides of a line end or a control character. -/
def isBreak : ClusterClass → Bool
  | .carriageReturn | .lineFeed | .control => true
  | _ => false

/-- Characters that never start a cluster after another character. -/
def attaches : ClusterClass → Bool
  | .extend | .joiner | .spacingMark => true
  | _ => false

/-- Two parts of one Hangul syllable. -/
def formSyllable : ClusterClass → ClusterClass → Bool
  | .leadingJamo, .leadingJamo | .leadingJamo, .vowelJamo => true
  | .leadingJamo, .openSyllable | .leadingJamo, .closedSyllable => true
  | .openSyllable, .vowelJamo | .openSyllable, .trailingJamo => true
  | .vowelJamo, .vowelJamo | .vowelJamo, .trailingJamo => true
  | .closedSyllable, .trailingJamo | .trailingJamo, .trailingJamo => true
  | _, _ => false

end ClusterClass

/-- A virama. -/
def isLinker (c : Char) : Bool := inRanges conjunctLinkerRanges c.toNat

/-- A character that may stand between the consonants of a conjunct. -/
def isConjunctInner (c : Char) : Bool := isLinker c || inRanges conjunctExtendRanges c.toNat

/-- The text before, nearest character first, ends in a consonant and a run that holds a virama. -/
def endsConjunct (before : List Char) : Bool :=
  (before.takeWhile isConjunctInner).any isLinker &&
    match before.dropWhile isConjunctInner with
    | c :: _ => clusterClass c == .consonant
    | [] => false

/-- The text before, nearest character first, ends in a pictograph with extending characters. -/
def endsPictograph (before : List Char) : Bool :=
  match before.dropWhile (fun c => clusterClass c == .extend) with
  | c :: _ => clusterClass c == .pictograph
  | [] => false

/-- The text before, nearest character first, ends in an odd number of regional indicators. -/
def endsHalfFlag (before : List Char) : Bool :=
  (before.takeWhile (fun c => clusterClass c == .regionalIndicator)).length % 2 == 1

/-- No boundary between the text before, nearest character first, and the next character. -/
def joined (before : List Char) (next : Char) : Bool :=
  match before with
  | [] => false
  | previous :: earlier =>
    let left := clusterClass previous
    let right := clusterClass next
    if left == .carriageReturn && right == .lineFeed then true
    else if left.isBreak || right.isBreak then false
    else ClusterClass.formSyllable left right || right.attaches || left == .prepend
      || (right == .consonant && endsConjunct before)
      || (left == .joiner && right == .pictograph && endsPictograph earlier)
      || (right == .regionalIndicator && endsHalfFlag before)

/-- The clusters of a text that follows the text `before`, nearest character first. -/
def clustersAfter (before : List Char) : List Char → List (List Char)
  | [] => []
  | [c] => [[c]]
  | c :: next :: rest =>
    match clustersAfter (c :: before) (next :: rest) with
    | [] => [[c]]
    | cluster :: others =>
      if joined (c :: before) next then (c :: cluster) :: others else [c] :: cluster :: others

/-- The extended grapheme clusters of a text. -/
def clusters (text : List Char) : List (List Char) := clustersAfter [] text

theorem clustersAfter_ne_nil (before : List Char) (c : Char) (rest : List Char) :
    clustersAfter before (c :: rest) ≠ [] := by
  cases rest with
  | nil => simp [clustersAfter]
  | cons next rest =>
    rw [clustersAfter]
    split
    · simp
    · split <;> simp

theorem clustersAfter_flatten (before text : List Char) :
    (clustersAfter before text).flatten = text := by
  fun_induction clustersAfter before text with
  | case1 => rfl
  | case2 => rfl
  | case3 before c next rest empty => exact absurd empty (clustersAfter_ne_nil _ _ _)
  | case4 before c next rest cluster others same joins ih => simpa [same] using ih
  | case5 before c next rest cluster others same apart ih => simpa [same] using ih

/-- The clusters of a text concatenate to it. -/
theorem clusters_flatten (text : List Char) : (clusters text).flatten = text :=
  clustersAfter_flatten [] text

end CelTree.Text
