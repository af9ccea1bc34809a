/-
**What is recorded beside a tree.**

* `SourceInfo.positions`: where each id was allocated.
* `SourceInfo.macroCalls`: the call as written, for each node that replaced one.
-/

import CelTree.IdMap
import CelTree.Literal.Error

namespace CelTree

/-- The version of an extension. -/
structure ExtensionVersion where
  major : Int64
  minor : Int64
deriving DecidableEq, Repr

/-- A marker of a language extension, carried along unread. -/
structure Extension where
  id : String
  affectedComponents : List Int32
  version : Option ExtensionVersion
deriving DecidableEq, Repr

/-- What is recorded beside one tree. -/
structure SourceInfo where
  syntaxVersion : String := ""
  location : String := ""
  lineOffsets : List Int32 := []
  /-- The offset at which each id was allocated, whether or not its node is still in the tree. -/
  positions : IdMap Offset := .empty
  /-- The written call of each node that a macro put in its place. -/
  macroCalls : IdMap Expr := .empty
  extensions : List Extension := []

namespace SourceInfo

instance : Inhabited SourceInfo := ⟨{}⟩

/-- Records where an id was allocated. -/
def recordPosition (info : SourceInfo) (id : Int) (offset : Offset) : SourceInfo :=
  { info with positions := info.positions.insert id offset }

/-- Records the written call of a node. -/
def recordMacroCall (info : SourceInfo) (id : Int) (call : Expr) : SourceInfo :=
  { info with macroCalls := info.macroCalls.insert id call }

end SourceInfo

end CelTree
