/-
**Options of a builder.**

* `Options.recordCalls`: keep the written call of every expanded macro.
* `Options.macros`: the macros to expand; calls of the others stay calls.
-/

import CelTree.Macro.Set

namespace CelTree

/-- The options of a builder. -/
@[ext]
structure Options where
  recordCalls : Bool := true
  macros : MacroSet := .all

instance : Inhabited Options := ⟨{}⟩

end CelTree
