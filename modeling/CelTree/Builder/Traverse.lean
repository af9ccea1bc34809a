/-
**Steps over other kinds of parts.**

* `NodeOperation.references`, `EntryOperation.references`: the parts of a step over references, in
  order.
* `NodeOperation.resolve?`, `EntryOperation.resolve?`: the step with each reference replaced by what
  it refers to; nothing if one refers to nothing.
-/

import CelTree.Builder.Operation

namespace CelTree

namespace NodeOperation

/-- The references of a step, from left to right. -/
def references {ρ : Type} : NodeOperation ρ ρ → List ρ
  | .literal _ => []
  | .ident _ => []
  | .select operand _ => [operand]
  | .call _ args => args
  | .memberCall target _ args => target :: args
  | .operatorCall _ args => args
  | .index operand subscript => [operand, subscript]
  | .list elements => elements
  | .struct _ entries => entries

/-- The step over what its references refer to. -/
def resolve? {ρ ν ε : Type} (nodeOf : ρ → Option ν) (entryOf : ρ → Option ε) :
    NodeOperation ρ ρ → Option (NodeOperation ν ε)
  | .literal source => some (.literal source)
  | .ident name => some (.ident name)
  | .select operand field => do return .select (← nodeOf operand) field
  | .call function args => do return .call function (← args.mapM nodeOf)
  | .memberCall target function args => do
    return .memberCall (← nodeOf target) function (← args.mapM nodeOf)
  | .operatorCall operator args => do return .operatorCall operator (← args.mapM nodeOf)
  | .index operand subscript => do return .index (← nodeOf operand) (← nodeOf subscript)
  | .list elements => do return .list (← elements.mapM nodeOf)
  | .struct message entries => do return .struct message (← entries.mapM entryOf)

end NodeOperation

namespace EntryOperation

/-- The references of a step, from left to right. -/
def references {ρ : Type} : EntryOperation ρ → List ρ
  | .map key value _ => [key, value]
  | .field _ value _ => [value]

/-- The step over what its references refer to. -/
def resolve? {ρ ν : Type} (nodeOf : ρ → Option ν) : EntryOperation ρ → Option (EntryOperation ν)
  | .map key value optional => do return .map (← nodeOf key) (← nodeOf value) optional
  | .field name value optional => do return .field name (← nodeOf value) optional

end EntryOperation

end CelTree
