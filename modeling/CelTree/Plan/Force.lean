/-
**Forcing a plan.**

* `Plan.force`: builds a planned tree depth first and from left to right, parts before the whole, a
  target before the arguments and a key before its value. A refused literal stops it; the ids
  allocated until then stay allocated.
-/

import CelTree.Plan.Basic

namespace CelTree

mutual

/-- Builds a planned node. -/
def Plan.force : Plan → Attempt Expr
  | .literal offset source => (NodeOperation.literal source).perform offset
  | .ident offset name => (NodeOperation.ident name).perform offset
  | .select offset operand field => do
    let operand ← operand.force
    (NodeOperation.select operand field).perform offset
  | .call offset function args => do
    let args ← Plan.forceAll args
    (NodeOperation.call function args).perform offset
  | .memberCall offset target function args => do
    let target ← target.force
    let args ← Plan.forceAll args
    (NodeOperation.memberCall target function args).perform offset
  | .operatorCall offset operator args => do
    let args ← Plan.forceAll args
    (NodeOperation.operatorCall operator args).perform offset
  | .index offset operand subscript => do
    let operand ← operand.force
    let subscript ← subscript.force
    (NodeOperation.index operand subscript).perform offset
  | .list offset elements => do
    let elements ← Plan.forceAll elements
    (NodeOperation.list elements).perform offset
  | .struct offset message entries => do
    let entries ← PlanEntry.forceAll entries
    (NodeOperation.struct message entries).perform offset

/-- Builds planned nodes from left to right. -/
def Plan.forceAll : List Plan → Attempt (List Expr)
  | [] => return []
  | first :: rest => do
    let first ← first.force
    let rest ← Plan.forceAll rest
    return first :: rest

/-- Builds a planned entry. -/
def PlanEntry.force : PlanEntry → Attempt Entry
  | .map offset key value optional => do
    let key ← key.force
    let value ← value.force
    (EntryOperation.map key value optional).perform offset
  | .field offset name value optional => do
    let value ← value.force
    (EntryOperation.field name value optional).perform offset

/-- Builds planned entries from left to right. -/
def PlanEntry.forceAll : List PlanEntry → Attempt (List Entry)
  | [] => return []
  | first :: rest => do
    let first ← first.force
    let rest ← PlanEntry.forceAll rest
    return first :: rest

end

end CelTree
