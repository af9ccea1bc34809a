/-
**Records and alternatives of a document.**

A record is an object with named fields, or an array of the fields in their order. An alternative
is an object with one member, named after the case, or just the name of a case without content.

* `record`: the field values of a record. Other members are skipped, a repeated field is refused.
* `alternative`: the name and the content of an alternative.
-/

import CelTree.Json.Text

namespace CelTree.Json

/-- The number of containers that may be open at once. -/
def maxDepth : Nat := 127

/-- The value of a field among members with known names; a repeated field is refused. -/
def fieldValue (members : List (List Char × Json)) (name : String) : Option (Option Json) :=
  match members.filter fun member => member.1 == name.toList with
  | [] => some none
  | [member] => some (some member.2)
  | _ => none

/-- The fields of a record in the order of their names. An absent field of an object has no value;
an array has all fields, or the first ones if the others have defaults. -/
def record (names : List String) (defaults : Bool) : Json → Option (List (Option Json))
  | .object members => do
    let named ← members.mapM fun member => (unescape member.key).map fun key => (key, member.value)
    names.mapM (fieldValue named)
  | .array items =>
    if items.length = names.length ∨ (defaults ∧ items.length ≤ names.length) then
      some (items.map some ++ List.replicate (names.length - items.length) none)
    else none
  | _ => none

/-- The name and the content of an alternative that is an object. -/
def alternative : Json → Option (String × Json)
  | .object [member] => (unescape member.key).map fun key => (String.ofList key, member.value)
  | _ => none

/-- The items of an array. -/
def items : Json → Option (List Json)
  | .array items => some items
  | _ => none

/-- A boolean. -/
def toBool : Json → Option Bool
  | .bool value => some value
  | _ => none

/-- A value or null; an absent field counts as null. -/
def nullable {α : Type} (read : Json → Option α) : Option Json → Option (Option α)
  | none => some none
  | some .null => some none
  | some json => (read json).map some

/-- A record as an object. -/
def ofFields (fields : List (String × Json)) : Json :=
  .object (fields.map fun (name, value) => .mk (escape name.toList) value)

/-- An alternative as an object. -/
def ofAlternative (name : String) (content : Json) : Json := ofFields [(name, content)]

end CelTree.Json
