/-
**JSON documents.**

A document keeps the spelling of its numbers and strings, so that what nobody reads is checked as
text only.

* `Json`, `Member`: values, and the members of objects in their order.
* `Json.write`: the compact text of a value.
-/

namespace CelTree

mutual

/-- A JSON value. -/
inductive Json
  | null
  | bool (value : Bool)
  /-- A number by its spelling. -/
  | number (spelling : List Char)
  /-- A string by what stands between its quotes. -/
  | string (body : List Char)
  | array (items : List Json)
  | object (members : List Member)

/-- A member of an object. -/
inductive Member
  | mk (key : List Char) (value : Json)

end

instance : Inhabited Json := ⟨.null⟩

namespace Member

/-- What stands between the quotes of a member's key. -/
def key : Member → List Char
  | .mk key _ => key

/-- The value of a member. -/
def value : Member → Json
  | .mk _ value => value

end Member

mutual

/-- The compact text of a value. -/
def Json.write : Json → List Char
  | .null => ['n', 'u', 'l', 'l']
  | .bool true => ['t', 'r', 'u', 'e']
  | .bool false => ['f', 'a', 'l', 's', 'e']
  | .number spelling => spelling
  | .string body => '"' :: body ++ ['"']
  | .array items => '[' :: Json.writeAll items ++ [']']
  | .object members => '\x7b' :: Member.writeAll members ++ ['\x7d']

/-- The texts of several values with commas between them. -/
def Json.writeAll : List Json → List Char
  | [] => []
  | [last] => last.write
  | first :: second :: rest => first.write ++ ',' :: Json.writeAll (second :: rest)

/-- The text of a member. -/
def Member.write : Member → List Char
  | .mk key value => '"' :: key ++ '"' :: ':' :: value.write

/-- The texts of several members with commas between them. -/
def Member.writeAll : List Member → List Char
  | [] => []
  | [last] => last.write
  | first :: second :: rest => first.write ++ ',' :: Member.writeAll (second :: rest)

end

end CelTree
