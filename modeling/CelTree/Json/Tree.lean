/-
**Trees as documents.**

A node is a record of its id and its kind, and the kind an alternative whose content is a record.

* `Expr.toJson`, `Entry.toJson`: the documents of trees and entries.
* `Expr.ofJson?`, `Entry.ofJson?`: the trees of documents, if no more containers are open at once
  than allowed, for any way to read the spelling of a double.
-/

import CelTree.Expr.Basic
import CelTree.Json.Scalar

namespace CelTree

open Json

/-- The document of a node. -/
def Json.ofNode (id : Int) (kind : String) (content : Json) : Json :=
  ofFields [("id", ofInteger id), ("kind", ofAlternative kind content)]

mutual

/-- A tree as a document. -/
def Expr.toJson : Expr → Json
  | .literal id value => ofNode id "Literal" value.toJson
  | .ident id name => ofNode id "Ident" (ofFields [("name", ofText name)])
  | .select id operand field testOnly =>
    ofNode id "Select"
      (ofFields
        [("operand", operand.toJson), ("field", ofText field), ("test_only", .bool testOnly)])
  | .call id function args =>
    ofNode id "Call"
      (ofFields
        [("function", ofText function), ("target", .null), ("args", .array (Expr.toJsonAll args))])
  | .memberCall id target function args =>
    ofNode id "Call"
      (ofFields
        [("function", ofText function), ("target", target.toJson),
          ("args", .array (Expr.toJsonAll args))])
  | .list id elements =>
    ofNode id "List" (ofFields [("elements", .array (Expr.toJsonAll elements))])
  | .struct id message entries =>
    ofNode id "Struct"
      (ofFields
        [("message_name", ofText message), ("entries", .array (Entry.toJsonAll entries))])
  | .comprehension id iterVar iterVar2 range accuVar init condition step result =>
    ofNode id "Comprehension"
      (ofFields
        [("iter_var", ofText iterVar), ("iter_var2", ofText iterVar2),
          ("iter_range", range.toJson), ("accu_var", ofText accuVar), ("accu_init", init.toJson),
          ("loop_condition", condition.toJson), ("loop_step", step.toJson),
          ("result", result.toJson)])

/-- Several trees as documents. -/
def Expr.toJsonAll : List Expr → List Json
  | [] => []
  | first :: rest => first.toJson :: Expr.toJsonAll rest

/-- An entry as a document. -/
def Entry.toJson : Entry → Json
  | .map id key value optional =>
    ofFields
      [("id", ofInteger id), ("key", ofAlternative "MapKey" key.toJson), ("value", value.toJson),
        ("optional_entry", .bool optional)]
  | .field id name value optional =>
    ofFields
      [("id", ofInteger id), ("key", ofAlternative "FieldKey" (ofText name)),
        ("value", value.toJson), ("optional_entry", .bool optional)]

/-- Several entries as documents. -/
def Entry.toJsonAll : List Entry → List Json
  | [] => []
  | first :: rest => first.toJson :: Entry.toJsonAll rest

end

section Reading

variable (readDouble : List Char → Option Double)

mutual

/-- The tree of a document. -/
def Expr.ofJson? : Nat → Json → Option Expr
  | 0, _ => none
  | depth + 1, json => do
    match ← json.record ["id", "kind"] false with
    | [some id, some kind] => Expr.ofKind? depth (← id.toInt64) kind
    | _ => none

/-- The node with an id and the kind of a document. -/
def Expr.ofKind? : Nat → Int → Json → Option Expr
  | 0, _, _ => none
  | depth + 1, id, kind => do
    let (name, content) ← kind.alternative
    if name = "Literal" then return .literal id (← Constant.ofJson? readDouble depth content)
    else Expr.ofContent? depth id name content

/-- The node with an id, the name of its kind and the record of its parts. -/
def Expr.ofContent? : Nat → Int → String → Json → Option Expr
  | 0, _, _, _ => none
  | depth + 1, id, name, content =>
    if name = "Ident" then do
      match ← content.record ["name"] false with
      | [some name] => return .ident id (← name.toText)
      | _ => none
    else if name = "Select" then do
      match ← content.record ["operand", "field", "test_only"] false with
      | [some operand, some field, some testOnly] =>
        return .select id (← Expr.ofJson? depth operand) (← field.toText) (← testOnly.toBool)
      | _ => none
    else if name = "Call" then do
      match ← content.record ["function", "target", "args"] false with
      | [some function, target, some args] =>
        let function ← function.toText
        let target ← Json.nullable (Expr.ofJson? depth) target
        let args ← Expr.ofItems? depth args
        match target with
        | some target => return .memberCall id target function args
        | none => return .call id function args
      | _ => none
    else if name = "List" then do
      match ← content.record ["elements"] false with
      | [some elements] => return .list id (← Expr.ofItems? depth elements)
      | _ => none
    else if name = "Struct" then do
      match ← content.record ["message_name", "entries"] false with
      | [some message, some entries] =>
        return .struct id (← message.toText) (← Entry.ofItems? depth entries)
      | _ => none
    else if name = "Comprehension" then do
      match ← content.record
        ["iter_var", "iter_var2", "iter_range", "accu_var", "accu_init", "loop_condition",
          "loop_step", "result"] false with
      | [some iterVar, some iterVar2, some range, some accuVar, some init, some condition,
          some step, some result] =>
        return .comprehension id (← iterVar.toText) (← iterVar2.toText)
          (← Expr.ofJson? depth range) (← accuVar.toText) (← Expr.ofJson? depth init)
          (← Expr.ofJson? depth condition) (← Expr.ofJson? depth step)
          (← Expr.ofJson? depth result)
      | _ => none
    else none

/-- The trees of an array. -/
def Expr.ofItems? : Nat → Json → Option (List Expr)
  | 0, _ => none
  | depth + 1, json => do (← json.items).mapM (Expr.ofJson? depth)

/-- The entry of a document. -/
def Entry.ofJson? : Nat → Json → Option Entry
  | 0, _ => none
  | depth + 1, json => do
    match ← json.record ["id", "key", "value", "optional_entry"] false with
    | [some id, some key, some value, some optional] =>
      Entry.ofParts? depth (← id.toInt64) key (← Expr.ofJson? depth value) (← optional.toBool)
    | _ => none

/-- The entry with the key of a document and other parts that are known. -/
def Entry.ofParts? : Nat → Int → Json → Expr → Bool → Option Entry
  | 0, _, _, _, _ => none
  | depth + 1, id, key, value, optional => do
    let (name, content) ← key.alternative
    if name = "MapKey" then return .map id (← Expr.ofJson? depth content) value optional
    else if name = "FieldKey" then return .field id (← content.toText) value optional
    else none

/-- The entries of an array. -/
def Entry.ofItems? : Nat → Json → Option (List Entry)
  | 0, _ => none
  | depth + 1, json => do (← json.items).mapM (Entry.ofJson? depth)

end

end Reading

end CelTree
