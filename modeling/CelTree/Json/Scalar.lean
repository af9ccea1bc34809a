/-
**Constants, macros and options as documents.**

Each type has a writer `to…` and a reader `of…?`. Readers are told how many more containers may be
opened, and how the spelling of a double is read if there may be any.

* `Constant`: an alternative; integers and doubles are numbers, bytes an array of numbers.
* `Macro`: its function name; `MacroSet`: an array of those.
* `Options`: a record whose fields have defaults.
-/

import CelTree.Constant
import CelTree.Json.Field
import CelTree.Json.Number
import CelTree.Options

namespace CelTree

open Json

namespace Constant

/-- A constant as a document. -/
def toJson : Constant → Json
  | .null => ofText "Null"
  | .bool value => ofAlternative "Bool" (.bool value)
  | .int64 value => ofAlternative "Int64" (ofInteger value.toInt)
  | .uint64 value => ofAlternative "Uint64" (ofInteger value.toNat)
  | .double value => ofAlternative "Double" (ofDouble value)
  | .string value => ofAlternative "String" (ofText value)
  | .bytes value => ofAlternative "Bytes" (.array (value.map fun byte => ofInteger byte.toNat))

/-- The content of a constant with the given name. -/
def ofContent? (readDouble : List Char → Option Double) (depth : Nat) (name : String)
    (content : Json) : Option Constant :=
  if name = "Null" then
    match content with
    | .null => some .null
    | _ => none
  else if name = "Bool" then content.toBool.map .bool
  else if name = "Int64" then content.toInt64.map fun value => .int64 (Int64.ofInt value)
  else if name = "Uint64" then content.toUInt64.map .uint64
  else if name = "Double" then (content.toDouble readDouble).map .double
  else if name = "String" then content.toText.map .string
  else if name = "Bytes" then
    if depth = 0 then none
    else do
      let bytes ← (← content.items).mapM Json.toByte
      return .bytes bytes
  else none

/-- The constant of a document. -/
def ofJson? (readDouble : List Char → Option Double) : Nat → Json → Option Constant
  | _, .string body => if unescape body = some "Null".toList then some .null else none
  | 0, _ => none
  | depth + 1, json => do
    let (name, content) ← json.alternative
    ofContent? readDouble depth name content

end Constant

namespace Macro

/-- A macro as a document. -/
def toJson (m : Macro) : Json := ofText m.function

/-- The macro with exactly this function name. -/
def ofName? (name : String) : Option Macro := everyMacro.find? fun m => m.function == name

/-- The macro of a document. -/
def ofJson? : Nat → Json → Option Macro
  | _, .string body => (unescape body).bind fun name => ofName? (String.ofList name)
  | 0, _ => none
  | _ + 1, json => do
    match ← json.alternative with
    | (name, .null) => ofName? name
    | _ => none

end Macro

namespace MacroSet

/-- A set of macros as a document. -/
def toJson (set : MacroSet) : Json := .array (set.toList.map Macro.toJson)

/-- The set of macros of a document. -/
def ofJson? : Nat → Json → Option MacroSet
  | 0, _ => Option.none
  | depth + 1, json => do
    let macros ← (← json.items).mapM (Macro.ofJson? depth)
    return .ofList macros

end MacroSet

namespace Options

/-- The names of the fields. -/
def fieldNames : List String := ["populate_macro_calls", "macros"]

/-- Options as a document. -/
def toJson (options : Options) : Json :=
  ofFields
    [("populate_macro_calls", .bool options.recordCalls), ("macros", options.macros.toJson)]

/-- The options of a document; absent fields have their defaults. -/
def ofJson? : Nat → Json → Option Options
  | 0, _ => none
  | depth + 1, json => do
    match ← json.record fieldNames true with
    | [recordCalls, macros] =>
      let recordCalls ← (recordCalls.map Json.toBool).getD (some true)
      let macros ← (macros.map (MacroSet.ofJson? depth)).getD (some .all)
      return { recordCalls, macros }
    | _ => none

end Options

end CelTree
