/-
**Source information as a document.**

* `IdMap.toJson`, `IdMap.ofJson?`: a map is an object whose keys are ids in decimal; of a repeated
  id the last value counts.
* `SourceInfo.toJson`, `SourceInfo.ofJson?`: the record of a tree's source.
-/

import CelTree.Json.Tree
import CelTree.SourceInfo

namespace CelTree

open Json

namespace IdMap

variable {α : Type}

/-- A map as a document, ids in ascending order. -/
def toJson (value : α → Json) (map : IdMap α) : Json :=
  .object (map.entries.map fun (id, held) => .mk (Text.writeInteger id) (value held))

/-- The entry of a member. Its key is the bare decimal of an id. -/
def ofMember? (value? : Json → Option α) (member : Member) : Option (Int × α) := do
  let id ← (Json.number member.key).toInt64
  return (id, ← value? member.value)

/-- The map of a document. -/
def ofJson? (value? : Json → Option α) : Json → Option (IdMap α)
  | .object members => (members.mapM (ofMember? value?)).map IdMap.ofList
  | _ => none

end IdMap

namespace ExtensionVersion

/-- A version as a document. -/
def toJson (version : ExtensionVersion) : Json :=
  ofFields
    [("major", ofInteger version.major.toInt), ("minor", ofInteger version.minor.toInt)]

/-- The version of a document. -/
def ofJson? : Nat → Json → Option ExtensionVersion
  | 0, _ => none
  | _ + 1, json => do
    match ← json.record ["major", "minor"] false with
    | [some major, some minor] =>
      return ⟨Int64.ofInt (← major.toInt64), Int64.ofInt (← minor.toInt64)⟩
    | _ => none

end ExtensionVersion

/-- An array of signed 32-bit integers. -/
def Json.toInt32s : Nat → Json → Option (List Int32)
  | 0, _ => none
  | _ + 1, json => do (← json.items).mapM Json.toInt32

/-- An array of signed 32-bit integers as a document. -/
def Json.ofInt32s (values : List Int32) : Json :=
  .array (values.map fun value => ofInteger value.toInt)

namespace Extension

/-- An extension as a document. -/
def toJson (extension : Extension) : Json :=
  ofFields
    [("id", ofText extension.id),
      ("affected_components", ofInt32s extension.affectedComponents),
      ("version", (extension.version.map ExtensionVersion.toJson).getD .null)]

/-- The extension of a document. -/
def ofJson? : Nat → Json → Option Extension
  | 0, _ => none
  | depth + 1, json => do
    match ← json.record ["id", "affected_components", "version"] false with
    | [some id, some affectedComponents, version] =>
      return ⟨← id.toText, ← affectedComponents.toInt32s depth,
        ← Json.nullable (ExtensionVersion.ofJson? depth) version⟩
    | _ => none

end Extension

namespace SourceInfo

/-- The names of the fields. -/
def fieldNames : List String :=
  ["syntax_version", "location", "line_offsets", "positions", "macro_calls", "extensions"]

/-- Source information as a document. -/
def toJson (info : SourceInfo) : Json :=
  ofFields
    [("syntax_version", ofText info.syntaxVersion), ("location", ofText info.location),
      ("line_offsets", ofInt32s info.lineOffsets),
      ("positions", info.positions.toJson fun offset => ofInteger offset.toNat),
      ("macro_calls", info.macroCalls.toJson Expr.toJson),
      ("extensions", .array (info.extensions.map Extension.toJson))]

/-- An array of extensions. -/
def extensions? : Nat → Json → Option (List Extension)
  | 0, _ => none
  | depth + 1, json => do (← json.items).mapM (Extension.ofJson? depth)

/-- A map of trees. -/
def macroCalls? (readDouble : List Char → Option Double) : Nat → Json → Option (IdMap Expr)
  | 0, _ => none
  | depth + 1, json => IdMap.ofJson? (Expr.ofJson? readDouble depth) json

/-- The source information of a document. -/
def ofJson? (readDouble : List Char → Option Double) : Nat → Json → Option SourceInfo
  | 0, _ => none
  | depth + 1, json => do
    match ← json.record fieldNames false with
    | [some syntaxVersion, some location, some lineOffsets, some positions, some macroCalls,
        some extensions] =>
      if depth = 0 then none
      else
        return {
          syntaxVersion := ← syntaxVersion.toText
          location := ← location.toText
          lineOffsets := ← lineOffsets.toInt32s depth
          positions := ← IdMap.ofJson? Json.toUInt64 positions
          macroCalls := ← macroCalls? readDouble depth macroCalls
          extensions := ← extensions? depth extensions }
    | _ => none

end SourceInfo

end CelTree
