/-
**Reading a document.**

The reader is a machine that goes over the tokens once. It holds the containers that are open,
innermost first, and what it expects next.

* `Frame`, `Expected`: its state.
* `Reader.next`: one token.
* `Json.read`: the value of a text that is one document and nothing else.
-/

import CelTree.Json.Token

namespace CelTree.Json

/-- A container that is still open, with what it holds so far. -/
inductive Frame
  | array (items : List Json)
  | object (members : List Member) (key : List Char)

/-- What comes next. -/
inductive Expected
  /-- A value; the end of an array too, if nothing stands in it yet. -/
  | value (orEnd : Bool)
  /-- A key for an object with these members; its end too, if nothing stands in it yet. -/
  | key (members : List Member) (orEnd : Bool)
  /-- The colon after a key. -/
  | colon (members : List Member) (key : List Char)
  /-- What follows a finished value. -/
  | separator (finished : Json)

/-- The state of the reader. -/
structure Reader where
  frames : List Frame := []
  expected : Expected := .value false

namespace Reader

/-- The state after one token. -/
def next (reader : Reader) (token : Token) : Option Reader :=
  match reader.expected, token with
  | .value _, .scalar value => some { reader with expected := .separator value }
  | .value _, .string body => some { reader with expected := .separator (.string body) }
  | .value _, .openArray => some ⟨.array [] :: reader.frames, .value true⟩
  | .value _, .openObject => some { reader with expected := .key [] true }
  | .value true, .closeArray =>
    match reader.frames with
    | .array [] :: outer => some ⟨outer, .separator (.array [])⟩
    | _ => none
  | .key members _, .string key => some { reader with expected := .colon members key }
  | .key _ true, .closeObject => some { reader with expected := .separator (.object []) }
  | .colon members key, .colon => some ⟨.object members key :: reader.frames, .value false⟩
  | .separator finished, .comma =>
    match reader.frames with
    | .array items :: outer => some ⟨.array (items ++ [finished]) :: outer, .value false⟩
    | .object members key :: outer => some ⟨outer, .key (members ++ [.mk key finished]) false⟩
    | [] => none
  | .separator finished, .closeArray =>
    match reader.frames with
    | .array items :: outer => some ⟨outer, .separator (.array (items ++ [finished]))⟩
    | _ => none
  | .separator finished, .closeObject =>
    match reader.frames with
    | .object members key :: outer =>
      some ⟨outer, .separator (.object (members ++ [.mk key finished]))⟩
    | _ => none
  | _, _ => none

/-- The value of the tokens that are left. -/
def finish (reader : Reader) : List Token → Option Json
  | [] =>
    match reader.frames, reader.expected with
    | [], .separator finished => some finished
    | _, _ => none
  | token :: rest =>
    match reader.next token with
    | some reader => reader.finish rest
    | none => none

end Reader

/-- The value of a text that is one JSON document. -/
def read (text : String) : Option Json :=
  match tokens text.toList with
  | some found => ({} : Reader).finish found
  | none => none

end CelTree.Json
