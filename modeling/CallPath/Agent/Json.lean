import CallPath.Agent
import CallPath.Encoding.Hex
import CallPath.Operation.Json
/-!
# Agents as JSON

The calls a recording agent has kept are written one array each, the name of the call first. Of the
details that a tracer was created with, only the kind is shown. A tag that carries an id is shown by
that id, with the white space around it if it is text.
-/

namespace CallPath

open Encoding

/-- How a tag is shown. -/
def IncomingTag.display : IncomingTag → String
  | .string s =>
    match Tag.decodeString s with
    | none => s
    | some id =>
      let before := s.toList.takeWhile Text.isBlank
      let after := (s.toList.reverse.takeWhile Text.isBlank).reverse
      String.ofList before ++ "tag(" ++ id.text ++ ")" ++ String.ofList after
  | .bytes b =>
    match Tag.decodeBytes b with
    | none => String.ofList (Hex.encode b)
    | some id => "tag(" ++ id.text ++ ")"

/-- A tag as it is shown, under the name of its form. -/
def IncomingTag.toDisplayJson (tag : IncomingTag) : Json :=
  match tag with
  | .string _ => .object [("string", .string tag.display)]
  | .bytes _ => .object [("bytes", .string tag.display)]

/-- The name of a form. -/
def TagForm.name : TagForm → String
  | .string => "String"
  | .bytes => "Bytes"

/-- A call as an array. -/
def AgentCall.toJson : AgentCall → Json
  | .create id details => .array [.string "create", id.toJson, .string details.kind.name]
  | .update id u => .array [.string "update", id.toJson, u.toJson]
  | .start id => .array [.string "start", id.toJson]
  | .ended id => .array [.string "end", id.toJson]
  | .error id className message =>
    .array [.string "error", id.toJson, .string className, .string message]
  | .getOutgoingTag id form =>
    .array [.string "get_outgoing_tag", id.toJson, .string form.name]
  | .setIncomingTag id tag =>
    .array [.string "set_incoming_tag", id.toJson, tag.toDisplayJson]

/-- What is known of an agent. -/
def Agent.infoFields (a : Agent) : List (String × Json) :=
  [("name", .string a.name), ("version", .string a.version), ("state", .string a.state.name),
    ("found", .bool a.isFound), ("compatible", .bool a.isCompatible),
    ("callback", .bool a.callback.isSet)]

end CallPath
