import CallPath.Details.Json
import CallPath.Details.Update
import CallPath.Operation
/-!
# Operations, updates and misuse as data

An operation is described by an object that names its kind and has the texts the kind needs, with
info objects nested in it; an update by an object that names a field and has its value. A text that
is missing from a description reads as empty, which the checks of the operation refuse; a missing
channel is the default one.
-/

namespace CallPath

namespace Json

/-- The first value of a key of an object; null if there is none. -/
def get (v : Json) (key : String) : Json :=
  match v with
  | .object fields => (fields.find? (·.1 = key)).elim .null Prod.snd
  | _ => .null

/-- The text under a key, if there is one. -/
def textAt? (v : Json) (key : String) : Option String :=
  text? (v.get key)

/-- The text under a key; empty if there is none. -/
def textAt (v : Json) (key : String) : String :=
  (v.textAt? key).getD ""

end Json

open Json

/-- A channel as described. -/
def Channel.ofDescription (v : Json) : Channel where
  type := (ChannelType.all.find? (·.key = v.textAt "type")).getD .other
  endpoint := v.textAt? "endpoint"

/-- A database as described, not checked yet. -/
def DatabaseInfo.ofDescription (v : Json) : DatabaseInfo where
  name := v.textAt "name"
  vendor := v.textAt "vendor"
  channel := .ofDescription (v.get "channel")

/-- A web application as described, not checked yet. -/
def WebApplicationInfo.ofDescription (v : Json) : WebApplicationInfo where
  virtualHost := v.textAt "virtual_host"
  applicationId := v.textAt "application_id"
  contextRoot := v.textAt "context_root"

/-- A messaging system as described, not checked yet. -/
def MessagingSystemInfo.ofDescription (v : Json) : MessagingSystemInfo where
  vendor := v.textAt "vendor"
  destinationName := v.textAt "destination"
  destinationType := (DestinationType.all.find? (·.key = v.textAt "type")).getD .queue
  channel := .ofDescription (v.get "channel")

/-- An operation as described, with the link it follows if it is one that follows a link. -/
def Operation.ofDescription? (v : Json) (link : InProcessLink) : Option Operation :=
  let method := v.textAt "method"
  let service := v.textAt "service"
  let endpoint := v.textAt "endpoint"
  let url := v.textAt "url"
  let system := MessagingSystemInfo.ofDescription (v.get "system")
  (Kind.all.find? (·.key = v.textAt "kind")).map fun
    | .incomingRemoteCall => .incomingRemoteCall method service endpoint
    | .outgoingRemoteCall =>
      .outgoingRemoteCall method service endpoint (.ofDescription (v.get "channel"))
    | .databaseRequest => .databaseRequest (.ofDescription (v.get "db")) (v.textAt "sql")
    | .incomingWebRequest => .incomingWebRequest (.ofDescription (v.get "app")) url method
    | .outgoingWebRequest => .outgoingWebRequest url method
    | .outgoingMessage => .outgoingMessage system
    | .incomingMessageReceive => .incomingMessageReceive system
    | .incomingMessageProcess => .incomingMessageProcess system
    | .customService => .customService method service
    | .inProcessLink => .inProcessLink link

namespace Update

/-- The new value of the field. -/
def valueJson : Update → Json
  | protocolName v | remoteAddress v => Json.ofOption v
  | requestHeader n v | responseHeader n v | parameter n v => .array [.string n, .string v]
  | statusCode c => .integer c.toNat
  | returnedRowCount n | roundTripCount n => .integer n.toNat
  | vendorMessageId s | correlationId s => .string s

/-- The field and its new value. -/
def toJson (u : Update) : Json :=
  .object [("field", .string u.field.name), ("v", u.valueJson)]

/-- The update that sets a field to a value. -/
def ofValue? (f : Field) (v : Json) : Option Update :=
  match f with
  | .protocolName => some (.protocolName (text? v))
  | .remoteAddress => some (.remoteAddress (text? v))
  | .requestHeader => (pair? text? text? v).map fun (n, x) => .requestHeader n x
  | .responseHeader => (pair? text? text? v).map fun (n, x) => .responseHeader n x
  | .parameter => (pair? text? text? v).map fun (n, x) => .parameter n x
  | .statusCode => (word16? v).map .statusCode
  | .returnedRowCount => (word64? v).map .returnedRowCount
  | .roundTripCount => (word64? v).map .roundTripCount
  | .vendorMessageId => (text? v).map .vendorMessageId
  | .correlationId => (text? v).map .correlationId

/-- The update of the field with a name. -/
def ofNamed? (name : String) (v : Json) : Option Update := do
  ofValue? (← Field.all.find? (·.name = name)) v

/-- The field and its new value, as they are written. -/
def ofJson? (v : Json) : Option Update :=
  ofNamed? (v.textAt "field") (v.get "v")

end Update

/-- A misuse: its name and message, and whether it broke the nesting or came from a foreign
thread. -/
def UsageError.toFields (e : UsageError) : List (String × Json) :=
  [("error", .string e.name), ("message", .string e.message)] ++
  (if e.isStructural then [("structural", .bool true)] else []) ++
  (if e.isThreadAffinity then [("thread_affinity", .bool true)] else [])

end CallPath
