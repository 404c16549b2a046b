import CallPath.Details
import CallPath.Tag
import CallPath.Json.Record
/-!
# Details as JSON

Details are written as one object whose first field, `kind`, names the kind; every optional field
is present. They are read from such an object, with fields in any order, or from an array of the
kind and the fields in order. Info objects and enumerations are written and read on their own too.

`kept` is passed to every reader of an enumeration: details and attribute values are kept as a
whole before their fields are looked at.
-/

namespace CallPath

namespace Json

/-- The greatest depth of a value that is kept as a whole. -/
def keptDepth : Nat := 127

/-- A list of pairs of texts, each an array of two. -/
def ofPairs (pairs : List (String × String)) : Json :=
  .array (pairs.map fun (k, v) => .array [.string k, .string v])

/-- A list of pairs of texts. -/
def pairs? : Json → Option (List (String × String)) :=
  list? (pair? text? text?)

/-- A 16-bit number. -/
def word16? (v : Json) : Option UInt16 :=
  (nat? UInt16.size v).map UInt16.ofNat

/-- A 64-bit number. -/
def word64? (v : Json) : Option UInt64 :=
  (nat? UInt64.size v).map UInt64.ofNat

end Json

open Json

namespace TracerId

/-- The id as it is shown. -/
def toJson (id : TracerId) : Json :=
  .string id.text

/-- An id from its 26 characters. -/
def ofJson? : Json → Option TracerId
  | .string s => ofText? s
  | _ => none

end TracerId

namespace Channel

def toJson (c : Channel) : Json :=
  .object [("channel_type", .string c.type.key), ("endpoint", Json.ofOption c.endpoint)]

def ofJson? (kept : Bool) (v : Json) : Option Channel := do
  match ← record? ["channel_type", "endpoint"] v with
  | [type, endpoint] =>
    return {
      type := ← required (enum? kept ChannelType.all ChannelType.key) type
      endpoint := ← optional text? endpoint }
  | _ => none

end Channel

namespace DatabaseInfo

def toJson (d : DatabaseInfo) : Json :=
  .object [("name", .string d.name), ("vendor", .string d.vendor), ("channel", d.channel.toJson)]

def ofJson? (kept : Bool) (v : Json) : Option DatabaseInfo := do
  match ← record? ["name", "vendor", "channel"] v with
  | [name, vendor, channel] =>
    return {
      name := ← required text? name
      vendor := ← required text? vendor
      channel := ← required (Channel.ofJson? kept) channel }
  | _ => none

end DatabaseInfo

namespace WebApplicationInfo

def toJson (a : WebApplicationInfo) : Json :=
  .object [("virtual_host", .string a.virtualHost), ("application_id", .string a.applicationId),
    ("context_root", .string a.contextRoot)]

def ofJson? (v : Json) : Option WebApplicationInfo := do
  match ← record? ["virtual_host", "application_id", "context_root"] v with
  | [virtualHost, applicationId, contextRoot] =>
    return {
      virtualHost := ← required text? virtualHost
      applicationId := ← required text? applicationId
      contextRoot := ← required text? contextRoot }
  | _ => none

end WebApplicationInfo

namespace MessagingSystemInfo

/-- The names of the fields. -/
def fieldNames : List String :=
  ["vendor", "destination_name", "destination_type", "channel"]

/-- The fields with their names. -/
def toFields (m : MessagingSystemInfo) : List (String × Json) :=
  [("vendor", .string m.vendor), ("destination_name", .string m.destinationName),
    ("destination_type", .string m.destinationType.key), ("channel", m.channel.toJson)]

def toJson (m : MessagingSystemInfo) : Json :=
  .object m.toFields

/-- Reads the values of the fields, in order. -/
def ofFields? (kept : Bool) : List (Option Json) → Option MessagingSystemInfo
  | [vendor, destinationName, destinationType, channel] => do
    return {
      vendor := ← required text? vendor
      destinationName := ← required text? destinationName
      destinationType :=
        ← required (enum? kept DestinationType.all DestinationType.key) destinationType
      channel := ← required (Channel.ofJson? kept) channel }
  | _ => none

def ofJson? (kept : Bool) (v : Json) : Option MessagingSystemInfo := do
  ofFields? kept (← record? fieldNames v)

end MessagingSystemInfo

namespace RemoteCall

def fieldNames : List String :=
  ["method", "service", "endpoint", "channel", "protocol_name"]

def toFields (c : RemoteCall) : List (String × Json) :=
  [("method", .string c.method), ("service", .string c.service), ("endpoint", .string c.endpoint),
    ("channel", c.channel.elim .null Channel.toJson), ("protocol_name", ofOption c.protocolName)]

def ofFields? : List (Option Json) → Option RemoteCall
  | [method, service, endpoint, channel, protocolName] => do
    return {
      method := ← required text? method
      service := ← required text? service
      endpoint := ← required text? endpoint
      channel := ← optional (Channel.ofJson? true) channel
      protocolName := ← optional text? protocolName }
  | _ => none

end RemoteCall

namespace DatabaseRequest

def fieldNames : List String :=
  ["database", "sql", "returned_row_count", "round_trip_count"]

def toFields (r : DatabaseRequest) : List (String × Json) :=
  [("database", r.database.toJson), ("sql", .string r.sql),
    ("returned_row_count", ofCount (r.returnedRowCount.map UInt64.toNat)),
    ("round_trip_count", ofCount (r.roundTripCount.map UInt64.toNat))]

def ofFields? : List (Option Json) → Option DatabaseRequest
  | [database, sql, returnedRowCount, roundTripCount] => do
    return {
      database := ← required (DatabaseInfo.ofJson? true) database
      sql := ← required text? sql
      returnedRowCount := ← optional word64? returnedRowCount
      roundTripCount := ← optional word64? roundTripCount }
  | _ => none

end DatabaseRequest

namespace IncomingWebRequest

def fieldNames : List String :=
  ["application", "url", "method", "request_headers", "response_headers", "parameters",
    "remote_address", "status_code"]

def toFields (r : IncomingWebRequest) : List (String × Json) :=
  [("application", r.application.toJson), ("url", .string r.url), ("method", .string r.method),
    ("request_headers", ofPairs r.requestHeaders), ("response_headers", ofPairs r.responseHeaders),
    ("parameters", ofPairs r.parameters), ("remote_address", ofOption r.remoteAddress),
    ("status_code", ofCount (r.statusCode.map UInt16.toNat))]

def ofFields? : List (Option Json) → Option IncomingWebRequest
  | [application, url, method, requestHeaders, responseHeaders, parameters, remoteAddress,
      statusCode] => do
    return {
      application := ← required WebApplicationInfo.ofJson? application
      url := ← required text? url
      method := ← required text? method
      requestHeaders := ← required pairs? requestHeaders
      responseHeaders := ← required pairs? responseHeaders
      parameters := ← required pairs? parameters
      remoteAddress := ← optional text? remoteAddress
      statusCode := ← optional word16? statusCode }
  | _ => none

end IncomingWebRequest

namespace OutgoingWebRequest

def fieldNames : List String :=
  ["url", "method", "request_headers", "response_headers", "status_code"]

def toFields (r : OutgoingWebRequest) : List (String × Json) :=
  [("url", .string r.url), ("method", .string r.method),
    ("request_headers", ofPairs r.requestHeaders), ("response_headers", ofPairs r.responseHeaders),
    ("status_code", ofCount (r.statusCode.map UInt16.toNat))]

def ofFields? : List (Option Json) → Option OutgoingWebRequest
  | [url, method, requestHeaders, responseHeaders, statusCode] => do
    return {
      url := ← required text? url
      method := ← required text? method
      requestHeaders := ← required pairs? requestHeaders
      responseHeaders := ← required pairs? responseHeaders
      statusCode := ← optional word16? statusCode }
  | _ => none

end OutgoingWebRequest

namespace Message

def fieldNames : List String :=
  ["system", "vendor_message_id", "correlation_id"]

def toFields (m : Message) : List (String × Json) :=
  [("system", m.system.toJson), ("vendor_message_id", ofOption m.vendorMessageId),
    ("correlation_id", ofOption m.correlationId)]

def ofFields? : List (Option Json) → Option Message
  | [system, vendorMessageId, correlationId] => do
    return {
      system := ← required (MessagingSystemInfo.ofJson? true) system
      vendorMessageId := ← optional text? vendorMessageId
      correlationId := ← optional text? correlationId }
  | _ => none

end Message

namespace CustomService

def fieldNames : List String :=
  ["method", "service"]

def toFields (s : CustomService) : List (String × Json) :=
  [("method", .string s.method), ("service", .string s.service)]

def ofFields? : List (Option Json) → Option CustomService
  | [method, service] => do
    return { method := ← required text? method, service := ← required text? service }
  | _ => none

end CustomService

namespace Details

/-- The names of the fields of a kind. -/
def fieldNames : Kind → List String
  | .incomingRemoteCall | .outgoingRemoteCall => RemoteCall.fieldNames
  | .databaseRequest => DatabaseRequest.fieldNames
  | .incomingWebRequest => IncomingWebRequest.fieldNames
  | .outgoingWebRequest => OutgoingWebRequest.fieldNames
  | .outgoingMessage | .incomingMessageProcess => Message.fieldNames
  | .incomingMessageReceive => MessagingSystemInfo.fieldNames
  | .customService => CustomService.fieldNames
  | .inProcessLink => ["target"]

/-- The fields with their names, the kind excepted. -/
def toFields : Details → List (String × Json)
  | incomingRemoteCall c | outgoingRemoteCall c => c.toFields
  | databaseRequest r => r.toFields
  | incomingWebRequest r => r.toFields
  | outgoingWebRequest r => r.toFields
  | outgoingMessage m | incomingMessageProcess m => m.toFields
  | incomingMessageReceive m => m.toFields
  | customService s => s.toFields
  | inProcessLink target => [("target", target.elim .null TracerId.toJson)]

/-- Reads the values of the fields of a kind, in order. -/
def ofFields? : Kind → List (Option Json) → Option Details
  | .incomingRemoteCall, vs => (RemoteCall.ofFields? vs).map .incomingRemoteCall
  | .outgoingRemoteCall, vs => (RemoteCall.ofFields? vs).map .outgoingRemoteCall
  | .databaseRequest, vs => (DatabaseRequest.ofFields? vs).map .databaseRequest
  | .incomingWebRequest, vs => (IncomingWebRequest.ofFields? vs).map .incomingWebRequest
  | .outgoingWebRequest, vs => (OutgoingWebRequest.ofFields? vs).map .outgoingWebRequest
  | .outgoingMessage, vs => (Message.ofFields? vs).map .outgoingMessage
  | .incomingMessageReceive, vs =>
    (MessagingSystemInfo.ofFields? true vs).map .incomingMessageReceive
  | .incomingMessageProcess, vs => (Message.ofFields? vs).map .incomingMessageProcess
  | .customService, vs => (CustomService.ofFields? vs).map .customService
  | .inProcessLink, [target] => (optional TracerId.ofJson? target).map .inProcessLink
  | .inProcessLink, _ => none

/-- The fields with their names, the kind first. -/
def toTaggedFields (d : Details) : List (String × Json) :=
  ("kind", .string d.kind.key) :: d.toFields

def toJson (d : Details) : Json :=
  .object d.toTaggedFields

/-- The kind with the given name in serialized data. -/
def kindOf? (v : Json) : Option Kind := do
  let key ← text? v
  Kind.all.find? (·.key = key)

/-- Reads details from an object with a field `kind`, or from an array that starts with the
kind. -/
def ofJson? (v : Json) : Option Details :=
  if v.fits keptDepth then
    match v with
    | .object fields => do
      let kind ← required kindOf? (← field? fields "kind")
      ofFields? kind (← record? (fieldNames kind) (.object fields))
    | .array (tag :: items) => do
      let kind ← kindOf? tag
      ofFields? kind (← record? (fieldNames kind) (.array items))
    | _ => none
  else none

end Details

namespace AttributeValue

/-- A float that is not finite has no representation and is written as null. -/
def toJson : AttributeValue → Json
  | integer n => .integer n
  | float bits => if (Float.ofBits bits).isFinite then .float bits else .null
  | string s => .string s

/-- An integer is read as such if it has a sign and fits in 64 bits with it, and as a float
otherwise. -/
def ofJson? : Json → Option AttributeValue
  | .integer n =>
    if -Int.pow 2 63 ≤ n ∧ n < Int.pow 2 63 then some (.integer n)
    else some (.float (UInt64.ofNat n.toNat).toFloat.toBits)
  | .float bits => some (.float bits)
  | .string s => some (.string s)
  | _ => none

end AttributeValue

namespace IncomingTag

def toJson : IncomingTag → Json
  | .string s => .object [("string", .string s)]
  | .bytes b => .object [("bytes", .array (b.map fun x => .integer x.toNat))]

/-- An object whose only field names the form. -/
def ofJson? : Json → Option IncomingTag
  | .object [("string", v)] => (text? v).map IncomingTag.string
  | .object [("bytes", v)] =>
    (list? (fun x => (nat? UInt8.size x).map UInt8.ofNat) v).map IncomingTag.bytes
  | _ => none

end IncomingTag

end CallPath
