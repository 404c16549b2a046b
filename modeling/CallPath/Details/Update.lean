import CallPath.Details
/-!
# Setting one field

An update names one field and its new value. Whether a value is acceptable (`validate`) depends on
the update alone, whether a kind has the field (`applied?`) on the kind alone. Headers and
parameters are appended; every other field is overwritten.
-/

namespace CallPath

/-- An assignment to one field of a tracer. -/
inductive Update where
  | protocolName (name : Option String)
  | requestHeader (name value : String)
  | responseHeader (name value : String)
  | parameter (name value : String)
  | remoteAddress (address : Option String)
  | statusCode (code : UInt16)
  | returnedRowCount (count : UInt64)
  | roundTripCount (count : UInt64)
  | vendorMessageId (id : String)
  | correlationId (id : String)
  deriving DecidableEq, Repr

namespace Update

/-- The field that is set. -/
def field : Update → Field
  | protocolName _ => .protocolName
  | requestHeader .. => .requestHeader
  | responseHeader .. => .responseHeader
  | parameter .. => .parameter
  | remoteAddress _ => .remoteAddress
  | statusCode _ => .statusCode
  | returnedRowCount _ => .returnedRowCount
  | roundTripCount _ => .roundTripCount
  | vendorMessageId _ => .vendorMessageId
  | correlationId _ => .correlationId

/-- Checks the value by itself: no blank names, values, protocols or addresses. -/
def validate : Update → Except UsageError Unit
  | requestHeader name value | responseHeader name value | parameter name value => do
    requireNonBlank "name" name
    requireNonBlank "value" value
  | protocolName (some name) => requireNonBlank Field.protocolName.name name
  | remoteAddress (some address) => requireNonBlank Field.remoteAddress.name address
  | _ => .ok ()

/-- The details with the field set; `none` if their kind has no such field. -/
def applied? : Update → Details → Option Details
  | protocolName p, .incomingRemoteCall c => some (.incomingRemoteCall { c with protocolName := p })
  | protocolName p, .outgoingRemoteCall c => some (.outgoingRemoteCall { c with protocolName := p })
  | requestHeader n v, .incomingWebRequest r =>
    some (.incomingWebRequest { r with requestHeaders := r.requestHeaders ++ [(n, v)] })
  | requestHeader n v, .outgoingWebRequest r =>
    some (.outgoingWebRequest { r with requestHeaders := r.requestHeaders ++ [(n, v)] })
  | responseHeader n v, .incomingWebRequest r =>
    some (.incomingWebRequest { r with responseHeaders := r.responseHeaders ++ [(n, v)] })
  | responseHeader n v, .outgoingWebRequest r =>
    some (.outgoingWebRequest { r with responseHeaders := r.responseHeaders ++ [(n, v)] })
  | statusCode c, .incomingWebRequest r =>
    some (.incomingWebRequest { r with statusCode := some c })
  | statusCode c, .outgoingWebRequest r =>
    some (.outgoingWebRequest { r with statusCode := some c })
  | parameter n v, .incomingWebRequest r =>
    some (.incomingWebRequest { r with parameters := r.parameters ++ [(n, v)] })
  | remoteAddress a, .incomingWebRequest r =>
    some (.incomingWebRequest { r with remoteAddress := a })
  | returnedRowCount n, .databaseRequest r =>
    some (.databaseRequest { r with returnedRowCount := some n })
  | roundTripCount n, .databaseRequest r =>
    some (.databaseRequest { r with roundTripCount := some n })
  | vendorMessageId i, .outgoingMessage m =>
    some (.outgoingMessage { m with vendorMessageId := some i })
  | vendorMessageId i, .incomingMessageProcess m =>
    some (.incomingMessageProcess { m with vendorMessageId := some i })
  | correlationId i, .outgoingMessage m =>
    some (.outgoingMessage { m with correlationId := some i })
  | correlationId i, .incomingMessageProcess m =>
    some (.incomingMessageProcess { m with correlationId := some i })
  | _, _ => none

/-- The details with the field set, or the error that names kind and field. -/
def apply (u : Update) (d : Details) : Except UsageError Details :=
  match u.applied? d with
  | some d' => .ok d'
  | none => .error (.unsupportedField d.kind u.field)

end Update

end CallPath
