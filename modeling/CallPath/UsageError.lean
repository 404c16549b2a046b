import CallPath.Kind
import CallPath.TracerState
import CallPath.Text.Blank
import CallPath.Text.Quoted
/-!
# Usage errors

Every error a tracer operation returns is a mistake of its caller: a wrong thread, a wrong moment,
a broken nesting, an operation the kind does not offer, or an argument without content. An
operation that returns one has changed nothing but the count of such errors.
-/

namespace CallPath

/-- The fields of a tracer that can be set one by one. -/
inductive Field where
  | protocolName
  | requestHeader
  | responseHeader
  | parameter
  | remoteAddress
  | statusCode
  | returnedRowCount
  | roundTripCount
  | vendorMessageId
  | correlationId
  deriving DecidableEq, Repr

namespace Field

/-- All fields. -/
def all : List Field :=
  [protocolName, requestHeader, responseHeader, parameter, remoteAddress, statusCode,
    returnedRowCount, roundTripCount, vendorMessageId, correlationId]

/-- The name shown in messages. -/
def name : Field → String
  | protocolName => "protocol_name"
  | requestHeader => "request_header"
  | responseHeader => "response_header"
  | parameter => "parameter"
  | remoteAddress => "remote_address"
  | statusCode => "status_code"
  | returnedRowCount => "returned_row_count"
  | roundTripCount => "round_trip_count"
  | vendorMessageId => "vendor_message_id"
  | correlationId => "correlation_id"

/-- Whether the field describes how an operation was entered, so that it can be set only before
the tracer is started. -/
def isEntry : Field → Bool
  | protocolName | requestHeader | remoteAddress => true
  | _ => false

end Field

/-- The ways in which a tracer can be misused. Tracers are named as they are displayed. -/
inductive UsageError where
  /-- The tracer belongs to another thread. -/
  | threadAffinity (tracer : String) (owner caller : Thread)
  /-- The operation is not allowed in the tracer's state. -/
  | invalidState (tracer : String) (actual expected : TracerState)
  /-- An entry field was set after the start. -/
  | entryFieldTooLate (tracer : String) (field : Field)
  /-- A second error was attached. -/
  | alreadyFailed (tracer : String)
  /-- The tracer was ended while tracers nested in it were running. -/
  | unendedChildren (tracer : String) (children : List String)
  /-- The tracer was ended while it was not the innermost active one. -/
  | outOfOrderEnd (tracer active : String)
  /-- A tracer that may not start a path was started where none was active. -/
  | noActivePath (tracer : String)
  | unsupportedCapability (kind : Kind) (capability : Capability)
  | unsupportedField (kind : Kind) (field : Field)
  | invalidArgument (name reason : String)
  deriving DecidableEq, Repr

namespace UsageError

/-- The name of the misuse. -/
def name : UsageError → String
  | threadAffinity .. => "ThreadAffinity"
  | invalidState .. => "InvalidState"
  | entryFieldTooLate .. => "EntryFieldTooLate"
  | alreadyFailed .. => "AlreadyFailed"
  | unendedChildren .. => "UnendedChildren"
  | outOfOrderEnd .. => "OutOfOrderEnd"
  | noActivePath .. => "NoActivePath"
  | unsupportedCapability .. => "UnsupportedCapability"
  | unsupportedField .. => "UnsupportedField"
  | invalidArgument .. => "InvalidArgument"

/-- What the error says. -/
def message : UsageError → String
  | threadAffinity tracer owner caller =>
    s!"{tracer} was created on {owner.label}, but {caller.label} attempted an access"
  | invalidState tracer actual expected =>
    s!"{tracer} has state {actual.name}, but needs {expected.name}"
  | entryFieldTooLate tracer field =>
    s!"attempt to set entry field `{field.name}` on {tracer} too late"
  | alreadyFailed tracer => s!"{tracer} is already marked as failed"
  | unendedChildren tracer children =>
    s!"ending tracer {tracer} that has un-ended children: {Text.quotedList children}"
  | outOfOrderEnd tracer active => s!"attempt to end {tracer} while {active} was active"
  | noActivePath tracer =>
    s!"{tracer} cannot start a new path: no tracer is active on this thread"
  | unsupportedCapability kind capability => s!"{kind.name} tracer is not {capability.name}"
  | unsupportedField kind field => s!"{kind.name} tracer has no field `{field.name}`"
  | invalidArgument name reason => s!"invalid argument `{name}`: {reason}"

/-- Whether the error reports a broken nesting of tracers on a path. -/
def isStructural : UsageError → Bool
  | unendedChildren .. | outOfOrderEnd .. | noActivePath .. => true
  | _ => false

/-- Whether the error reports an access from a foreign thread. -/
def isThreadAffinity : UsageError → Bool
  | threadAffinity .. => true
  | _ => false

/-- The error for an argument that is empty or blank. -/
def blankArgument (name value : String) : UsageError :=
  invalidArgument name s!"expected non-empty string, but got {Text.quoted value}"

end UsageError

/-- Refuses a text that is empty or holds only white space. -/
def requireNonBlank (name value : String) : Except UsageError Unit :=
  if Text.allBlank value then .error (.blankArgument name value) else .ok ()

end CallPath
