/-!
# Kinds of tracers

A kind says what a traced operation does: serve or issue a call, query a database, send or process
a message, and so on. What a tracer can do besides starting and ending depends on its kind alone
and is expressed by three capabilities.
-/

namespace CallPath

/-- The kinds of traced operations. -/
inductive Kind where
  | incomingRemoteCall
  | outgoingRemoteCall
  | databaseRequest
  | incomingWebRequest
  | outgoingWebRequest
  | outgoingMessage
  | incomingMessageReceive
  | incomingMessageProcess
  | customService
  | inProcessLink
  deriving DecidableEq, Repr

/-- What a tracer may be able to do, depending on its kind. -/
inductive Capability where
  /-- It hands out a tag for the operation it calls. -/
  | outgoingTaggable
  /-- It accepts the tag of the operation that called it. -/
  | incomingTaggable
  /-- It may start a path on a thread where no tracer is active. -/
  | entrypoint
  deriving DecidableEq, Repr

namespace Kind

/-- All kinds. -/
def all : List Kind :=
  [incomingRemoteCall, outgoingRemoteCall, databaseRequest, incomingWebRequest,
    outgoingWebRequest, outgoingMessage, incomingMessageReceive, incomingMessageProcess,
    customService, inProcessLink]

/-- The name shown in messages. -/
def name : Kind → String
  | incomingRemoteCall => "IncomingRemoteCall"
  | outgoingRemoteCall => "OutgoingRemoteCall"
  | databaseRequest => "DatabaseRequest"
  | incomingWebRequest => "IncomingWebRequest"
  | outgoingWebRequest => "OutgoingWebRequest"
  | outgoingMessage => "OutgoingMessage"
  | incomingMessageReceive => "IncomingMessageReceive"
  | incomingMessageProcess => "IncomingMessageProcess"
  | customService => "CustomService"
  | inProcessLink => "InProcessLink"

/-- The name used in serialized data. -/
def key : Kind → String
  | incomingRemoteCall => "incoming_remote_call"
  | outgoingRemoteCall => "outgoing_remote_call"
  | databaseRequest => "database_request"
  | incomingWebRequest => "incoming_web_request"
  | outgoingWebRequest => "outgoing_web_request"
  | outgoingMessage => "outgoing_message"
  | incomingMessageReceive => "incoming_message_receive"
  | incomingMessageProcess => "incoming_message_process"
  | customService => "custom_service"
  | inProcessLink => "in_process_link"

/-- Whether a tracer of this kind may start a new path. -/
def isEntrypoint : Kind → Bool
  | outgoingRemoteCall | databaseRequest | outgoingMessage => false
  | _ => true

/-- Whether a tracer of this kind hands out a tag. -/
def handsOutTag : Kind → Bool
  | outgoingRemoteCall | outgoingWebRequest | outgoingMessage => true
  | _ => false

/-- Whether a tracer of this kind accepts a tag. -/
def acceptsTag : Kind → Bool
  | incomingRemoteCall | incomingWebRequest | incomingMessageProcess => true
  | _ => false

/-- Whether the kind has the capability. -/
def supports (k : Kind) : Capability → Bool
  | .outgoingTaggable => k.handsOutTag
  | .incomingTaggable => k.acceptsTag
  | .entrypoint => k.isEntrypoint

end Kind

namespace Capability

/-- All capabilities. -/
def all : List Capability :=
  [outgoingTaggable, incomingTaggable, entrypoint]

/-- The name shown in messages. -/
def name : Capability → String
  | outgoingTaggable => "OutgoingTaggable"
  | incomingTaggable => "IncomingTaggable"
  | entrypoint => "Entrypoint"

end Capability

end CallPath
