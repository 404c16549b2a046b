import CallPath.Details
import CallPath.Tag
/-!
# Operations to be traced

An operation is described by the application before anything is checked. `details` checks the
description, info objects first, and gives the fields of the tracer.
-/

namespace CallPath

/-- An operation, as the application describes it. -/
inductive Operation where
  | incomingRemoteCall (method service endpoint : String)
  | outgoingRemoteCall (method service endpoint : String) (channel : Channel)
  | databaseRequest (database : DatabaseInfo) (sql : String)
  | incomingWebRequest (application : WebApplicationInfo) (url method : String)
  | outgoingWebRequest (url method : String)
  | outgoingMessage (system : MessagingSystemInfo)
  | incomingMessageReceive (system : MessagingSystemInfo)
  | incomingMessageProcess (system : MessagingSystemInfo)
  | customService (method service : String)
  | inProcessLink (link : InProcessLink)
  deriving DecidableEq, Repr

/-- The database, with its texts checked. -/
def DatabaseInfo.checked (d : DatabaseInfo) : Except UsageError DatabaseInfo :=
  DatabaseInfo.create d.name d.vendor d.channel

/-- The web application, with its texts checked. -/
def WebApplicationInfo.checked (a : WebApplicationInfo) : Except UsageError WebApplicationInfo :=
  WebApplicationInfo.create a.virtualHost a.applicationId a.contextRoot

/-- The messaging system, with its texts checked. -/
def MessagingSystemInfo.checked (m : MessagingSystemInfo) :
    Except UsageError MessagingSystemInfo :=
  MessagingSystemInfo.create m.vendor m.destinationName m.destinationType m.channel

namespace Operation

/-- The kind of tracer that traces the operation. -/
def kind : Operation → Kind
  | incomingRemoteCall .. => .incomingRemoteCall
  | outgoingRemoteCall .. => .outgoingRemoteCall
  | databaseRequest .. => .databaseRequest
  | incomingWebRequest .. => .incomingWebRequest
  | outgoingWebRequest .. => .outgoingWebRequest
  | outgoingMessage .. => .outgoingMessage
  | incomingMessageReceive .. => .incomingMessageReceive
  | incomingMessageProcess .. => .incomingMessageProcess
  | customService .. => .customService
  | inProcessLink .. => .inProcessLink

/-- The fields of a tracer of the operation, if no text it needs is blank. -/
def details : Operation → Except UsageError Details
  | incomingRemoteCall method service endpoint =>
    Details.newIncomingRemoteCall method service endpoint
  | outgoingRemoteCall method service endpoint channel =>
    Details.newOutgoingRemoteCall method service endpoint channel
  | databaseRequest database sql => do Details.newDatabaseRequest (← database.checked) sql
  | incomingWebRequest application url method => do
    Details.newIncomingWebRequest (← application.checked) url method
  | outgoingWebRequest url method => Details.newOutgoingWebRequest url method
  | outgoingMessage system => do return Details.newOutgoingMessage (← system.checked)
  | incomingMessageReceive system => do
    return Details.newIncomingMessageReceive (← system.checked)
  | incomingMessageProcess system => do
    return Details.newIncomingMessageProcess (← system.checked)
  | customService method service => Details.newCustomService method service
  | inProcessLink link => return .inProcessLink link.target

end Operation

end CallPath
