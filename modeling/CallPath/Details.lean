import CallPath.Kind
import CallPath.TracerId
import CallPath.UsageError
/-!
# What a tracer traces

Each kind of tracer carries exactly the fields that are meaningful for it. The constructors here
check the texts an operation cannot do without, in a fixed order, and leave the optional fields
empty.
-/

namespace CallPath

/-- The transport of a channel. -/
inductive ChannelType where
  | other
  /-- The endpoint is a host and a port. -/
  | tcpIp
  /-- The endpoint is the path of a socket. -/
  | unixDomainSocket
  /-- The endpoint is the name of a pipe. -/
  | namedPipe
  | inProcess
  deriving DecidableEq, Repr

namespace ChannelType

/-- All channel types. -/
def all : List ChannelType :=
  [other, tcpIp, unixDomainSocket, namedPipe, inProcess]

/-- The name used in serialized data. -/
def key : ChannelType → String
  | other => "other"
  | tcpIp => "tcp_ip"
  | unixDomainSocket => "unix_domain_socket"
  | namedPipe => "named_pipe"
  | inProcess => "in_process"

end ChannelType

/-- How a remote service or a database is reached. -/
structure Channel where
  type : ChannelType := .other
  endpoint : Option String := none
  deriving DecidableEq, Repr

/-- A database to which requests are sent. -/
structure DatabaseInfo where
  name : String
  vendor : String
  channel : Channel
  deriving DecidableEq, Repr

/-- Database vendors with a conventional name. -/
def DatabaseInfo.knownVendors : List String :=
  ["DB2", "H2", "MariaDB", "MySQL", "Oracle", "PostgreSQL", "sqlite", "SQL Server", "Cassandra",
    "Amazon Redshift"]

/-- A database; its name and its vendor must not be blank. -/
def DatabaseInfo.create (name vendor : String) (channel : Channel) :
    Except UsageError DatabaseInfo := do
  requireNonBlank "name" name
  requireNonBlank "vendor" vendor
  return { name, vendor, channel }

/-- A web application that serves requests. -/
structure WebApplicationInfo where
  virtualHost : String
  applicationId : String
  contextRoot : String
  deriving DecidableEq, Repr

/-- A web application; none of its texts may be blank. -/
def WebApplicationInfo.create (virtualHost applicationId contextRoot : String) :
    Except UsageError WebApplicationInfo := do
  requireNonBlank "virtual_host" virtualHost
  requireNonBlank "application_id" applicationId
  requireNonBlank "context_root" contextRoot
  return { virtualHost, applicationId, contextRoot }

/-- Who receives a message: one consumer of a queue, or every subscriber of a topic. -/
inductive DestinationType where
  | queue
  | topic
  deriving DecidableEq, Repr

namespace DestinationType

/-- Both destination types. -/
def all : List DestinationType :=
  [queue, topic]

/-- The name used in serialized data. -/
def key : DestinationType → String
  | queue => "queue"
  | topic => "topic"

end DestinationType

/-- A messaging system and a destination in it. -/
structure MessagingSystemInfo where
  vendor : String
  destinationName : String
  destinationType : DestinationType
  channel : Channel
  deriving DecidableEq, Repr

/-- Messaging vendors with a conventional name. -/
def MessagingSystemInfo.knownVendors : List String :=
  ["ActiveMQ", "Artemis", "HornetQ", "MQSeries", "RabbitMQ", "Tibco"]

/-- A messaging system; its vendor and the destination's name must not be blank. -/
def MessagingSystemInfo.create (vendor destinationName : String)
    (destinationType : DestinationType) (channel : Channel) :
    Except UsageError MessagingSystemInfo := do
  requireNonBlank "vendor" vendor
  requireNonBlank "destination_name" destinationName
  return { vendor, destinationName, destinationType, channel }

/-- The fields of a remote call, on either side. -/
structure RemoteCall where
  method : String
  service : String
  endpoint : String
  /-- Known on the calling side only. -/
  channel : Option Channel := none
  protocolName : Option String := none
  deriving DecidableEq, Repr

structure DatabaseRequest where
  database : DatabaseInfo
  sql : String
  returnedRowCount : Option UInt64 := none
  roundTripCount : Option UInt64 := none
  deriving DecidableEq, Repr

structure IncomingWebRequest where
  application : WebApplicationInfo
  url : String
  method : String
  requestHeaders : List (String × String) := []
  responseHeaders : List (String × String) := []
  parameters : List (String × String) := []
  remoteAddress : Option String := none
  statusCode : Option UInt16 := none
  deriving DecidableEq, Repr

structure OutgoingWebRequest where
  url : String
  method : String
  requestHeaders : List (String × String) := []
  responseHeaders : List (String × String) := []
  statusCode : Option UInt16 := none
  deriving DecidableEq, Repr

/-- A message that is sent or processed. -/
structure Message where
  system : MessagingSystemInfo
  vendorMessageId : Option String := none
  correlationId : Option String := none
  deriving DecidableEq, Repr

structure CustomService where
  method : String
  service : String
  deriving DecidableEq, Repr

/-- The fields of a tracer, by its kind. -/
inductive Details where
  | incomingRemoteCall (call : RemoteCall)
  | outgoingRemoteCall (call : RemoteCall)
  | databaseRequest (request : DatabaseRequest)
  | incomingWebRequest (request : IncomingWebRequest)
  | outgoingWebRequest (request : OutgoingWebRequest)
  | outgoingMessage (message : Message)
  | incomingMessageReceive (system : MessagingSystemInfo)
  | incomingMessageProcess (message : Message)
  | customService (service : CustomService)
  | inProcessLink (target : Option TracerId)
  deriving DecidableEq, Repr

namespace Details

/-- The kind of tracer that has these fields. -/
def kind : Details → Kind
  | incomingRemoteCall _ => .incomingRemoteCall
  | outgoingRemoteCall _ => .outgoingRemoteCall
  | databaseRequest _ => .databaseRequest
  | incomingWebRequest _ => .incomingWebRequest
  | outgoingWebRequest _ => .outgoingWebRequest
  | outgoingMessage _ => .outgoingMessage
  | incomingMessageReceive _ => .incomingMessageReceive
  | incomingMessageProcess _ => .incomingMessageProcess
  | customService _ => .customService
  | inProcessLink _ => .inProcessLink

/-- The tracer that an in-process link names; no other kind names one. -/
def linkTarget : Details → Option TracerId
  | inProcessLink target => target
  | _ => none

/-- Checks the texts every remote call needs. -/
def requireRemoteCall (method service endpoint : String) : Except UsageError Unit := do
  requireNonBlank "method" method
  requireNonBlank "service" service
  requireNonBlank "endpoint" endpoint

/-- A remote call that is served. -/
def newIncomingRemoteCall (method service endpoint : String) : Except UsageError Details := do
  requireRemoteCall method service endpoint
  return .incomingRemoteCall { method, service, endpoint }

/-- A remote call that is issued over a channel. -/
def newOutgoingRemoteCall (method service endpoint : String) (channel : Channel) :
    Except UsageError Details := do
  requireRemoteCall method service endpoint
  return .outgoingRemoteCall { method, service, endpoint, channel := some channel }

/-- A statement sent to a database. -/
def newDatabaseRequest (database : DatabaseInfo) (sql : String) : Except UsageError Details := do
  requireNonBlank "sql" sql
  return .databaseRequest { database, sql }

/-- A web request that is served. -/
def newIncomingWebRequest (application : WebApplicationInfo) (url method : String) :
    Except UsageError Details := do
  requireNonBlank "url" url
  requireNonBlank "method" method
  return .incomingWebRequest { application, url, method }

/-- A web request that is issued. -/
def newOutgoingWebRequest (url method : String) : Except UsageError Details := do
  requireNonBlank "url" url
  requireNonBlank "method" method
  return .outgoingWebRequest { url, method }

/-- A message that is sent. -/
def newOutgoingMessage (system : MessagingSystemInfo) : Details :=
  .outgoingMessage { system }

/-- The receipt of a message. -/
def newIncomingMessageReceive (system : MessagingSystemInfo) : Details :=
  .incomingMessageReceive system

/-- The processing of a received message. -/
def newIncomingMessageProcess (system : MessagingSystemInfo) : Details :=
  .incomingMessageProcess { system }

/-- Any other service. -/
def newCustomService (method service : String) : Except UsageError Details := do
  requireNonBlank "service_method" method
  requireNonBlank "service_name" service
  return .customService { method, service }

end Details

/-- The value of a custom attribute. A float is given by its 64 bits. -/
inductive AttributeValue where
  | integer (value : Int)
  | float (bits : UInt64)
  | string (text : String)
  deriving DecidableEq, Repr

end CallPath
