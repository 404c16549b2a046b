import CallPath.KeyValues
import CallPath.Operation
import CallPath.Session
/-!
# Tracing an operation

`trace` checks the description of an operation, creates a tracer for it and sets it up with the
options its kind takes: protocol name or request headers and remote address first, the tag last.
If an option is refused, the tracer is ended at once and the refusal is returned.
-/

namespace CallPath

/-- What a tracer can be given along with its creation. -/
structure TraceOptions where
  protocolName : Option String := none
  headers : KeyValues := {}
  remoteAddress : Option String := none
  tags : IncomingTags := {}
  deriving DecidableEq, Repr

namespace KeyValues

/-- The updates that add the pairs as request headers. -/
def requestHeaders (kv : KeyValues) : List Update :=
  kv.pairs.map fun (k, v) => .requestHeader k v

/-- The updates that add the pairs as response headers. -/
def responseHeaders (kv : KeyValues) : List Update :=
  kv.pairs.map fun (k, v) => .responseHeader k v

/-- The updates that add the pairs as parameters. -/
def parameters (kv : KeyValues) : List Update :=
  kv.pairs.map fun (k, v) => .parameter k v

end KeyValues

/-- The updates that the options of a kind amount to, in the order in which they are made. -/
def TraceOptions.updates (o : TraceOptions) : Kind → List Update
  | .incomingRemoteCall | .outgoingRemoteCall =>
    o.protocolName.toList.map fun p => .protocolName (some p)
  | .incomingWebRequest =>
    o.headers.requestHeaders ++ o.remoteAddress.toList.map fun a => .remoteAddress (some a)
  | .outgoingWebRequest => o.headers.requestHeaders
  | _ => []

namespace Session

/-- Adds request headers to a tracer, up to the first that is refused. -/
def addRequestHeaders (s : Session) (t : Thread) (n : NodeRef) (kv : KeyValues) :
    Except UsageError Unit × Session :=
  s.updateAll t n kv.requestHeaders

/-- Adds response headers to a tracer, up to the first that is refused. -/
def addResponseHeaders (s : Session) (t : Thread) (n : NodeRef) (kv : KeyValues) :
    Except UsageError Unit × Session :=
  s.updateAll t n kv.responseHeaders

/-- Adds parameters to a tracer, up to the first that is refused. -/
def addParameters (s : Session) (t : Thread) (n : NodeRef) (kv : KeyValues) :
    Except UsageError Unit × Session :=
  s.updateAll t n kv.parameters

/-- Sets up a tracer of the given kind. -/
def setUp (s : Session) (t : Thread) (n : NodeRef) (kind : Kind) (o : TraceOptions) :
    Except UsageError Unit × Session :=
  match s.updateAll t n (o.updates kind) with
  | (.ok (), s) => if kind.acceptsTag then s.applyIncomingTags t n o.tags else (.ok (), s)
  | refused => refused

/-- Creates a tracer without any options. -/
def createFor (s : Session) (t : Thread) (id : TracerId) (op : Operation) :
    Except UsageError NodeRef × Session :=
  match op.details with
  | .error e => (.error e, s)
  | .ok d =>
    let (n, s) := s.create t id d
    (.ok n, s)

/-- Creates a tracer and sets it up; if that is refused, the tracer is ended and let go. -/
def trace (s : Session) (t : Thread) (id : TracerId) (op : Operation) (o : TraceOptions) :
    Except UsageError NodeRef × Session :=
  match s.createFor t id op with
  | (.error e, s) => (.error e, s)
  | (.ok n, s) =>
    match s.setUp t n op.kind o with
    | (.ok (), s) => (.ok n, s)
    | (.error e, s) => (.error e, ((s.endTracer t n).2).drop t n)

end Session

end CallPath
