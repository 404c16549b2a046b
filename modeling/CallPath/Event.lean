import CallPath.UsageError
/-!
# Logged events

The library tells a log what it does. An event has a level, a message and named values, and is
shown as one text with the values sorted by name.
-/

namespace CallPath

/-- The levels of the log, the most important first. -/
inductive LogLevel where
  | error
  | warn
  | info
  | debug
  | trace
  deriving DecidableEq, Repr

/-- The name of a level. -/
def LogLevel.name : LogLevel → String
  | error => "ERROR"
  | warn => "WARN"
  | info => "INFO"
  | debug => "DEBUG"
  | trace => "TRACE"

/-- What is logged. Tracers and sessions are named as they are displayed. -/
inductive Event where
  | sessionCreated (session agent : String)
  | tracerCreated (tracer : String)
  | usageError (tracer : String) (error : UsageError)
  | tagUndecodable (tracer : String)
  | pathCompleted (dump : String)
  /-- A message that also goes to the diagnostic callback. -/
  | diagnostic (message : String)
  | resolutionPass (linked unresolved : Nat)
  | tagUnmatched (tracer : String)
  | agentInitialized (options rejected : Nat)
  | stillInitialized (users : Nat)
  | optionsRejected (message : String)
  | agentFailed (error : String)
  | initialized (status : String)
  | shuttingDown
  deriving DecidableEq, Repr

namespace Event

/-- The level of an event. -/
def level : Event → LogLevel
  | diagnostic _ | tagUnmatched _ | optionsRejected _ | agentFailed _ => .warn
  | initialized _ | shuttingDown => .info
  | _ => .debug

/-- The message of an event. -/
def message : Event → String
  | sessionCreated .. => "session created"
  | tracerCreated _ => "tracer created"
  | usageError .. => "tracer usage error"
  | tagUndecodable _ => "incoming tag does not decode"
  | pathCompleted dump => "completed path\n" ++ dump
  | diagnostic m => m
  | resolutionPass .. => "tag resolution pass"
  | tagUnmatched _ => "incoming tag has no archived producer"
  | agentInitialized .. => "mock agent initialized"
  | stillInitialized _ => "SDK already initialized"
  | optionsRejected m => m
  | agentFailed _ => "agent initialization failed, using null agent"
  | initialized _ => "SDK initialized"
  | shuttingDown => "SDK shutting down"

/-- The named values of an event, sorted by name. -/
def values : Event → List (String × String)
  | sessionCreated session agent => [("agent", agent), ("id", session)]
  | tracerCreated tracer | tagUndecodable tracer | tagUnmatched tracer => [("tracer", tracer)]
  | usageError tracer error => [("error", error.message), ("tracer", tracer)]
  | resolutionPass linked unresolved =>
    [("linked", toString linked), ("unresolved", toString unresolved)]
  | agentInitialized options rejected =>
    [("options", toString options), ("rejected", toString rejected)]
  | stillInitialized users => [("refcount", toString users)]
  | agentFailed error => [("error", error)]
  | initialized status => [("status", status)]
  | _ => []

/-- The event as one text. -/
def text (e : Event) : String :=
  e.level.name ++ " " ++ e.message ++ String.join (e.values.map fun (k, v) => " " ++ k ++ "=" ++ v)

end Event

end CallPath
