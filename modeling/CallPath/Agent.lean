import CallPath.Agent.Recorder
import CallPath.Diagnostics
/-!
# Agents

An agent is the null agent, which accepts every call and does nothing, or a recorder. Either has a
slot for the diagnostic callback. What tracers do never depends on their agent; only the tags they
hand out come from it.
-/

namespace CallPath

/-- What stands behind an agent. -/
inductive AgentBackend where
  | null
  | recorder (r : Recorder)
  deriving DecidableEq, Repr

/-- A consumer of tracer calls. -/
structure Agent where
  backend : AgentBackend := .null
  callback : CallbackSlot := {}
  deriving DecidableEq, Repr

namespace Agent

/-- The null agent. -/
def null : Agent :=
  {}

/-- An agent that records. -/
def recording (r : Recorder) : Agent :=
  { backend := .recorder r }

/-- The name of the agent. -/
def name (a : Agent) : String :=
  match a.backend with
  | .null => "null"
  | .recorder _ => "mock"

/-- The version of the agent. -/
def version (a : Agent) : String :=
  match a.backend with
  | .null => "-/-"
  | .recorder _ => "0.000.0.00000000-tracepath_core::mock::MockAgent"

/-- What the agent is doing. -/
def state (a : Agent) : AgentState :=
  match a.backend with
  | .null => .notInitialized
  | .recorder r => r.state

/-- Whether an agent was found at all. -/
def isFound (a : Agent) : Bool :=
  match a.backend with
  | .null => false
  | .recorder _ => true

/-- Whether the agent can serve this library. -/
def isCompatible (a : Agent) : Bool :=
  a.isFound

/-- The recorder, if the agent records. -/
def recorder? (a : Agent) : Option Recorder :=
  match a.backend with
  | .null => none
  | .recorder r => some r

/-- The calls the agent has kept. -/
def calls (a : Agent) : List AgentCall :=
  a.recorder?.elim [] Recorder.calls

/-- Changes the recorder, if there is one. -/
def mapRecorder (a : Agent) (f : Recorder → Recorder) : Agent :=
  match a.backend with
  | .null => a
  | .recorder r => { a with backend := .recorder (f r) }

/-- A tracer was created with some details. -/
def create (a : Agent) (id : TracerId) (details : Details) : Agent :=
  a.mapRecorder (·.create id details)

/-- A field was set. -/
def update (a : Agent) (id : TracerId) (u : Update) : Agent :=
  a.mapRecorder (·.update id u)

/-- A tracer was started. -/
def start (a : Agent) (id : TracerId) : Agent :=
  a.mapRecorder (·.start id)

/-- A tracer was ended. -/
def endTracer (a : Agent) (id : TracerId) : Agent :=
  a.mapRecorder (·.endTracer id)

/-- An error was attached to a tracer. -/
def error (a : Agent) (id : TracerId) (className message : String) : Agent :=
  a.mapRecorder (·.error id className message)

/-- A tag was received for a tracer. -/
def setIncomingTag (a : Agent) (id : TracerId) (tag : IncomingTag) : Agent :=
  a.mapRecorder (·.setIncomingTag id tag)

/-- The tag that a tracer hands out; the null agent has none. -/
def getOutgoingTag (a : Agent) (id : TracerId) (form : TagForm) : List UInt8 × Agent :=
  match a.backend with
  | .null => ([], a)
  | .recorder r =>
    let (bytes, r') := r.getOutgoingTag id form
    (bytes, { a with backend := .recorder r' })

/-- Initializes the agent; the result lists the options it did not accept. -/
def activate (a : Agent) (options : List String) : Except AgentError (List String) × Agent :=
  match a.backend with
  | .null => (.ok [], a)
  | .recorder r =>
    let (result, r') := r.activate options
    (result, { a with backend := .recorder r' })

/-- Shuts the agent down. -/
def shutdown (a : Agent) : Except AgentError Unit × Agent :=
  match a.backend with
  | .null => (.ok (), a)
  | .recorder r =>
    let (result, r') := r.shutdown
    (result, { a with backend := .recorder r' })

/-- Forces a state on a recording agent. -/
def setState (a : Agent) (s : AgentState) : Agent :=
  a.mapRecorder fun r => { r with state := s }

/-- Reports a diagnostic to the callback. -/
def report (a : Agent) (message : String) : Agent :=
  { a with callback := a.callback.emit message }

end Agent

end CallPath
