import CallPath.Agent
import CallPath.Archive
import CallPath.Event
import CallPath.Metrics
import CallPath.Path
/-!
# Sessions

A session joins one agent with the tracers created for it, the paths of the threads they run on,
the archive of completed paths and the metrics. Nothing of one session is visible to another.

An operation gets the session and the calling thread and gives back a result and the session
afterwards. `checked` is the frame of every operation on a tracer: if the operation is refused, the
session is as before, except that the refusal is counted and logged.
-/

namespace CallPath

/-- What is logged when an agent was initialized; the null agent has nothing to say. -/
def Agent.activationEvents (a : Agent) (options : List String) :
    Except AgentError (List String) → List Event
  | .ok rejected => if a.isFound then [.agentInitialized options.length rejected.length] else []
  | .error _ => []

/-- How a session reports and keeps what it sees. -/
structure Settings where
  /-- Whether a tracer that is dropped while running is reported. -/
  leakWarnings : Bool := true
  /-- Whether the tree of every completed path is logged. -/
  logCompletedPaths : Bool := false
  /-- Whether completed paths are archived; if not, they are only counted. -/
  retainCompletedPaths : Bool := true
  deriving DecidableEq, Repr

/-- The tag a caller sent, in either form. -/
structure IncomingTags where
  string : Option String := none
  bytes : Option (List UInt8) := none
  deriving DecidableEq, Repr

/-- One agent and everything traced for it. -/
structure Session where
  name : String
  settings : Settings := {}
  agent : Agent := .null
  forest : Forest := {}
  paths : ThreadPaths := {}
  /-- The number of the next reading of the clock. It is read when a tracer is created, started or ended. -/
  clock : Nat := 0
  /-- The completed paths that were kept. -/
  archive : Archive := {}
  metrics : Metrics := {}
  events : List Event := []
  deriving DecidableEq, Repr

namespace Session

/-- How messages refer to the session. -/
def label (s : Session) : String :=
  "session(" ++ s.name ++ ")"

/-- Logs an event. -/
def log (s : Session) (e : Event) : Session :=
  { s with events := s.events ++ [e] }

/-- Reports a condition that no caller is told of, to the log and to the callback. -/
def warn (s : Session) (message : String) : Session :=
  { s.log (.diagnostic message) with agent := s.agent.report message }

/-- Changes one node. -/
def modifyNode (s : Session) (n : NodeRef) (g : Node → Node) : Session :=
  { s with forest := s.forest.modify n g }

/-- The innermost tracer running on a thread. -/
def active? (s : Session) (t : Thread) : Option NodeRef :=
  (s.paths.get t).top?

/-- The number of tracers running on a thread. -/
def depth (s : Session) (t : Thread) : Nat :=
  (s.paths.get t).depth

/-- Ends an operation on a tracer: a refusal is counted and logged and changes nothing else. -/
def checked {α : Type} (s : Session) (n : NodeRef) (result : Except UsageError (α × Session)) :
    Except UsageError α × Session :=
  match result with
  | .ok (a, s') => (.ok a, s')
  | .error e =>
    (.error e,
      { s.log (.usageError (s.forest.label n) e) with metrics := s.metrics.recordUsageError })

/-- Creates a tracer owned by the calling thread, under a fresh id. A tracer that continues the
work of another has that one's id as its tag. -/
def create (s : Session) (t : Thread) (id : TracerId) (details : Details) : NodeRef × Session :=
  let receipt := details.linkTarget.elim .absent TagReceipt.carries
  let node : Node := { id, owner := t, details, createdAt := s.clock, receipt, held := true }
  let (n, forest) := s.forest.add node
  (n, { s with
    forest
    clock := s.clock + 1
    agent := s.agent.create id details
    metrics := s.metrics.recordCreated details.kind
    events := s.events ++ [.tracerCreated node.label] })

/-! ## Starting and ending -/

/-- Starts a tracer on top of the calling thread's path. -/
def start (s : Session) (t : Thread) (n : NodeRef) : Except UsageError Unit × Session :=
  s.checked n do
    let node := s.forest.get n
    node.requireThread t
    let (forest, path) ← (s.paths.get t).push s.forest n
    return ((), { s with
      forest := forest.modify n (·.enter .started s.clock)
      clock := s.clock + 1
      paths := s.paths.set t path
      agent := s.agent.start node.id
      metrics := s.metrics.recordStarted })

/-- Ends the record of a tracer. -/
def finish (s : Session) (n : NodeRef) : Session :=
  { s with
    forest := s.forest.modify n (·.enter .ended s.clock)
    clock := s.clock + 1
    agent := s.agent.endTracer (s.forest.idOf n)
    metrics := s.metrics.recordEnded }

/-- Takes note of a completed path: it is logged and archived as the settings say, and counted. -/
def completePath (s : Session) (root : NodeRef) : Session :=
  let s := if s.settings.logCompletedPaths then s.log (.pathCompleted (s.forest.dump root)) else s
  let s :=
    if s.settings.retainCompletedPaths then { s with archive := s.archive.append root } else s
  { s with metrics := s.metrics.recordPathCompleted }

/-- Ends a tracer. A running tracer must be the innermost one of its thread; one that never ran
is just ended, and one that has ended stays so. -/
def endTracer (s : Session) (t : Thread) (n : NodeRef) : Except UsageError Unit × Session :=
  s.checked n do
    let node := s.forest.get n
    node.requireThread t
    match node.state with
    | .ended => return ((), s)
    | .created => return ((), s.finish n)
    | .started =>
      let unended := s.forest.unendedChildren n
      if unended ≠ [] then throw (.unendedChildren node.label unended)
      let (root?, path) ← (s.paths.get t).pop s.forest n
      let s := { s.finish n with paths := s.paths.set t path }
      return ((), root?.elim s s.completePath)

/-! ## Fields and errors -/

/-- Whether a field may be set in the state: entry fields before the start, others until the
end. -/
def requireUpdatable (node : Node) (field : Field) : Except UsageError Unit :=
  match node.state, field.isEntry with
  | .created, _ => .ok ()
  | .started, false => .ok ()
  | _, true => .error (.entryFieldTooLate node.label field)
  | actual, false => .error (.invalidState node.label actual .started)

/-- Sets a field of a tracer. -/
def update (s : Session) (t : Thread) (n : NodeRef) (u : Update) :
    Except UsageError Unit × Session :=
  s.checked n do
    let node := s.forest.get n
    node.requireThread t
    u.validate
    requireUpdatable node u.field
    let details ← u.apply node.details
    return ((), { s with
      forest := s.forest.modify n fun m => { m with details }
      agent := s.agent.update node.id u })

/-- Sets fields one by one and stops at the first that is refused. -/
def updateAll (s : Session) (t : Thread) (n : NodeRef) : List Update →
    Except UsageError Unit × Session
  | [] => (.ok (), s)
  | u :: us =>
    match s.update t n u with
    | (.ok (), s') => s'.updateAll t n us
    | refused => refused

/-- Attaches an error to a running tracer, which has none yet. -/
def markFailed (s : Session) (t : Thread) (n : NodeRef) (className message : String) :
    Except UsageError Unit × Session :=
  s.checked n do
    let node := s.forest.get n
    node.requireThread t
    requireNonBlank "error_class" className
    node.requireState .started
    if node.error.isSome then throw (.alreadyFailed node.label)
    return ((), { s with
      forest := s.forest.modify n fun m => { m with error := some ⟨className, message⟩ }
      agent := s.agent.error node.id className message
      metrics := s.metrics.recordFailed })

/-! ## Tags -/

/-- The tag of a running tracer, in the form asked for. -/
def outgoingTag (s : Session) (t : Thread) (n : NodeRef) (form : TagForm) :
    Except UsageError (List UInt8) × Session :=
  s.checked n do
    let node := s.forest.get n
    node.requireThread t
    node.requireCapability .outgoingTaggable
    node.requireState .started
    let (tag, agent) := s.agent.getOutgoingTag node.id form
    return (tag, { s with agent })

/-- Gives a tracer the tag its caller sent. A malformed tag is accepted, but carries nothing. -/
def setIncomingTag (s : Session) (t : Thread) (n : NodeRef) (tag : IncomingTag) :
    Except UsageError Unit × Session :=
  s.checked n do
    let node := s.forest.get n
    node.requireThread t
    node.requireCapability .incomingTaggable
    node.requireState .created
    let s := if tag.decode.isNone && !tag.isEmpty then s.log (.tagUndecodable node.label) else s
    return ((), { s with
      forest := s.forest.modify n fun m => { m with receipt := .ofDecoded tag.decode }
      agent := s.agent.setIncomingTag node.id tag })

/-- The message for a caller who gives both forms of a tag. -/
def bothTagsMessage : String := "Both str_tag and byte_tag specified. Use only one!"

/-- Gives a tracer the only tag there is. Of two tags neither is taken. -/
def applyIncomingTags (s : Session) (t : Thread) (n : NodeRef) (tags : IncomingTags) :
    Except UsageError Unit × Session :=
  match tags.string, tags.bytes with
  | some _, some _ => (.ok (), s.warn bothTagsMessage)
  | some text, none => s.setIncomingTag t n (.string text)
  | none, some data => s.setIncomingTag t n (.bytes data)
  | none, none => (.ok (), s)

/-- A link to the innermost tracer of the calling thread, or the empty link. -/
def createLink (s : Session) (t : Thread) : InProcessLink :=
  .ofTarget ((s.active? t).map s.forest.idOf)

/-! ## Custom attributes -/

/-- Adds an attribute to the innermost tracer of the calling thread. Where there is none, the
attribute is lost, and that is reported. -/
def addAttribute (s : Session) (t : Thread) (key : String) (value : AttributeValue) :
    Except UsageError Unit × Session :=
  match requireNonBlank "key" key with
  | .error e => (.error e, s)
  | .ok () =>
    match s.active? t with
    | some n =>
      (.ok (), s.modifyNode n fun m => { m with attributes := m.attributes ++ [(key, value)] })
    | none =>
      (.ok (), s.warn
        ("No active tracer on this thread, dropping custom request attribute " ++ Text.quoted key))

/-- Adds attributes one by one and stops at the first that is refused. -/
def addEach (s : Session) (t : Thread) : List (String × AttributeValue) →
    Except UsageError Unit × Session
  | [] => (.ok (), s)
  | (key, value) :: rest =>
    match s.addAttribute t key value with
    | (.ok (), s') => s'.addEach t rest
    | refused => refused

/-- Adds up to `count` attributes from two parallel lists. -/
def addAttributes (s : Session) (t : Thread) (keys : List String) (values : List AttributeValue)
    (count : Nat) : Except UsageError Unit × Session :=
  s.addEach t ((keys.zip values).take count)

/-! ## Letting go -/

/-- The application lets go of a tracer. If it never ran, it is ended; if it is running, it stays
on its path and counts as a leak; on a foreign thread nothing is touched. -/
def drop (s : Session) (t : Thread) (n : NodeRef) : Session :=
  let node := s.forest.get n
  let s := s.modifyNode n fun m => { m with held := false }
  match node.state with
  | .ended => s
  | state =>
    match node.requireThread t with
    | .error e => s.warn s!"Tracer {node.label} dropped on a foreign thread: {e.message}"
    | .ok () =>
      if state = .created then
        { s with
          forest := s.forest.modify n (·.enter .ended s.clock)
          clock := s.clock + 1
          agent := s.agent.endTracer node.id }
      else
        let s := { s with metrics := s.metrics.recordLeaked }
        if s.settings.leakWarnings then s.warn s!"Un-ended tracer {node.label} dropped" else s

/-! ## The archive -/

/-- Takes all completed paths out of the archive. -/
def drain (s : Session) : List NodeRef × Session :=
  (s.archive.roots, { s with archive := {} })

/-! ## The agent -/

/-- Initializes the agent of the session; the result lists the options it did not accept. -/
def activateAgent (s : Session) (options : List String) :
    Except AgentError (List String) × Session :=
  let (result, agent) := s.agent.activate options
  (result, { s with agent, events := s.events ++ agent.activationEvents options result })

/-- Shuts the agent of the session down. -/
def shutdownAgent (s : Session) : Except AgentError Unit × Session :=
  let (result, agent) := s.agent.shutdown
  (result, { s with agent })

/-- Installs a new diagnostic callback, or removes it. -/
def setCallback (s : Session) (installed : Bool) : Session :=
  { s with agent := { s.agent with
    callback := if installed then s.agent.callback.install else s.agent.callback.clear } }

/-! ## As a programmer reads it -/

/-- The session as a programmer reads it. -/
def debugText (s : Session) : String :=
  "Session \x7b id: SessionId(" ++ s.name ++ "), agent: " ++ Text.quoted s.agent.name ++
    ", completed_paths: " ++ toString s.archive.length ++ " \x7d"

/-- A tracer as a programmer reads it. -/
def tracerDebugText (s : Session) (n : NodeRef) : String :=
  "Tracer \x7b node: " ++ Text.quoted (s.forest.label n) ++ ", state: " ++
    (s.forest.get n).state.debugName ++ ", session: SessionId(" ++ s.name ++ ") \x7d"

end Session

end CallPath
