import CallPath.Agent.Basic
import CallPath.Details.Update
import CallPath.Table
import CallPath.Tag
/-!
# A strict recording agent

The recorder keeps every call and follows each tracer's life by itself. A call that the tracer's
recorded state does not allow is kept as a violation and changes no recorded state, except that a
tracer which is created again starts anew.
-/

namespace CallPath

/-- A call that an agent received, with all that was handed over. -/
inductive AgentCall where
  | create (id : TracerId) (details : Details)
  | update (id : TracerId) (update : Update)
  | start (id : TracerId)
  | ended (id : TracerId)
  | error (id : TracerId) (className message : String)
  | getOutgoingTag (id : TracerId) (form : TagForm)
  | setIncomingTag (id : TracerId) (tag : IncomingTag)
  deriving DecidableEq, Repr

/-- The tracer that a call is about. -/
def AgentCall.id : AgentCall → TracerId
  | create id _ | update id _ | start id | ended id | error id _ _ | getOutgoingTag id _
  | setIncomingTag id _ => id

/-- A call that the recorded state of its tracer did not allow. -/
inductive Violation where
  | createdTwice (id : TracerId)
  | unknownTracer (call : String) (id : TracerId)
  | wrongState (call : String) (id : TracerId) (state : TracerState)
  deriving DecidableEq, Repr

/-- What the violation says. -/
def Violation.message : Violation → String
  | createdTwice id => s!"tracer {id.text} created twice"
  | unknownTracer call id => s!"{call} for unknown tracer {id.text}"
  | wrongState call id state => s!"{call} for tracer {id.text} in state {state.name}"

/-- A recording agent: how it was set up and what it has seen. -/
structure Recorder where
  state : AgentState := .notInitialized
  /-- The names of the options it rejects. -/
  rejectedOptions : List String := []
  /-- The reason why it cannot be initialized, if it cannot. -/
  failure : Option String := none
  /-- What it has received, in order. Of the details of a new tracer it gives away no more than the kind. -/
  calls : List AgentCall := []
  tracers : Table TracerId TracerState := {}
  violations : List Violation := []
  deriving DecidableEq, Repr

namespace Recorder

/-- The recorded state of a tracer. -/
def tracerState (r : Recorder) (id : TracerId) : Option TracerState :=
  r.tracers.get? id

/-- The number of known tracers that have not ended. -/
def liveTracers (r : Recorder) : Nat :=
  (r.tracers.values.filter (· ≠ .ended)).length

/-- Keeps a call. -/
def log (r : Recorder) (c : AgentCall) : Recorder :=
  { r with calls := r.calls ++ [c] }

/-- Keeps a violation. -/
def complain (r : Recorder) (v : Violation) : Recorder :=
  { r with violations := r.violations ++ [v] }

/-- The violation, if any, of a call that needs its tracer in one of the states. -/
def violation? (r : Recorder) (call : String) (id : TracerId) (allowed : List TracerState) :
    Option Violation :=
  match r.tracerState id with
  | none => some (.unknownTracer call id)
  | some s => if s ∈ allowed then none else some (.wrongState call id s)

/-- Checks a call; if it is allowed, the tracer moves to the state `next`. -/
def follow (r : Recorder) (call : String) (id : TracerId) (allowed : List TracerState)
    (next : Option TracerState) : Recorder :=
  match r.violation? call id allowed with
  | some v => r.complain v
  | none =>
    match next with
    | some s => { r with tracers := r.tracers.insert id s }
    | none => r

/-- A tracer was created. Its recorded life starts anew, even if the id was known. -/
def create (r : Recorder) (id : TracerId) (details : Details) : Recorder :=
  let r' := r.log (.create id details)
  let r' := { r' with tracers := r'.tracers.insert id .created }
  if (r.tracerState id).isSome then r'.complain (.createdTwice id) else r'

/-- The states in which a field may be set. -/
def updatableIn (f : Field) : List TracerState :=
  if f.isEntry then [.created] else [.created, .started]

/-- A field was set. -/
def update (r : Recorder) (id : TracerId) (u : Update) : Recorder :=
  (r.log (.update id u)).follow u.field.name id (updatableIn u.field) none

/-- A tracer was started. -/
def start (r : Recorder) (id : TracerId) : Recorder :=
  (r.log (.start id)).follow "start" id [.created] (some .started)

/-- A tracer was ended, started or not. -/
def endTracer (r : Recorder) (id : TracerId) : Recorder :=
  (r.log (.ended id)).follow "end" id [.created, .started] (some .ended)

/-- An error was attached. -/
def error (r : Recorder) (id : TracerId) (className message : String) : Recorder :=
  (r.log (.error id className message)).follow "error" id [.started] none

/-- A tag was received. -/
def setIncomingTag (r : Recorder) (id : TracerId) (tag : IncomingTag) : Recorder :=
  (r.log (.setIncomingTag id tag)).follow "incoming tag" id [.created] none

/-- A tag is asked for: its bytes, or none at all if the tracer is not running. -/
def getOutgoingTag (r : Recorder) (id : TracerId) (form : TagForm) : List UInt8 × Recorder :=
  let bytes := if (r.violation? "outgoing tag" id [.started]).isSome then [] else Tag.encode id form
  (bytes, (r.log (.getOutgoingTag id form)).follow "outgoing tag" id [.started] none)

/-- Forgets everything it has seen. -/
def clear (r : Recorder) : Recorder :=
  { r with calls := [], tracers := {}, violations := [] }

/-- The name in an option of the form NAME=VALUE; an option without a sign is a name. -/
def optionName (option : String) : String :=
  Text.trim (String.ofList (option.toList.takeWhile (· ≠ '=')))

/-- The options that are rejected. -/
def rejects (r : Recorder) (options : List String) : List String :=
  options.filter fun o => optionName o ∈ r.rejectedOptions

/-- Initializes the agent; the result lists the options it did not accept. -/
def activate (r : Recorder) (options : List String) :
    Except AgentError (List String) × Recorder :=
  if r.state ≠ .notInitialized then (.error .alreadyInitialized, r)
  else
    match r.failure with
    | some reason => (.error (.initializationFailed reason), { r with state := .error })
    | none => (.ok (r.rejects options), { r with state := .active })

/-- Shuts the agent down, if it is running or paused. -/
def shutdown (r : Recorder) : Except AgentError Unit × Recorder :=
  match r.state with
  | .active | .temporarilyInactive => (.ok (), { r with state := .notInitialized })
  | _ => (.error .notInitialized, r)

end Recorder

end CallPath
