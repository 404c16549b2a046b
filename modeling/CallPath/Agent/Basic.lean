import CallPath.Text.Quoted
/-!
# Agents: states and errors

An agent consumes the calls that tracers make in step with their own life. It is initialized once
before use and shut down afterwards.
-/

namespace CallPath

/-- What an agent is currently doing. -/
inductive AgentState where
  /-- Capturing. -/
  | active
  /-- Not capturing, but it may resume. -/
  | temporarilyInactive
  /-- It will not capture again in this process. -/
  | permanentlyInactive
  /-- Not initialized, or shut down. -/
  | notInitialized
  | error
  deriving DecidableEq, Repr

namespace AgentState

/-- All states. -/
def all : List AgentState :=
  [active, temporarilyInactive, permanentlyInactive, notInitialized, error]

/-- The name shown in messages. -/
def name : AgentState → String
  | active => "active"
  | temporarilyInactive => "temporarily inactive"
  | permanentlyInactive => "permanently inactive"
  | notInitialized => "not initialized"
  | error => "error"

/-- The name used in serialized data. -/
def key : AgentState → String
  | active => "active"
  | temporarilyInactive => "temporarily_inactive"
  | permanentlyInactive => "permanently_inactive"
  | notInitialized => "not_initialized"
  | error => "error"

end AgentState

/-- Why an agent could not be initialized or shut down. -/
inductive AgentError where
  | initializationFailed (reason : String)
  | alreadyInitialized
  | notInitialized
  deriving DecidableEq, Repr

/-- The name of the error. -/
def AgentError.name : AgentError → String
  | initializationFailed _ => "InitializationFailed"
  | alreadyInitialized => "AlreadyInitialized"
  | notInitialized => "NotInitialized"

/-- What the error says. -/
def AgentError.message : AgentError → String
  | initializationFailed reason => "Agent initialization failed: " ++ reason
  | alreadyInitialized => "Agent is already initialized"
  | notInitialized => "Agent is not initialized"

end CallPath
