import CallPath.Config
import CallPath.Session.Resolution
import CallPath.Session.Scope
import CallPath.Session.Trace
/-!
# Applications

An application has any number of sessions and a shared one in effect for all of it. The shared
session belongs to its users: the first to come opens it with an agent of its choice, the last to
leave shuts that agent down. Without users, the session of the null agent is in effect, which
counts completed paths but does not keep them.
-/

namespace CallPath

/-- A position among the sessions of an application. -/
abbrev SessionRef := Nat

/-- What became of an attempt to open the shared session. -/
inductive InitStatus where
  /-- The agent failed, and the null agent is used in its place. -/
  | failed
  | initialized
  /-- The agent did not accept all options. -/
  | initializedWithWarning
  /-- The session is open already; nothing was applied. -/
  | stillInitialized
  deriving DecidableEq, Repr

namespace InitStatus

/-- The number of a status. -/
def code : InitStatus → Int
  | failed => -1
  | initialized => 0
  | initializedWithWarning => 1
  | stillInitialized => 2

/-- The name of a status. -/
def name : InitStatus → String
  | failed => "init error"
  | initialized => "initialized"
  | initializedWithWarning => "initialized with warning"
  | stillInitialized => "already initialized"

end InitStatus

/-- A status, with the agent's error or the options it did not accept. -/
structure InitResult where
  status : InitStatus
  detail : Option String := none
  deriving DecidableEq, Repr

/-- Whether a session is available, possibly with a warning. -/
def InitResult.isOk (r : InitResult) : Bool :=
  r.status ≠ .failed

/-- The settings of the session of the null agent, whose archive nobody reads. -/
def Settings.unretained : Settings :=
  { retainCompletedPaths := false }

/-- The sessions of an application, the first being that of the null agent. -/
structure Application where
  sessions : Array Session := #[{ name := "null", settings := .unretained }]
  /-- The users of the shared session. -/
  users : Nat := 0
  /-- The session that was opened for them. -/
  opened : Option SessionRef := none
  /-- Whether its agent was initialized and has to be shut down. -/
  agentReady : Bool := false
  events : List Event := []
  deriving DecidableEq, Repr

namespace Application

/-- The name under which the shared session is known. -/
def sharedName : String := "global"

/-- Logs an event. -/
def log (app : Application) (e : Event) : Application :=
  { app with events := app.events ++ [e] }

/-- The session at a position. -/
def get (app : Application) (r : SessionRef) : Session :=
  app.sessions.getD r { name := "" }

/-- Replaces the session at a position. -/
def set (app : Application) (r : SessionRef) (s : Session) : Application :=
  { app with sessions := app.sessions.setIfInBounds r s }

/-- Runs an operation on one session. -/
def onSession {α : Type} (app : Application) (r : SessionRef)
    (operation : Session → α × Session) : α × Application :=
  let (a, s) := operation (app.get r)
  (a, app.set r s)

/-- Adds a session. -/
def newSession (app : Application) (name : String) (agent : Agent) (settings : Settings) :
    SessionRef × Application :=
  let s : Session := { name, agent, settings }
  (app.sessions.size,
    { app with
      sessions := app.sessions.push s
      events := app.events ++ [.sessionCreated s.label agent.name] })

/-- The shared session in effect. -/
def shared (app : Application) : SessionRef :=
  app.opened.getD 0

/-- Opens the shared session over an agent that is ready, or over the null agent. -/
def openShared (app : Application) (agent : Agent) (settings : Settings) (ready : Bool) :
    Application :=
  let (r, app) := app.newSession sharedName agent settings
  { app with opened := some r, agentReady := ready }

/-- Comes as a user. The first one initializes the agent and opens the session; for the others
the agent and its options are ignored. -/
def acquire (app : Application) (agent : Agent) (options : List String) (settings : Settings) :
    InitResult × Application :=
  let app := { app with users := app.users + 1 }
  if app.users > 1 then
    ({ status := .stillInitialized }, app.log (.stillInitialized app.users))
  else
    let (outcome, agent) := agent.activate options
    let app := { app with events := app.events ++ agent.activationEvents options outcome }
    let (result, app) : InitResult × Application :=
      match outcome with
      | .ok [] => ({ status := .initialized }, app.openShared agent settings true)
      | .ok rejected =>
        let message := "Agent rejected options: " ++ ", ".intercalate rejected
        ({ status := .initializedWithWarning, detail := some message },
          (app.log (.optionsRejected message)).openShared agent settings true)
      | .error e =>
        ({ status := .failed, detail := some e.message },
          (app.log (.agentFailed e.message)).openShared .null settings false)
    (result, app.log (.initialized result.status.name))

/-- Comes as a user, with what a configuration says. -/
def acquireConfigured (app : Application) (c : Config) : InitResult × Application :=
  app.acquire (Config.agentFor c.agent) c.options c.settings

/-- Leaves as a user. The last one shuts the agent down, if it was ever ready. -/
def release (app : Application) : Except AgentError Unit × Application :=
  match app.users with
  | 0 => (.error .notInitialized, app)
  | 1 =>
    match app.opened with
    | none => (.ok (), { app with users := 0, agentReady := false })
    | some r =>
      let ready := app.agentReady
      let app := { app.log .shuttingDown with users := 0, opened := none, agentReady := false }
      if ready then app.onSession r Session.shutdownAgent else (.ok (), app)
  | n + 2 => (.ok (), { app with users := n + 1 })

end Application

end CallPath
