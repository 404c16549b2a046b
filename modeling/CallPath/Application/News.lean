import CallPath.Application
/-!
# News of an application

The messages that reached diagnostic callbacks and the logged events pile up until they are taken.
Taking them changes nothing else.
-/

namespace CallPath

/-- The messages of the callbacks, and the slot without them. -/
def CallbackSlot.takeMessages (s : CallbackSlot) : List String × CallbackSlot :=
  (s.messages, { current := s.current.map fun _ => [] })

/-- The messages and events of a session, and the session without them. -/
def Session.takeNews (s : Session) : (List String × List Event) × Session :=
  let (messages, callback) := s.agent.callback.takeMessages
  ((messages, s.events), { s with agent := { s.agent with callback }, events := [] })

namespace Application

/-- What there is to tell of an application. -/
structure News where
  /-- The messages, each with the session it comes from. -/
  messages : List (SessionRef × String) := []
  events : List Event := []
  deriving DecidableEq, Repr

/-- The news of an application, its own events first, and the application without them. -/
def takeNews (app : Application) : News × Application :=
  let step (state : News × Application) (r : SessionRef) : News × Application :=
    let ((messages, events), app) := state.2.onSession r Session.takeNews
    (⟨state.1.messages ++ messages.map (r, ·), state.1.events ++ events⟩, app)
  (List.range app.sessions.size).foldl step ({ events := app.events }, { app with events := [] })

end Application

end CallPath
