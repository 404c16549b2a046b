import CallPath.Application
/-!
# Commands and runs

A `Command` is anything a program can ask of a session, and `Session.perform` asks it on a
thread. A scope is its `start`, whatever is asked inside it, and its `leave`, so that commands of
other threads may fall in between.

A `Run` is any sequence of admitted commands from a new session; its log keeps the session before
each of them. `Application.Reachable` are the states of a whole application, whose sessions each
went through a run of their own (`Reachable.run`).
-/

namespace CallPath

/-- What a program can ask of a session. -/
inductive Command where
  | create (id : TracerId) (details : Details)
  | trace (id : TracerId) (op : Operation) (options : TraceOptions)
  | start (n : NodeRef)
  | endTracer (n : NodeRef)
  | update (n : NodeRef) (u : Update)
  | updateAll (n : NodeRef) (us : List Update)
  | markFailed (n : NodeRef) (className message : String)
  | outgoingTag (n : NodeRef) (form : TagForm)
  | setIncomingTag (n : NodeRef) (tag : IncomingTag)
  | applyIncomingTags (n : NodeRef) (tags : IncomingTags)
  | leave (n : NodeRef) (outcome : Outcome Unit)
  | drop (n : NodeRef)
  | addAttribute (key : String) (value : AttributeValue)
  | addAttributes (keys : List String) (values : List AttributeValue) (count : Nat)
  | createLink
  | drain
  | clearArchive
  | resolvePending
  | resolve (warnOfUnresolved : Bool)
  | activateAgent (options : List String)
  | shutdownAgent
  | setAgentState (state : AgentState)
  | setCallback (installed : Bool)
  | warn (message : String)

/-- What a command gives back. -/
inductive Reply where
  | silent
  | done (result : Except UsageError Unit)
  | created (result : Except UsageError NodeRef)
  | tag (result : Except UsageError (List UInt8))
  | left (result : ScopeResult Unit)
  | link (link : InProcessLink)
  | nodes (nodes : List NodeRef)
  | resolution (resolution : Resolution)
  | activated (result : Except AgentError (List String))
  | shutDown (result : Except AgentError Unit)

namespace Command

/-- The tracer that the program must still hold. -/
def target? : Command → Option NodeRef
  | start n | endTracer n | update n _ | updateAll n _ | markFailed n _ _ | outgoingTag n _
  | setIncomingTag n _ | applyIncomingTags n _ | leave n _ | drop n => some n
  | _ => none

/-- The id that is issued for a new tracer. -/
def newId? : Command → Option TracerId
  | create id _ | trace id _ _ => some id
  | _ => none

end Command

/-- The ids of all nodes, in the order of their creation. -/
def Forest.ids (f : Forest) : List TracerId :=
  f.nodes.toList.map Node.id

namespace Session

/-- Runs a command on a thread. -/
def perform (s : Session) (t : Thread) : Command → Reply × Session
  | .create newId details => (s.create t newId details).map (.created ∘ .ok) id
  | .trace newId op options => (s.trace t newId op options).map .created id
  | .start n => (s.start t n).map .done id
  | .endTracer n => (s.endTracer t n).map .done id
  | .update n u => (s.update t n u).map .done id
  | .updateAll n us => (s.updateAll t n us).map .done id
  | .markFailed n className message => (s.markFailed t n className message).map .done id
  | .outgoingTag n form => (s.outgoingTag t n form).map .tag id
  | .setIncomingTag n tag => (s.setIncomingTag t n tag).map .done id
  | .applyIncomingTags n tags => (s.applyIncomingTags t n tags).map .done id
  | .leave n outcome => (s.leave t n outcome).map .left id
  | .drop n => (.silent, s.drop t n)
  | .addAttribute key value => (s.addAttribute t key value).map .done id
  | .addAttributes keys values count => (s.addAttributes t keys values count).map .done id
  | .createLink => (.link (s.createLink t), s)
  | .drain => s.drain.map .nodes id
  | .clearArchive => (.silent, { s with archive := {} })
  | .resolvePending => s.resolvePending.map .nodes id
  | .resolve warnOfUnresolved => (s.resolve warnOfUnresolved).map .resolution id
  | .activateAgent options => (s.activateAgent options).map .activated id
  | .shutdownAgent => s.shutdownAgent.map .shutDown id
  | .setAgentState state => (.silent, { s with agent := s.agent.setState state })
  | .setCallback installed => (.silent, s.setCallback installed)
  | .warn message => (.silent, s.warn message)

/-- The program holds the tracer at a position. -/
def Holds (s : Session) (n : NodeRef) : Prop :=
  n < s.forest.size ∧ (s.forest.get n).held = true

/-- A program can only use tracers it holds, and a new id is one never issued before. -/
def Admits (s : Session) (c : Command) : Prop :=
  (∀ n ∈ c.target?, s.Holds n) ∧ ∀ id ∈ c.newId?, id ∉ s.forest.ids

end Session

/-- An agent that has not heard of any tracer, in whatever state it is. -/
def Agent.IsNew (a : Agent) : Prop :=
  ∀ r, a.recorder? = some r → r.calls = [] ∧ r.tracers = {} ∧ r.violations = []

/-- A session nothing was asked of. -/
structure Session.IsNew (s : Session) : Prop where
  forest : s.forest = {}
  paths : s.paths = {}
  archive : s.archive = {}
  metrics : s.metrics = {}
  agent : s.agent.IsNew

theorem Session.IsNew.get_forest {s : Session} (h : s.IsNew) (n : NodeRef) : s.forest.get n = .blank := by
  rw [h.forest]
  rfl

/-! ## Runs of a session -/

/-- A command, the thread it was asked on and the session it met. -/
structure Step where
  before : Session
  thread : Thread
  command : Command

namespace Step

/-- What the command gave back. -/
def reply (x : Step) : Reply :=
  (x.before.perform x.thread x.command).1

/-- The session after the command. -/
def after (x : Step) : Session :=
  (x.before.perform x.thread x.command).2

end Step

/-- The sessions that admitted commands lead to from `s₀`, each with its log. -/
inductive Run (s₀ : Session) : Session → List Step → Prop
  | nil : Run s₀ s₀ []
  | step {s : Session} {log : List Step} (t : Thread) (c : Command) :
      Run s₀ s log → s.Admits c → Run s₀ (s.perform t c).2 (log ++ [⟨s, t, c⟩])

instance (s : Session) (n : NodeRef) : Decidable (s.Holds n) :=
  inferInstanceAs (Decidable (_ ∧ _))

instance (s : Session) (c : Command) : Decidable (s.Admits c) :=
  inferInstanceAs (Decidable (_ ∧ _))

namespace Session

/-- The log of commands that are asked one after the other. -/
def play (s : Session) : List (Thread × Command) → List Step
  | [] => []
  | (t, c) :: rest => ⟨s, t, c⟩ :: (s.perform t c).2.play rest

/-- The session after the commands. -/
def played (s : Session) : List (Thread × Command) → Session
  | [] => s
  | (t, c) :: rest => (s.perform t c).2.played rest

/-- Each of the commands is admitted when its turn comes. -/
def AdmitsAll (s : Session) : List (Thread × Command) → Prop
  | [] => True
  | (t, c) :: rest => s.Admits c ∧ (s.perform t c).2.AdmitsAll rest

instance decidableAdmitsAll : ∀ (cs : List (Thread × Command)) (s : Session), Decidable (s.AdmitsAll cs)
  | [], _ => isTrue trivial
  | (t, c) :: rest, s =>
    have := decidableAdmitsAll rest (s.perform t c).2
    inferInstanceAs (Decidable (_ ∧ _))

end Session

theorem Run.played {s₀ s : Session} {log : List Step} (h : Run s₀ s log) (cs : List (Thread × Command))
    (hc : s.AdmitsAll cs) : Run s₀ (s.played cs) (log ++ s.play cs) := by
  induction cs generalizing s log with
  | nil => simpa [Session.play, Session.played] using h
  | cons c rest ih =>
    obtain ⟨t, c⟩ := c
    have := ih (h.step t c hc.1) hc.2
    rwa [List.append_assoc] at this

/-! ## Applications -/

namespace Application

/-- No tracer of any session has the id. -/
def IsFresh (app : Application) (id : TracerId) : Prop :=
  ∀ r < app.sessions.size, id ∉ (app.get r).forest.ids

/-- The states of an application: sessions are opened over agents of their own, the shared one
by its users, and commands are asked of any session on any thread.

Here a new agent has heard of no tracer, and an id is new to all sessions, so that what the agents have
heard of an id is the whole story of one tracer. What does not speak of that holds for more programs:
those of `AllowsAll`. -/
inductive Reachable : Application → Prop
  | init : Reachable {}
  | newSession {app : Application} (name : String) (agent : Agent) (settings : Settings) :
      Reachable app → agent.IsNew → Reachable (app.newSession name agent settings).2
  | acquire {app : Application} (agent : Agent) (options : List String) (settings : Settings) :
      Reachable app → agent.IsNew → Reachable (app.acquire agent options settings).2
  | acquireConfigured {app : Application} (c : Config) :
      Reachable app → Reachable (app.acquireConfigured c).2
  | release {app : Application} : Reachable app → Reachable app.release.2
  | onSession {app : Application} (r : SessionRef) (t : Thread) (c : Command) :
      Reachable app → r < app.sessions.size → (app.get r).Admits c →
      (∀ id ∈ c.newId?, app.IsFresh id) → Reachable (app.onSession r (·.perform t c)).2

instance (app : Application) (id : TracerId) : Decidable (app.IsFresh id) :=
  inferInstanceAs (Decidable (∀ r < app.sessions.size, id ∉ (app.get r).forest.ids))

/-- The application after commands for its sessions. -/
def played (app : Application) : List (SessionRef × Thread × Command) → Application
  | [] => app
  | (r, t, c) :: rest => (app.onSession r (·.perform t c)).2.played rest

/-- Each of the commands is admitted when its turn comes. -/
def AdmitsAll (app : Application) : List (SessionRef × Thread × Command) → Prop
  | [] => True
  | (r, t, c) :: rest => (r < app.sessions.size ∧ (app.get r).Admits c ∧ ∀ id ∈ c.newId?, app.IsFresh id) ∧
    (app.onSession r (·.perform t c)).2.AdmitsAll rest

instance decidableAdmitsAll :
    ∀ (cs : List (SessionRef × Thread × Command)) (app : Application), Decidable (app.AdmitsAll cs)
  | [], _ => isTrue trivial
  | (r, t, c) :: rest, app =>
    have := decidableAdmitsAll rest (app.onSession r (·.perform t c)).2
    inferInstanceAs (Decidable (_ ∧ _))

theorem Reachable.played {app : Application} (h : app.Reachable) (cs : List (SessionRef × Thread × Command))
    (hc : app.AdmitsAll cs) : (app.played cs).Reachable := by
  induction cs generalizing app with
  | nil => exact h
  | cons c rest ih =>
    obtain ⟨r, t, c⟩ := c
    obtain ⟨⟨hr, ha, hf⟩, hc⟩ := hc
    exact ih (h.onSession r t c hr ha hf) hc

@[simp] theorem size_set (app : Application) (r : SessionRef) (s : Session) :
    (app.set r s).sessions.size = app.sessions.size := by
  simp [set]

theorem get_set (app : Application) (r r' : SessionRef) (s : Session) (h : r' < app.sessions.size) :
    (app.set r s).get r' = if r = r' then s else app.get r' := by
  simp only [get, set, Array.getD_eq_getD_getElem?, Array.getElem?_setIfInBounds]
  split
  · rename_i e; subst e; simp [h]
  · rfl

theorem get_onSession {α : Type} (app : Application) (r r' : SessionRef)
    (operation : Session → α × Session) (h : r' < app.sessions.size) :
    (app.onSession r operation).2.get r' = if r = r' then (operation (app.get r)).2 else app.get r' :=
  get_set app r r' _ h

theorem get_push (app : Application) (s : Session) (r : SessionRef) :
    ({ app with sessions := app.sessions.push s } : Application).get r =
      if r = app.sessions.size then s else app.get r := by
  simp only [get, Array.getD_eq_getD_getElem?, Array.getElem?_push]
  split <;> rfl

/-! ## The shared session -/

/-- The sessions of `app'` are those of `app`, and maybe a new one. -/
def Opens (app app' : Application) : Prop :=
  app'.sessions = app.sessions ∨ ∃ s : Session, s.IsNew ∧ app'.sessions = app.sessions.push s

theorem get_eq_of_sessions {app app' : Application} (h : app'.sessions = app.sessions) (r : SessionRef) :
    app'.get r = app.get r := by
  simp only [get, h]

theorem Opens.get_cases {app app' : Application} (h : app.Opens app') {r : SessionRef}
    (hr : r < app'.sessions.size) : (r < app.sessions.size ∧ app'.get r = app.get r) ∨
      (r = app.sessions.size ∧ (app'.get r).IsNew) := by
  rcases h with h | ⟨s, hs, h⟩
  · exact .inl ⟨h ▸ hr, get_eq_of_sessions h r⟩
  · have e : app'.get r = if r = app.sessions.size then s else app.get r := by
      rw [← get_push]
      exact get_eq_of_sessions h r
    rw [h, Array.size_push] at hr
    rw [e]
    split
    · rename_i hlast
      exact .inr ⟨hlast, hs⟩
    · rename_i hlast
      exact .inl ⟨Nat.lt_of_le_of_ne (Nat.le_of_lt_succ hr) hlast, rfl⟩

theorem newSession_opens (app : Application) (name : String) (agent : Agent) (settings : Settings)
    (h : agent.IsNew) : app.Opens (app.newSession name agent settings).2 :=
  .inr ⟨_, ⟨rfl, rfl, rfl, rfl, h⟩, rfl⟩

theorem agent_isNew_null : Agent.null.IsNew := by
  intro r h
  cases h

/-- Initializing an agent does not make it hear of tracers. -/
theorem activate_isNew {a : Agent} (h : a.IsNew) (options : List String) : (a.activate options).2.IsNew := by
  obtain ⟨backend, callback⟩ := a
  cases backend with
  | null => exact h
  | recorder r =>
    intro r' hr'
    obtain ⟨hc, ht, hv⟩ := h r rfl
    obtain rfl : (r.activate options).2 = r' := Option.some.inj hr'
    unfold Recorder.activate
    split
    · exact ⟨hc, ht, hv⟩
    · split <;> exact ⟨hc, ht, hv⟩

theorem acquire_opens (app : Application) (agent : Agent) (options : List String) (settings : Settings)
    (h : agent.IsNew) : app.Opens (app.acquire agent options settings).2 := by
  unfold acquire
  dsimp only
  split
  · exact .inl rfl
  · split
    · exact newSession_opens _ _ _ _ (activate_isNew h options)
    · exact newSession_opens _ _ _ _ (activate_isNew h options)
    · exact newSession_opens _ _ _ _ agent_isNew_null

theorem agentFor_isNew (name : String) : (Config.agentFor name).IsNew := by
  unfold Config.agentFor
  split
  · rintro r ⟨⟩
    exact ⟨rfl, rfl, rfl⟩
  · exact agent_isNew_null

/-- The last user to leave asks the shared session to shut its agent down. -/
theorem release_eq (app : Application) :
    app.release.2.sessions = app.sessions ∨
      ∃ r, app.release.2.sessions = (app.onSession r Session.shutdownAgent).2.sessions := by
  unfold release
  split
  · exact .inl rfl
  · split
    · exact .inl rfl
    · dsimp only
      split
      · exact .inr ⟨_, rfl⟩
      · exact .inl rfl
  · exact .inl rfl

/-! ## Every session of an application goes through a run -/

/-- Every session of the application went through a run from a new session. -/
def Ran (app : Application) : Prop :=
  ∀ r < app.sessions.size, ∃ s₀ log, s₀.IsNew ∧ Run s₀ (app.get r) log

theorem Ran.opens {app app' : Application} (hr : app.Ran) (h : app.Opens app') : app'.Ran := by
  intro r hlt
  rcases h.get_cases hlt with ⟨hlt, e⟩ | ⟨-, hs⟩
  · rw [e]
    exact hr r hlt
  · exact ⟨_, [], hs, .nil⟩

theorem Ran.onSession {app : Application} (hr : app.Ran) (r : SessionRef) (t : Thread) (c : Command)
    (hc : (app.get r).Admits c) : (app.onSession r (·.perform t c)).2.Ran := by
  intro r' hlt
  have hlt' : r' < app.sessions.size := by rwa [Application.onSession, size_set] at hlt
  obtain ⟨s₀, log, h0, h⟩ := hr r' hlt'
  rw [get_onSession _ _ _ _ hlt']
  split
  · rename_i e; subst e
    exact ⟨s₀, _, h0, .step t c h hc⟩
  · exact ⟨s₀, log, h0, h⟩

/-- What new sessions and commands keep holds of every state. -/
theorem Reachable.inv {P : Application → Prop} (init : P {})
    (opens : ∀ {app app' : Application}, P app → app.Opens app' → P app')
    (command : ∀ {app : Application} (r : SessionRef) (t : Thread) (c : Command), P app → (app.get r).Admits c →
      (∀ id ∈ c.newId?, app.IsFresh id) → P (app.onSession r (·.perform t c)).2)
    {app : Application} (h : app.Reachable) : P app := by
  induction h with
  | init => exact init
  | newSession name agent settings _ ha ih => exact opens ih (newSession_opens _ _ _ _ ha)
  | acquire agent options settings _ ha ih => exact opens ih (acquire_opens _ _ _ _ ha)
  | acquireConfigured c _ ih => exact opens ih (acquire_opens _ _ _ _ (agentFor_isNew _))
  | @release app _ ih =>
    rcases release_eq app with e | ⟨r, e⟩
    · exact opens ih (.inl e)
    · have := command r ⟨""⟩ .shutdownAgent ih ⟨by simp [Command.target?], by simp [Command.newId?]⟩
        (by simp [Command.newId?])
      exact opens this (.inl e)
  | onSession r t c _ _ hc hf ih => exact command r t c ih hc hf

theorem Reachable.run {app : Application} (h : app.Reachable) : app.Ran := by
  refine h.inv (fun r hlt => ?_) Ran.opens fun r t c hr hc _ => hr.onSession r t c hc
  obtain rfl : r = 0 := by simpa using hlt
  exact ⟨_, [], ⟨rfl, rfl, rfl, rfl, agent_isNew_null⟩, .nil⟩

end Application

end CallPath
