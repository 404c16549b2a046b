import CallPath.Proofs.Confinement
import CallPath.Proofs.Isolation
/-!
# Actions that a program may take

A program is held to what it may ask of its tracers, and to nothing else: unlike for `Reachable`, the agents
it gives away may have been used before, and an id is only new to the session that it is for. So every
reachable state is one that allowed actions lead to (`Application.Reachable.exists_acted`), and there are
others. Each session of a program goes through a run of its own, from the moment it is opened on
(`Application.acted_run`).
-/

namespace CallPath

/-- What the first user is told, depending on what the agent answered. -/
def InitResult.ofOutcome : Except AgentError (List String) → InitResult
  | .ok [] => { status := .initialized }
  | .ok rejected =>
    { status := .initializedWithWarning, detail := some ("Agent rejected options: " ++ ", ".intercalate rejected) }
  | .error e => { status := .failed, detail := some e.message }

namespace Application

/-- A program uses its tracers as it may; the agents it gives away are any, used before or not. -/
def Allows (app : Application) : Action → Prop
  | .command r _ c => r < app.sessions.size ∧ (app.get r).Admits c
  | _ => True

/-- Each of the actions is allowed when its turn comes. -/
def AllowsAll (app : Application) : List Action → Prop
  | [] => True
  | a :: rest => app.Allows a ∧ (app.act a).2.AllowsAll rest

instance decidableAllows (app : Application) : ∀ a, Decidable (app.Allows a)
  | .command _ _ _ => inferInstanceAs (Decidable (_ ∧ _))
  | .newSession .. | .acquire .. | .acquireConfigured _ | .release => inferInstanceAs (Decidable True)

instance decidableAllowsAll : ∀ (as : List Action) (app : Application), Decidable (app.AllowsAll as)
  | [], _ => isTrue trivial
  | a :: rest, app =>
    have := decidableAllowsAll rest (app.act a).2
    inferInstanceAs (Decidable (_ ∧ _))

/-- What is permitted where agents are new is allowed. -/
theorem Permits.allows {app : Application} {a : Action} (h : app.Permits a) : app.Allows a := by
  cases a with
  | command r t c => exact ⟨h.1, h.2.1⟩
  | _ => trivial

theorem AllowsAll.snoc {app : Application} {as : List Action} {a : Action} (has : app.AllowsAll as)
    (ha : (app.acted as).Permits a) :
    app.AllowsAll (as ++ [a]) ∧ app.acted (as ++ [a]) = ((app.acted as).act a).2 := by
  induction as generalizing app with
  | nil => exact ⟨⟨Permits.allows ha, trivial⟩, rfl⟩
  | cons b as ih =>
    obtain ⟨hall, hacted⟩ := ih has.2 ha
    exact ⟨⟨has.1, hall⟩, hacted⟩

/-- Allowed actions lead to every reachable state. -/
theorem Reachable.exists_acted {app : Application} (h : app.Reachable) :
    ∃ as, ({} : Application).AllowsAll as ∧ ({} : Application).acted as = app := by
  have next : ∀ {app : Application} (a : Action), app.Permits a →
      (∃ as, ({} : Application).AllowsAll as ∧ ({} : Application).acted as = app) →
      ∃ as, ({} : Application).AllowsAll as ∧ ({} : Application).acted as = (app.act a).2 := by
    rintro _ a ha ⟨as, has, rfl⟩
    exact ⟨_, has.snoc ha⟩
  induction h with
  | init => exact ⟨[], trivial, rfl⟩
  | newSession name agent settings _ hnew ih => exact next (.newSession name agent settings) hnew ih
  | acquire agent options settings _ hnew ih => exact next (.acquire agent options settings) hnew ih
  | acquireConfigured c _ ih => exact next (.acquireConfigured c) trivial ih
  | release _ ih => exact next .release trivial ih
  | onSession r t c _ hr hc hid ih => exact next (.command r t c) ⟨hr, hc, hid⟩ ih

theorem acquire_again {app : Application} (h : 0 < app.users) (agent : Agent) (options : List String)
    (settings : Settings) : app.acquire agent options settings =
      ({ status := .stillInitialized },
        { app with users := app.users + 1, events := app.events ++ [.stillInitialized (app.users + 1)] }) := by
  unfold acquire
  exact if_pos (Nat.succ_lt_succ h)

/-- The session that the first user opens. -/
def openedOver (agent : Agent) (settings : Settings) : Except AgentError (List String) → Session
  | .ok _ => { name := sharedName, agent, settings }
  | .error _ => { name := sharedName, agent := .null, settings }

theorem acquire_first {app : Application} (h : app.users = 0) (agent : Agent) (options : List String)
    (settings : Settings) : ∃ events, app.acquire agent options settings =
      (.ofOutcome (agent.activate options).1,
        { sessions := app.sessions.push (openedOver (agent.activate options).2 settings (agent.activate options).1)
          users := 1
          opened := some app.sessions.size
          agentReady := (agent.activate options).1.isOk
          events }) := by
  have hu : ¬ app.users + 1 > 1 := by simp [h]
  unfold acquire
  dsimp only
  rw [if_neg hu]
  rcases (agent.activate options).1 with e | _ | ⟨option, rest⟩
  all_goals
    exact ⟨_, by
      simp [h, log, openShared, newSession, openedOver, InitResult.ofOutcome, Except.isOk, Except.toBool]
      rfl⟩

theorem get_openedSession (app : Application) (s : Session) (users : Nat) (opened : Option SessionRef) (ready : Bool)
    (events : List Event) : ({ sessions := app.sessions.push s, users, opened, agentReady := ready, events } :
      Application).get app.sessions.size = s :=
  (get_push app s app.sessions.size).trans (if_pos rfl)

/-! ## The run of each session -/

/-- What an action asks of a session. The last user to leave has the agent of the shared one shut down. -/
def stepsOf (app : Application) (r : SessionRef) : Action → List Step
  | .command r' t c => if r' = r then [⟨app.get r, t, c⟩] else []
  | .release =>
    if app.users = 1 ∧ app.opened = some r ∧ app.agentReady ∧ r < app.sessions.size then
      [⟨app.get r, ⟨""⟩, .shutdownAgent⟩]
    else []
  | .newSession .. | .acquire .. | .acquireConfigured _ => []

/-- What actions ask of a session, one after the other. -/
def steps (app : Application) (r : SessionRef) : List Action → List Step
  | [] => []
  | a :: rest => app.stepsOf r a ++ (app.act a).2.steps r rest

/-- The sessions are as they were, with a new one at most. -/
def Adds (app app' : Application) : Prop :=
  app'.sessions = app.sessions ∨ ∃ name agent settings, app'.sessions = app.sessions.push { name, agent, settings }

theorem Adds.get_cases {app app' : Application} (h : app.Adds app') {r : SessionRef} (hr : r < app'.sessions.size) :
    (r < app.sessions.size ∧ app'.get r = app.get r) ∨
      (r = app.sessions.size ∧ ∃ name agent settings, app'.get r = { name, agent, settings }) := by
  rcases h with h | ⟨name, agent, settings, h⟩
  · exact .inl ⟨h ▸ hr, get_eq_of_sessions h r⟩
  · have hpush := get_push app { name, agent, settings } r
    have hget : app'.get r = _ := (get_eq_of_sessions h r).trans hpush
    rw [h, Array.size_push] at hr
    rcases Nat.lt_or_eq_of_le (Nat.le_of_lt_succ hr) with hlt | rfl
    · exact .inl ⟨hlt, by rw [hget, if_neg (Nat.ne_of_lt hlt)]⟩
    · exact .inr ⟨rfl, name, agent, settings, by rw [hget, if_pos rfl]⟩

theorem acquire_adds (app : Application) (agent : Agent) (options : List String) (settings : Settings) :
    app.Adds (app.acquire agent options settings).2 := by
  rcases Nat.eq_zero_or_pos app.users with hu | hu
  · obtain ⟨events, h⟩ := acquire_first hu agent options settings
    rw [h]
    right
    cases (agent.activate options).1 with
    | ok _ => exact ⟨_, _, _, rfl⟩
    | error _ => exact ⟨_, _, _, rfl⟩
  · rw [acquire_again hu]
    exact .inl rfl

theorem size_release (app : Application) : app.release.2.sessions.size = app.sessions.size := by
  rcases release_eq app with h | ⟨r, h⟩
  · rw [h]
  · rw [h]
    exact size_set app r _

theorem get_release (app : Application) {r : SessionRef} (hr : r < app.sessions.size) : app.release.2.get r =
    if app.users = 1 ∧ app.opened = some r ∧ app.agentReady then (app.get r).shutdownAgent.2 else app.get r := by
  unfold release
  rcases hu : app.users with _ | _ | n
  · simp
  · rcases ho : app.opened with _ | r'
    · simp [get]
    · cases hready : app.agentReady
      · simp [get, log]
      · refine (get_onSession _ r' r Session.shutdownAgent hr).trans ?_
        by_cases h : r' = r <;> simp [h, get]
  · simp [get]

theorem Adds.size_le {app app' : Application} (h : app.Adds app') : app.sessions.size ≤ app'.sessions.size := by
  rcases h with h | ⟨name, agent, settings, h⟩ <;> simp [h]

theorem size_le_act (app : Application) (a : Action) : app.sessions.size ≤ (app.act a).2.sessions.size := by
  cases a with
  | newSession name agent settings => exact Adds.size_le (.inr ⟨name, agent, settings, rfl⟩)
  | acquire agent options settings => exact (acquire_adds app agent options settings).size_le
  | acquireConfigured c => exact (acquire_adds app (Config.agentFor c.agent) c.options c.settings).size_le
  | release => exact Nat.le_of_eq (size_release app).symm
  | command r t c => exact Nat.le_of_eq (size_onSession app r (·.perform t c)).symm

/-- Nothing is asked of a session that is not there yet. -/
theorem stepsOf_of_size_le {app : Application} {a : Action} (ha : app.Allows a) {r : SessionRef}
    (hr : app.sessions.size ≤ r) : app.stepsOf r a = [] := by
  cases a with
  | command r' t c => exact if_neg (Nat.ne_of_lt (Nat.lt_of_lt_of_le ha.1 hr))
  | release => exact if_neg fun h => absurd h.2.2.2 (Nat.not_lt.2 hr)
  | _ => rfl

/-- A session that was there goes through what it is asked. -/
theorem act_run {app : Application} {a : Action} (ha : app.Allows a) {r : SessionRef}
    (hr : r < (app.act a).2.sessions.size) :
    (r < app.sessions.size ∧ Run (app.get r) ((app.act a).2.get r) (app.stepsOf r a)) ∨
      (app.sessions.size ≤ r ∧ ∃ name agent settings, (app.act a).2.get r = { name, agent, settings }) := by
  have added : app.Adds (app.act a).2 → app.stepsOf r a = [] →
      (r < app.sessions.size ∧ Run (app.get r) ((app.act a).2.get r) (app.stepsOf r a)) ∨
        (app.sessions.size ≤ r ∧ ∃ name agent settings, (app.act a).2.get r = { name, agent, settings }) := by
    intro hadds hnone
    rcases hadds.get_cases hr with ⟨hlt, hget⟩ | ⟨hlast, hnew⟩
    · rw [hget, hnone]
      exact .inl ⟨hlt, .nil⟩
    · exact .inr ⟨Nat.le_of_eq hlast.symm, hnew⟩
  cases a with
  | newSession name agent settings => exact added (.inr ⟨name, agent, settings, rfl⟩) rfl
  | acquire agent options settings => exact added (acquire_adds app agent options settings) rfl
  | acquireConfigured c => exact added (acquire_adds app (Config.agentFor c.agent) c.options c.settings) rfl
  | command r' t c =>
    have hact : (app.act (.command r' t c)).2 = (app.onSession r' (·.perform t c)).2 := rfl
    rw [hact] at hr ⊢
    have hlt : r < app.sessions.size := by rwa [size_onSession] at hr
    refine .inl ⟨hlt, ?_⟩
    rw [get_onSession _ _ _ _ hlt, stepsOf]
    by_cases h : r' = r
    · subst h
      rw [if_pos rfl, if_pos rfl]
      exact .step t c .nil ha.2
    · rw [if_neg h, if_neg h]
      exact .nil
  | release =>
    have hact : (app.act .release).2 = app.release.2 := rfl
    rw [hact] at hr ⊢
    have hlt : r < app.sessions.size := by rwa [size_release] at hr
    refine .inl ⟨hlt, ?_⟩
    rw [get_release app hlt, stepsOf]
    simp only [hlt, and_true]
    split
    · exact .step (s := app.get r) ⟨""⟩ .shutdownAgent .nil ⟨nofun, nofun⟩
    · exact .nil

/-- Every session goes through what it is asked, from the moment on that it was opened. -/
theorem acted_run {as : List Action} {app : Application} (has : app.AllowsAll as) {r : SessionRef}
    (hr : r < (app.acted as).sessions.size) : ∃ s₀, Run s₀ ((app.acted as).get r) (app.steps r as) ∧
      ((r < app.sessions.size ∧ s₀ = app.get r) ∨
        (app.sessions.size ≤ r ∧ ∃ name agent settings, s₀ = { name, agent, settings })) := by
  induction as generalizing app with
  | nil => exact ⟨app.get r, .nil, .inl ⟨hr, rfl⟩⟩
  | cons a as ih =>
    obtain ⟨s₀, hrun, ⟨hlt, rfl⟩ | ⟨hle, hnew⟩⟩ := ih has.2 hr
    · rcases act_run has.1 hlt with ⟨hlt', hfirst⟩ | ⟨hle, hopened⟩
      · exact ⟨_, hfirst.append hrun, .inl ⟨hlt', rfl⟩⟩
      · refine ⟨_, ?_, .inr ⟨hle, hopened⟩⟩
        rw [steps, stepsOf_of_size_le has.1 hle]
        exact hrun
    · have hle' := Nat.le_trans (size_le_act app a) hle
      refine ⟨s₀, ?_, .inr ⟨hle', hnew⟩⟩
      rw [steps, stepsOf_of_size_le has.1 hle']
      exact hrun

/-- The run of a session of an application, which began with nothing. -/
theorem run_acted {as : List Action} (has : ({} : Application).AllowsAll as) {r : SessionRef}
    (hr : r < (({} : Application).acted as).sessions.size) : ∃ name agent settings,
      Run { name, agent, settings } ((({} : Application).acted as).get r) (({} : Application).steps r as) := by
  obtain ⟨s₀, hrun, ⟨hlt, rfl⟩ | ⟨-, name, agent, settings, rfl⟩⟩ := acted_run has hr
  · obtain rfl : r = 0 := Nat.lt_one_iff.1 hlt
    exact ⟨"null", .null, .unretained, hrun⟩
  · exact ⟨name, agent, settings, hrun⟩

end Application

end CallPath
