import CallPath.Proofs.InPlace
import CallPath.Proofs.Lasting
import CallPath.Proofs.Quiet
/-!
# Refused calls on tracers

A call on a tracer that gives back an error has changed nothing but the account of such errors. The
account is what no later action looks at, so the refused calls of a run can be left out, and every
other action answers as it did (`Application.Reachable.refusalsHarmless`).

A refusal also writes a line to the log. It goes where the count goes: both are left out of
`quieted` sessions.
-/

namespace CallPath

/-- The calls on a tracer, each of which its caller is told the outcome of. -/
def Command.isTracerCall : Command → Bool
  | start _ | endTracer _ | update .. | markFailed .. | outgoingTag .. | setIncomingTag .. => true
  | _ => false

/-- The error that a call on a tracer gave back. -/
def Reply.error? : Reply → Option UsageError
  | done (.error e) | tag (.error e) => some e
  | _ => none

/-! ## One call -/

theorem Node.requireThread_of_ne {m : Node} {t : Thread} (h : m.owner ≠ t) :
    m.requireThread t = .error (.threadAffinity m.label m.owner t) := by
  unfold requireThread
  rw [if_neg (Ne.symm h)]

namespace Session

variable {s : Session} {t : Thread} {n : NodeRef} {c : Command} {e : UsageError}

/-- Every call on a tracer is a checked operation, and the thread is what it checks first. -/
theorem perform_checked (s : Session) (t : Thread) (hc : c.isTracerCall = true) : ∃ n ∈ c.target?,
    ∃ (α : Type) (k : Except UsageError α → Reply) (r : Except UsageError (α × Session)),
      (∀ e, (k (.error e)).error? = some e) ∧ (∀ a, (k (.ok a)).error? = none) ∧
        s.perform t c = (s.checked n ((s.forest.get n).requireThread t >>= fun _ => r)).map k id := by
  cases c with
  | start n => exact ⟨n, rfl, Unit, .done, _, fun _ => rfl, fun _ => rfl, rfl⟩
  | endTracer n => exact ⟨n, rfl, Unit, .done, _, fun _ => rfl, fun _ => rfl, rfl⟩
  | update n u => exact ⟨n, rfl, Unit, .done, _, fun _ => rfl, fun _ => rfl, rfl⟩
  | markFailed n className message => exact ⟨n, rfl, Unit, .done, _, fun _ => rfl, fun _ => rfl, rfl⟩
  | outgoingTag n form => exact ⟨n, rfl, List UInt8, .tag, _, fun _ => rfl, fun _ => rfl, rfl⟩
  | setIncomingTag n tag => exact ⟨n, rfl, Unit, .done, _, fun _ => rfl, fun _ => rfl, rfl⟩
  | _ => cases hc

theorem perform_refused (hc : c.isTracerCall = true) (h : (s.perform t c).1.error? = some e) :
    ∃ n ∈ c.target?, (s.perform t c).2 = s.refused n e := by
  obtain ⟨n, hn, α, k, r, herror, hok, hp⟩ := s.perform_checked t hc
  rw [hp] at h ⊢
  rcases s.checked_cases n ((s.forest.get n).requireThread t >>= fun _ => r) with ⟨e', hs⟩ | ⟨a, s', -, hs⟩
  · rw [hs] at h ⊢
    obtain rfl : e' = e := Option.some.inj ((herror e').symm.trans h)
    exact ⟨n, hn, rfl⟩
  · rw [hs] at h
    exact absurd ((hok a).symm.trans h) (by simp)

theorem perform_foreign (hc : c.isTracerCall = true) (hn : n ∈ c.target?) (h : (s.forest.get n).owner ≠ t) :
    (s.perform t c).1.error? = some (.threadAffinity (s.forest.label n) (s.forest.get n).owner t) := by
  obtain ⟨m, hm, α, k, r, herror, -, hp⟩ := s.perform_checked t hc
  obtain rfl : m = n := Option.some.inj (hm.symm.trans hn)
  rw [hp, Node.requireThread_of_ne h]
  exact herror _

end Session

/-! ## Everything that is done to an application -/

instance : ∀ a : Agent, Decidable a.IsNew
  | ⟨.null, _⟩ => isTrue (by rintro r ⟨⟩)
  | ⟨.recorder r, _⟩ => decidable_of_iff (r.calls = [] ∧ r.tracers = {} ∧ r.violations = [])
      ⟨by rintro h _ ⟨⟩; exact h, fun h => h r rfl⟩

/-- What a program can do with an application. -/
inductive Action where
  | newSession (name : String) (agent : Agent) (settings : Settings)
  | acquire (agent : Agent) (options : List String) (settings : Settings)
  | acquireConfigured (config : Config)
  | release
  | command (r : SessionRef) (t : Thread) (c : Command)

inductive Answer where
  | session (r : SessionRef)
  | acquired (result : InitResult)
  | released (result : Except AgentError Unit)
  | reply (reply : Reply)

/-- Something that was done, and what it gave back. -/
structure Entry where
  action : Action
  answer : Answer

/-- The error that a call on a tracer gave back, if this is one and it did. -/
def Entry.refusal? : Entry → Option UsageError
  | ⟨.command _ _ c, .reply reply⟩ => if c.isTracerCall then reply.error? else none
  | _ => none

namespace Application

def act (app : Application) : Action → Answer × Application
  | .newSession name agent settings => (app.newSession name agent settings).map .session id
  | .acquire agent options settings => (app.acquire agent options settings).map .acquired id
  | .acquireConfigured config => (app.acquireConfigured config).map .acquired id
  | .release => app.release.map .released id
  | .command r t c => (app.onSession r (·.perform t c)).map .reply id

/-- What `Reachable` asks of an action. -/
def Permits (app : Application) : Action → Prop
  | .newSession _ agent _ | .acquire agent _ _ => agent.IsNew
  | .acquireConfigured _ | .release => True
  | .command r _ c => r < app.sessions.size ∧ (app.get r).Admits c ∧ ∀ id ∈ c.newId?, app.IsFresh id

instance decidablePermits (app : Application) : ∀ a, Decidable (app.Permits a)
  | .newSession _ agent _ | .acquire agent _ _ => inferInstanceAs (Decidable agent.IsNew)
  | .acquireConfigured _ | .release => inferInstanceAs (Decidable True)
  | .command _ _ _ => inferInstanceAs (Decidable (_ ∧ _ ∧ _))

theorem Reachable.act {app : Application} (h : app.Reachable) {a : Action} (ha : app.Permits a) :
    (app.act a).2.Reachable := by
  cases a with
  | newSession name agent settings => exact h.newSession name agent settings ha
  | acquire agent options settings => exact h.acquire agent options settings ha
  | acquireConfigured config => exact h.acquireConfigured config
  | release => exact h.release
  | command r t c => exact h.onSession r t c ha.1 ha.2.1 ha.2.2

/-- What a program did, one action after the other. -/
def transcript (app : Application) : List Action → List Entry
  | [] => []
  | a :: rest => ⟨a, (app.act a).1⟩ :: (app.act a).2.transcript rest

/-- The application after the actions. -/
def acted (app : Application) : List Action → Application
  | [] => app
  | a :: rest => (app.act a).2.acted rest

/-- Each of the actions is permitted when its turn comes. -/
def PermitsAll (app : Application) : List Action → Prop
  | [] => True
  | a :: rest => app.Permits a ∧ (app.act a).2.PermitsAll rest

instance decidablePermitsAll : ∀ (as : List Action) (app : Application), Decidable (app.PermitsAll as)
  | [], _ => isTrue trivial
  | a :: rest, app =>
    have := decidablePermitsAll rest (app.act a).2
    inferInstanceAs (Decidable (_ ∧ _))

theorem Reachable.acted {app : Application} (h : app.Reachable) (as : List Action) (has : app.PermitsAll as) :
    (app.acted as).Reachable := by
  induction as generalizing app with
  | nil => exact h
  | cons a as ih => exact ih (h.act has.1) has.2

/-- The application without the accounts of refused calls. -/
def quieted (app : Application) : Application :=
  { app with sessions := app.sessions.map Session.quieted }

@[simp] theorem size_quieted (app : Application) : app.quieted.sessions.size = app.sessions.size := by
  simp [quieted]

@[simp] theorem get_quieted (app : Application) (r : SessionRef) : app.quieted.get r = (app.get r).quieted := by
  simp only [get, quieted, Array.getD_eq_getD_getElem?, Array.getElem?_map]
  cases app.sessions[r]? <;> rfl

@[simp] theorem quieted_quieted (app : Application) : app.quieted.quieted = app.quieted := by
  have h : Session.quieted ∘ Session.quieted = Session.quieted := funext Session.quieted_quieted
  simp [quieted, h]

theorem quieted_set (app : Application) (r : SessionRef) (s : Session) :
    (app.set r s).quieted = app.quieted.set r s.quieted := by
  simp [quieted, set]

theorem permits_quieted (app : Application) (a : Action) : app.quieted.Permits a ↔ app.Permits a := by
  cases a <;> simp [Permits, Session.Admits, Session.Holds, IsFresh]

theorem onSession_blind {α : Type} {f : Session → α × Session} (hf : Blind Session.quieted f) (r : SessionRef) :
    Blind quieted fun app => app.onSession r f := by
  intro app
  obtain ⟨h1, h2⟩ := Prod.ext_iff.1 (hf (app.get r))
  refine Prod.ext ?_ ?_
  · simpa [onSession] using h1
  · show (app.quieted.set r (f (app.quieted.get r)).2).quieted = (app.set r (f (app.get r)).2).quieted
    rw [quieted_set, quieted_set, quieted_quieted, get_quieted]
    exact congrArg (app.quieted.set r) h2

/-- Opening a session leaves out nothing, for a new session has no account yet. -/
theorem newSession_quieted (app : Application) (name : String) (agent : Agent) (settings : Settings) :
    app.quieted.newSession name agent settings = (app.newSession name agent settings).map id quieted := by
  refine Prod.ext (size_quieted app) ?_
  simp [newSession, quieted, Session.quieted, Metrics.quieted]

theorem openShared_quieted (app : Application) (agent : Agent) (settings : Settings) (ready : Bool) :
    app.quieted.openShared agent settings ready = (app.openShared agent settings ready).quieted := by
  simp [openShared, newSession, quieted, Session.quieted, Metrics.quieted]

theorem acquire_quieted (app : Application) (agent : Agent) (options : List String) (settings : Settings) :
    app.quieted.acquire agent options settings = (app.acquire agent options settings).map id quieted := by
  -- What was logged and counted up to the opening is no part of the accounts.
  have hopen : ∀ (users : Nat) (events : List Event) (agent : Agent) (ready : Bool),
      openShared { app.quieted with users, events } agent settings ready =
        (openShared { app with users, events } agent settings ready).quieted := fun users events agent ready =>
    openShared_quieted { app with users, events } agent settings ready
  unfold acquire
  dsimp only
  by_cases hu : app.users + 1 > 1
  · have hu' : app.quieted.users + 1 > 1 := hu
    rw [if_pos hu, if_pos hu']
    rfl
  · have hu' : ¬ app.quieted.users + 1 > 1 := hu
    rw [if_neg hu, if_neg hu']
    rcases (agent.activate options).1 with e | _ | ⟨option, rest⟩
    all_goals
      dsimp only [log]
      rw [hopen]
      rfl

theorem shutdownAgent_blind : Blind Session.quieted Session.shutdownAgent := fun s =>
  Prod.ext rfl (by simp [Session.shutdownAgent, Session.quieted, Metrics.quieted])

theorem release_blind : Blind quieted release := by
  intro app
  unfold release
  dsimp only [quieted]
  split
  · exact Prod.ext rfl (quieted_quieted app)
  · split
    · exact Prod.ext rfl (quieted_quieted { app with users := 0, agentReady := false })
    · split
      · exact onSession_blind shutdownAgent_blind _
          { app.log .shuttingDown with users := 0, opened := none, agentReady := false }
      · exact Prod.ext rfl
          (quieted_quieted { app.log .shuttingDown with users := 0, opened := none, agentReady := false })
  · rename_i n _
    exact Prod.ext rfl (quieted_quieted { app with users := n + 1 })

/-- No action notices that calls were refused before it. -/
theorem act_blind (a : Action) : Blind quieted fun app => app.act a := by
  cases a with
  | newSession name agent settings =>
    have h : Blind quieted fun app => app.newSession name agent settings :=
      .of_commute quieted_quieted fun app => newSession_quieted app name agent settings
    exact h.map Answer.session
  | acquire agent options settings =>
    have h : Blind quieted fun app => app.acquire agent options settings :=
      .of_commute quieted_quieted fun app => acquire_quieted app agent options settings
    exact h.map Answer.acquired
  | acquireConfigured config =>
    have h : Blind quieted fun app => app.acquireConfigured config :=
      .of_commute quieted_quieted fun app =>
        acquire_quieted app (Config.agentFor config.agent) config.options config.settings
    exact h.map Answer.acquired
  | release => exact release_blind.map Answer.released
  | command r t c => exact (onSession_blind (Session.perform_blind (t := t) c) r).map Answer.reply

/-! ## Runs without their refused calls -/

theorem set_get (app : Application) (r : SessionRef) : app.set r (app.get r) = app := by
  have h : app.sessions.setIfInBounds r (app.get r) = app.sessions := by
    apply Array.ext (by simp)
    intro i _ hi
    rw [Array.getElem_setIfInBounds]
    split
    · rename_i e
      subst e
      simp [get, Array.getD_eq_getD_getElem?, Array.getElem?_eq_getElem hi]
    · rfl
  simp [set, h]

theorem act_refused {app : Application} {r : SessionRef} {t : Thread} {c : Command} {e : UsageError}
    (hc : c.isTracerCall = true) (h : ((app.get r).perform t c).1.error? = some e) :
    ∃ n ∈ c.target?, (app.act (.command r t c)).2 = app.set r ((app.get r).refused n e) := by
  obtain ⟨n, hn, hs⟩ := Session.perform_refused hc h
  exact ⟨n, hn, congrArg (app.set r) hs⟩

/-- A refused call leaves nothing but its account. -/
theorem quieted_of_refusal {app : Application} {a : Action} {e : UsageError}
    (h : Entry.refusal? ⟨a, (app.act a).1⟩ = some e) :
    (app.act a).2.quieted = app.quieted := by
  cases a with
  | command r t c =>
    obtain ⟨hc, he⟩ := Option.ite_none_right_eq_some.1 h
    obtain ⟨n, -, hs⟩ := act_refused hc he
    have hq : ((app.get r).refused n e).quieted = (app.get r).quieted := by
      simp [Session.refused, Session.log, Session.quieted, Metrics.quieted, Metrics.recordUsageError, Event.isRefusal]
    rw [hs, quieted_set, hq, ← get_quieted, set_get]
  | _ => cases h

/-- What is left of a run when its refused calls are taken out. -/
def kept (app : Application) (as : List Action) : List Entry :=
  (app.transcript as).filter (·.refusal?.isNone)

/-- The rest of a run goes on as it did. -/
theorem transcript_kept (as : List Action) {app app' : Application} (h : app'.quieted = app.quieted) :
    app'.transcript ((app.kept as).map Entry.action) = app.kept as ∧
      (app'.acted ((app.kept as).map Entry.action)).quieted = (app.acted as).quieted ∧
      (app.PermitsAll as → app'.PermitsAll ((app.kept as).map Entry.action)) := by
  induction as generalizing app app' with
  | nil => exact ⟨rfl, h, fun _ => trivial⟩
  | cons a as ih =>
    cases hr : Entry.refusal? ⟨a, (app.act a).1⟩ with
    | some e =>
      have hk : app.kept (a :: as) = (app.act a).2.kept as := by simp [kept, transcript, hr]
      rw [hk]
      obtain ⟨ht, hq, hp⟩ := ih (h.trans (quieted_of_refusal hr).symm)
      exact ⟨ht, hq, fun hall => hp hall.2⟩
    | none =>
      have hk : app.kept (a :: as) = ⟨a, (app.act a).1⟩ :: (app.act a).2.kept as := by simp [kept, transcript, hr]
      obtain ⟨h1, h2⟩ : (app'.act a).1 = (app.act a).1 ∧ (app'.act a).2.quieted = (app.act a).2.quieted :=
        Prod.ext_iff.1 ((act_blind a).congr h)
      obtain ⟨ht, hq, hp⟩ := ih h2
      rw [hk]
      refine ⟨?_, hq, fun hall => ⟨?_, hp hall.2⟩⟩
      · rw [List.map_cons, transcript, h1, ht]
      · rw [← permits_quieted, h, permits_quieted]
        exact hall.1

/-- Refused calls on tracers are of no consequence in an application and what comes of it. -/
structure RefusalsHarmless (app : Application) : Prop where
  /-- What a call writes before it fails is no more than what it takes back. -/
  inPlace : ∀ r < app.sessions.size, ∀ t c, (app.get r).performInPlace t c = (app.get r).perform t c
  /-- A call that gives back an error has counted and logged it, and everything else is as before: the times
  in the nodes too, and the clock, which was not even read. -/
  unchanged : ∀ r t c e, c.isTracerCall = true → ((app.get r).perform t c).1.error? = some e →
    ∃ n ∈ c.target?, (app.act (.command r t c)).2 = app.set r { app.get r with
      metrics := { (app.get r).metrics with usageErrors := (app.get r).metrics.usageErrors + 1 }
      events := (app.get r).events ++ [.usageError ((app.get r).forest.label n) e] }
  /-- A tracer is owned by the thread that created it. -/
  owner : ∀ r t c, (app.get r).Admits c → ∀ n < ((app.get r).perform t c).2.forest.size,
    (((app.get r).perform t c).2.forest.get n).owner =
      if n < (app.get r).forest.size then ((app.get r).forest.get n).owner else t
  /-- On any other thread a call gives back an error, whatever else may be wrong. -/
  foreign : ∀ r t c n, c.isTracerCall = true → n ∈ c.target? → ((app.get r).forest.get n).owner ≠ t →
    ((app.get r).perform t c).1.error? =
      some (.threadAffinity ((app.get r).forest.label n) ((app.get r).forest.get n).owner t)
  /-- The rest of a run is a run with the same answers, and it comes to the same but for the account. -/
  deletable : ∀ as, app.PermitsAll as → app.PermitsAll ((app.kept as).map Entry.action) ∧
    app.transcript ((app.kept as).map Entry.action) = app.kept as ∧
    (app.acted ((app.kept as).map Entry.action)).quieted = (app.acted as).quieted

theorem Reachable.isTidy {app : Application} (h : app.Reachable) {r : SessionRef} (hr : r < app.sessions.size) :
    (app.get r).paths.IsTidy := by
  obtain ⟨s₀, log, h0, hrun⟩ := h.run r hr
  exact hrun.isTidy h0

theorem Reachable.refusalsHarmless {app : Application} (h : app.Reachable) : app.RefusalsHarmless where
  inPlace r hr t c := Session.performInPlace_eq (h.isTidy hr) t c
  unchanged _ _ _ _ hc he := act_refused hc he
  owner r t c hc n hn := Step.owner (x := ⟨app.get r, t, c⟩) hc hn
  foreign _ _ _ _ hc hn ho := Session.perform_foreign hc hn ho
  deletable as has := by
    obtain ⟨ht, hq, hp⟩ := transcript_kept as (Eq.refl app.quieted)
    exact ⟨hp has, ht, hq⟩

/-- Two tracers that are misused on two threads before, while and after they run. -/
def clumsyActions : List Action :=
  let outgoing := Details.outgoingRemoteCall ⟨"method", "service", "endpoint", none, none⟩
  let incoming := Details.incomingRemoteCall ⟨"method", "service", "endpoint", none, none⟩
  let commands : List (String × Command) := [("a", .create (.ofNat 1) outgoing), ("a", .start 0),
    ("a", .create (.ofNat 2) incoming), ("b", .start 1), ("a", .start 1), ("a", .update 1 (.statusCode 200)),
    ("a", .setIncomingTag 1 (.bytes [])), ("a", .start 0), ("a", .endTracer 1), ("a", .markFailed 0 " " "message"),
    ("b", .outgoingTag 0 .string), ("a", .outgoingTag 0 .string), ("a", .endTracer 0), ("a", .endTracer 1),
    ("a", .start 1)]
  .acquireConfigured {} :: commands.map fun (t, c) => .command 1 ⟨t⟩ c

theorem refusalsHarmless_clumsyActions :
    let app : Application := {}
    (app.acted clumsyActions).RefusalsHarmless ∧
      ((app.transcript clumsyActions).filterMap Entry.refusal?).map UsageError.name =
        ["NoActivePath", "ThreadAffinity", "UnsupportedField", "InvalidState", "UnendedChildren", "InvalidArgument",
          "ThreadAffinity", "InvalidState"] ∧
      (app.kept clumsyActions).length = 8 ∧ ((app.acted clumsyActions).get 1).metrics.usageErrors = 8 ∧
      ((app.acted clumsyActions).get 1).clock = 6 :=
  ⟨Reachable.refusalsHarmless (Reachable.init.acted clumsyActions (by decide +kernel)), by decide +kernel,
    by decide +kernel, by decide +kernel, by decide +kernel⟩

end Application

end CallPath
