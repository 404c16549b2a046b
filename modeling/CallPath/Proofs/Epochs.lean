import CallPath.Proofs.Accounting
import CallPath.Proofs.Actions
/-!
# Epochs of the shared session

The users of the shared session are counted. An epoch lasts from the first user to the last one: all
of its users get the session that the first one opened, and the agent it was opened with is shut down
with it, if it was ever ready (`Desk.countsEpochs`).

A program gives an agent away by reference, maybe the same one in several epochs, and may go on using
it. So the `Desk` where users come and leave knows its agents by reference, and they answer and change
as they like. The shared session of an application is such a desk: each of its runs, whatever agents it
is given, is one of the desk's (`Application.fronted`).
-/

namespace CallPath

/-- Agents that are known by reference. What they answer, and what comes of it in the world they are
in, is their own affair. -/
structure Agents (α ω : Type) where
  activate : α → List String → ω → Except AgentError (List String) × ω
  shutdown : α → ω → Except AgentError Unit × ω

/-- The agents of an application under numbers. -/
def Agents.numbered : Agents Nat (Nat → Agent) where
  activate a options w := ((w a).activate options).map id fun agent b => if b = a then agent else w b
  shutdown a w := (w a).shutdown.map id fun agent b => if b = a then agent else w b

/-- A call that begins or ends the work of an agent. -/
inductive LifeCall (α : Type) where
  | activate (a : α) (options : List String)
  | shutdown (a : α)
  deriving DecidableEq, Repr

/-- What a session was opened with; one without an agent has the null agent. -/
structure Opening (α : Type) where
  agent : Option α
  settings : Settings
  deriving DecidableEq, Repr

/-- What the first user opens, depending on what the agent answered. -/
def Opening.ofOutcome {α : Type} (a : α) (settings : Settings) : Except AgentError (List String) → Opening α
  | .ok _ => ⟨some a, settings⟩
  | .error _ => ⟨none, settings⟩

/-- The place where the users of the shared session come and leave. -/
structure Desk (α ω : Type) where
  /-- The world of the agents. -/
  world : ω
  users : Nat := 0
  opened : Option SessionRef := none
  agentReady : Bool := false
  /-- The sessions there are, the first being that of the null agent. -/
  openings : List (Opening α) := [⟨none, .unretained⟩]
  /-- The calls that were made from here. -/
  calls : List (LifeCall α) := []

/-- What can be asked at a desk, and what may happen between two requests. -/
inductive Request (α ω : Type) where
  | acquire (a : α) (options : List String) (settings : Settings)
  | release
  | newSession (agent : Option α) (settings : Settings)
  | elsewhere (change : ω → ω)

variable {α ω : Type}

namespace Desk

/-- The desk before the first user, in any world. -/
def start (world : ω) : Desk α ω :=
  { world }

/-- The shared session in effect. -/
def shared (d : Desk α ω) : SessionRef :=
  d.opened.getD 0

/-- Opens the shared session. -/
def openShared (d : Desk α ω) (agent : Option α) (settings : Settings) (ready : Bool) : Desk α ω :=
  { d with openings := d.openings ++ [⟨agent, settings⟩], opened := some d.openings.length, agentReady := ready }

/-- Calls an agent to begin its work. -/
def activate (agents : Agents α ω) (d : Desk α ω) (a : α) (options : List String) :
    Except AgentError (List String) × Desk α ω :=
  let (outcome, world) := agents.activate a options d.world
  (outcome, { d with world, calls := d.calls ++ [.activate a options] })

/-- Calls an agent to end its work. -/
def shutdown (agents : Agents α ω) (d : Desk α ω) (a : α) : Except AgentError Unit × Desk α ω :=
  let (outcome, world) := agents.shutdown a d.world
  (outcome, { d with world, calls := d.calls ++ [.shutdown a] })

/-- Comes as a user. -/
def acquire (agents : Agents α ω) (d : Desk α ω) (a : α) (options : List String) (settings : Settings) :
    InitResult × Desk α ω :=
  let d := { d with users := d.users + 1 }
  if d.users > 1 then ({ status := .stillInitialized }, d)
  else
    let (outcome, d) := d.activate agents a options
    match outcome with
    | .ok [] => ({ status := .initialized }, d.openShared (some a) settings true)
    | .ok rejected =>
      let message := "Agent rejected options: " ++ ", ".intercalate rejected
      ({ status := .initializedWithWarning, detail := some message }, d.openShared (some a) settings true)
    | .error e => ({ status := .failed, detail := some e.message }, d.openShared none settings false)

/-- The desk without users. -/
def closed (d : Desk α ω) : Desk α ω :=
  { d with users := 0, opened := none, agentReady := false }

/-- Leaves as a user. The null agent has nothing to shut down. -/
def release (agents : Agents α ω) (d : Desk α ω) : Except AgentError Unit × Desk α ω :=
  match d.users with
  | 0 => (.error .notInitialized, d)
  | 1 =>
    match d.opened.bind (d.openings[·]?), d.agentReady with
    | some ⟨some a, _⟩, true => d.closed.shutdown agents a
    | _, _ => (.ok (), d.closed)
  | n + 2 => (.ok (), { d with users := n + 1 })

/-- Meets a request. -/
def serve (agents : Agents α ω) (d : Desk α ω) : Request α ω → Answer × Desk α ω
  | .acquire a options settings => (d.acquire agents a options settings).map .acquired id
  | .release => (d.release agents).map .released id
  | .newSession agent settings =>
    (.session d.openings.length, { d with openings := d.openings ++ [⟨agent, settings⟩] })
  | .elsewhere change => (.reply .silent, { d with world := change d.world })

/-- The desk after requests. -/
def served (agents : Agents α ω) (d : Desk α ω) (rs : List (Request α ω)) : Desk α ω :=
  rs.foldl (fun d r => (d.serve agents r).2) d

theorem served_snoc (agents : Agents α ω) (d : Desk α ω) (rs : List (Request α ω)) (r : Request α ω) :
    d.served agents (rs ++ [r]) = ((d.served agents rs).serve agents r).2 := by
  simp [served]

end Desk

/-! ## The counter -/

/-- The users after a request. To leave without having come counts for nothing. -/
def Request.count (n : Nat) : Request α ω → Nat
  | acquire .. => n + 1
  | release => n - 1
  | newSession .. | elsewhere _ => n

/-- The users after requests. -/
def Request.users (rs : List (Request α ω)) : Nat :=
  rs.foldl count 0

theorem Request.users_snoc (rs : List (Request α ω)) (r : Request α ω) :
    users (rs ++ [r]) = r.count (users rs) := by
  simp [users]

/-- The request that opened the epoch in which the requests end: before it there was no user, and
from then on there has always been one. -/
structure Opener (rs : List (Request α ω)) where
  earlier : List (Request α ω)
  agent : α
  options : List String
  settings : Settings
  later : List (Request α ω)
  split : rs = earlier ++ .acquire agent options settings :: later
  vacant : Request.users earlier = 0
  occupied : ∀ l, l <+: later → 0 < Request.users (earlier ++ .acquire agent options settings :: l)

namespace Opener

variable {rs : List (Request α ω)}

/-- A first user opens an epoch. -/
def now (a : α) (options : List String) (settings : Settings) (h : Request.users rs = 0) :
    Opener (rs ++ [.acquire a options settings]) where
  earlier := rs
  agent := a
  options := options
  settings := settings
  later := []
  split := rfl
  vacant := h
  occupied l hl := by
    obtain rfl := List.prefix_nil.1 hl
    rw [Request.users_snoc]
    exact Nat.succ_pos _

/-- The epoch goes on as long as there are users. -/
def goOn (o : Opener rs) (r : Request α ω) (h : 0 < Request.users (rs ++ [r])) : Opener (rs ++ [r]) where
  earlier := o.earlier
  agent := o.agent
  options := o.options
  settings := o.settings
  later := o.later ++ [r]
  split := (congrArg (· ++ [r]) o.split).trans (by simp)
  vacant := o.vacant
  occupied l hl := by
    rcases List.prefix_concat_iff.1 hl with rfl | hl
    · rwa [o.split, List.append_assoc, List.cons_append] at h
    · exact o.occupied l hl

/-- The desk that the first user came to. -/
def first (agents : Agents α ω) (world : ω) (o : Opener rs) : Desk α ω :=
  (Desk.start world).served agents o.earlier

/-- What the agent answered to the first user. -/
def outcome (agents : Agents α ω) (world : ω) (o : Opener rs) : Except AgentError (List String) :=
  (agents.activate o.agent o.options (o.first agents world).world).1

end Opener

/-- Calls of which each ends what the one before has begun; the agent, if any, is still at work. -/
inductive Paired : List (LifeCall α) → Option α → Prop
  | nil : Paired [] none
  | refused {cs : List (LifeCall α)} (a : α) (options : List String) :
      Paired cs none → Paired (cs ++ [.activate a options]) none
  | begun {cs : List (LifeCall α)} (a : α) (options : List String) :
      Paired cs none → Paired (cs ++ [.activate a options]) (some a)
  | ended {cs : List (LifeCall α)} {a : α} : Paired cs (some a) → Paired (cs ++ [.shutdown a]) none

namespace Desk

variable {agents : Agents α ω} {d : Desk α ω}

/-- The agent that is at work for the users. -/
def inUse (d : Desk α ω) : Option α :=
  (d.opened.bind (d.openings[·]?)).bind Opening.agent

/-! ## One request -/

/-- Only the first user is a matter for an agent. -/
theorem acquire_again (h : 0 < d.users) (a : α) (options : List String) (settings : Settings) :
    d.acquire agents a options settings = ({ status := .stillInitialized }, { d with users := d.users + 1 }) := by
  unfold acquire
  exact if_pos (Nat.succ_lt_succ h)

/-- The first user opens the session, over the agent or in its place over the null agent. -/
theorem acquire_first (h : d.users = 0) (a : α) (options : List String) (settings : Settings) :
    d.acquire agents a options settings =
      (.ofOutcome (agents.activate a options d.world).1,
        { world := (agents.activate a options d.world).2
          users := 1
          opened := some d.openings.length
          agentReady := (Opening.ofOutcome a settings (agents.activate a options d.world).1).agent.isSome
          openings := d.openings ++ [.ofOutcome a settings (agents.activate a options d.world).1]
          calls := d.calls ++ [.activate a options] }) := by
  have hu : ¬ d.users + 1 > 1 := by simp [h]
  unfold acquire activate
  dsimp only
  rw [if_neg hu]
  rcases (agents.activate a options d.world).1 with e | _ | ⟨option, rest⟩ <;>
    simp [h, openShared, InitResult.ofOutcome, Opening.ofOutcome]

/-- A desk whose count, session and agent are in step. -/
structure Sound (d : Desk α ω) : Prop where
  null : d.openings[0]? = some ⟨none, .unretained⟩
  vacant : d.users = 0 → d.opened = none
  occupied : 0 < d.users → ∃ r o, d.opened = some r ∧ d.openings[r]? = some o ∧ d.agentReady = o.agent.isSome
  paired : Paired d.calls d.inUse

theorem Sound.inUse_of_vacant (h : d.Sound) (hu : d.users = 0) : d.inUse = none := by
  simp [inUse, h.vacant hu]

theorem Sound.opening (h : d.Sound) {r : SessionRef} (hr : d.opened = some r) :
    ∃ o, d.openings[r]? = some o ∧ d.agentReady = o.agent.isSome := by
  rcases Nat.eq_zero_or_pos d.users with hu | hu
  · rw [h.vacant hu] at hr
    cases hr
  · obtain ⟨r', o, hr', ho⟩ := h.occupied hu
    obtain rfl : r' = r := Option.some.inj (hr'.symm.trans hr)
    exact ⟨o, ho⟩

/-- The last user to leave has the agent shut down that is at work for them. -/
theorem Sound.release_last (h : d.Sound) (hu : d.users = 1) :
    d.release agents = d.inUse.elim (.ok (), d.closed) fun a => d.closed.shutdown agents a := by
  obtain ⟨r, o, hr, ho, hready⟩ := h.occupied (by simp [hu])
  obtain ⟨agent, settings⟩ := o
  unfold release inUse
  cases agent <;> simp [hu, hr, ho, hready]

/-- All but the last one just leave. -/
theorem release_between (hu : 1 < d.users) :
    d.release agents = (.ok (), { d with users := d.users - 1 }) := by
  obtain ⟨n, hn⟩ : ∃ n, d.users = n + 2 := ⟨d.users - 2, by omega⟩
  unfold release
  simp [hn]

theorem release_vacant (hu : d.users = 0) : d.release agents = (.error .notInitialized, d) := by
  unfold release
  simp [hu]

/-! ## Any requests -/

/-- What is not about the users leaves them alone. -/
theorem Sound.aside {d' : Desk α ω} (h : d.Sound) {more : List (Opening α)} (ho : d'.openings = d.openings ++ more)
    (hu : d'.users = d.users) (hr : d'.opened = d.opened) (ha : d'.agentReady = d.agentReady)
    (hc : d'.calls = d.calls) : d'.Sound := by
  have hat : ∀ (r : SessionRef) (o : Opening α), d.openings[r]? = some o → d'.openings[r]? = some o := by
    intro r o hro
    rw [ho, List.getElem?_append_left (List.getElem?_eq_some_iff.1 hro).1, hro]
  refine ⟨hat _ _ h.null, fun hv => hr.trans (h.vacant (hu ▸ hv)), fun hv => ?_, ?_⟩
  · obtain ⟨r, o, hro, hgo, hready⟩ := h.occupied (hu ▸ hv)
    exact ⟨r, o, hr.trans hro, hat r o hgo, ha.trans hready⟩
  · have hin : d'.inUse = d.inUse := by
      rcases Nat.eq_zero_or_pos d.users with hv | hv
      · simp [inUse, hr, h.vacant hv]
      · obtain ⟨r, o, hro, hgo, -⟩ := h.occupied hv
        simp [inUse, hr, hro, hgo, hat r o hgo]
    rw [hc, hin]
    exact h.paired

theorem Sound.serve (h : d.Sound) (r : Request α ω) : (d.serve agents r).2.Sound := by
  cases r with
  | acquire a options settings =>
    show (d.acquire agents a options settings).2.Sound
    rcases Nat.eq_zero_or_pos d.users with hu | hu
    · have hpaired := h.paired
      rw [h.inUse_of_vacant hu] at hpaired
      rw [acquire_first hu]
      refine ⟨?_, fun hv => absurd hv (by simp), fun _ => ⟨_, _, rfl, List.getElem?_concat_length .., rfl⟩, ?_⟩
      · exact (List.getElem?_append_left (List.getElem?_eq_some_iff.1 h.null).1).trans h.null
      · simp only [inUse, Option.bind_some, List.getElem?_concat_length]
        cases (agents.activate a options d.world).1 with
        | ok _ => exact hpaired.begun a options
        | error _ => exact hpaired.refused a options
    · rw [acquire_again hu]
      exact ⟨h.null, fun hv => absurd hv (Nat.succ_ne_zero _), fun _ => h.occupied hu, h.paired⟩
  | release =>
    show (d.release agents).2.Sound
    rcases Nat.lt_trichotomy d.users 1 with hu | hu | hu
    · rw [release_vacant (Nat.lt_one_iff.1 hu)]
      exact h
    · have hpaired := h.paired
      rw [h.release_last hu]
      cases hin : d.inUse with
      | none =>
        rw [hin] at hpaired
        exact ⟨h.null, fun _ => rfl, fun hv => absurd hv (Nat.lt_irrefl 0), hpaired⟩
      | some a =>
        rw [hin] at hpaired
        exact ⟨h.null, fun _ => rfl, fun hv => absurd hv (Nat.lt_irrefl 0), hpaired.ended⟩
    · rw [release_between hu]
      have hstill : 0 < d.users := Nat.zero_lt_of_lt hu
      exact ⟨h.null, fun hv => absurd hv (Nat.sub_ne_zero_of_lt hu), fun _ => h.occupied hstill, h.paired⟩
  | newSession agent settings => exact h.aside rfl rfl rfl rfl rfl
  | elsewhere change => exact h.aside (List.append_nil _).symm rfl rfl rfl rfl

theorem users_serve (h : d.Sound) (r : Request α ω) : (d.serve agents r).2.users = r.count d.users := by
  cases r with
  | acquire a options settings =>
    show (d.acquire agents a options settings).2.users = d.users + 1
    rcases Nat.eq_zero_or_pos d.users with hu | hu
    · rw [acquire_first hu, hu]
    · rw [acquire_again hu]
  | release =>
    show (d.release agents).2.users = d.users - 1
    rcases Nat.lt_trichotomy d.users 1 with hu | hu | hu
    · rw [release_vacant (Nat.lt_one_iff.1 hu), Nat.lt_one_iff.1 hu]
    · rw [h.release_last hu, hu]
      cases d.inUse <;> rfl
    · rw [release_between hu]
  | _ => rfl

/-- As long as there are users, their session stays; the list of sessions only grows. -/
theorem serve_stays (agents : Agents α ω) (h : 0 < d.users) {r : Request α ω} (h' : 0 < r.count d.users) :
    (d.serve agents r).2.opened = d.opened ∧ ∃ more, (d.serve agents r).2.openings = d.openings ++ more := by
  cases r with
  | acquire a options settings =>
    rw [serve, acquire_again h]
    exact ⟨rfl, [], (List.append_nil _).symm⟩
  | release =>
    rw [serve, release_between (Nat.lt_of_sub_pos h')]
    exact ⟨rfl, [], (List.append_nil _).symm⟩
  | newSession agent settings => exact ⟨rfl, _, rfl⟩
  | elsewhere change => exact ⟨rfl, [], (List.append_nil _).symm⟩

variable (agents) (world : ω) (rs : List (Request α ω))

theorem sound_served : ((start world).served agents rs).Sound := by
  induction rs using List.reverseRecOn with
  | nil => exact ⟨rfl, fun _ => rfl, fun hv => absurd hv (Nat.lt_irrefl 0), .nil⟩
  | append_singleton rs r ih =>
    rw [served_snoc]
    exact ih.serve r

theorem users_served : ((start world).served agents rs).users = Request.users rs := by
  induction rs using List.reverseRecOn with
  | nil => rfl
  | append_singleton rs r ih => rw [served_snoc, users_serve (sound_served agents world rs), ih, Request.users_snoc]

/-- The users of an epoch have what its first user opened. -/
theorem opened_served (h : 0 < Request.users rs) : ∃ o : Opener rs,
    ((start world).served agents rs).opened = some (o.first agents world).openings.length ∧
      ((start world).served agents rs).openings[(o.first agents world).openings.length]? =
        some (.ofOutcome o.agent o.settings (o.outcome agents world)) := by
  induction rs using List.reverseRecOn with
  | nil => exact absurd h (Nat.lt_irrefl 0)
  | append_singleton rs r ih =>
    have hu := users_served agents world rs
    rw [served_snoc]
    rcases Nat.eq_zero_or_pos (Request.users rs) with hz | hpos
    · cases r with
      | acquire a options settings =>
        refine ⟨.now a options settings hz, ?_⟩
        rw [serve, acquire_first (hu.trans hz)]
        exact ⟨rfl, List.getElem?_concat_length ..⟩
      | _ => simp [Request.users_snoc, Request.count, hz] at h
    · obtain ⟨o, ho, hat⟩ := ih hpos
      obtain ⟨hopened, more, hmore⟩ := serve_stays agents (hu ▸ hpos)
        (r := r) (by rwa [hu, ← Request.users_snoc])
      refine ⟨o.goOn r h, hopened.trans ho, ?_⟩
      rw [hmore]
      exact (List.getElem?_append_left (List.getElem?_eq_some_iff.1 hat).1).trans hat

/-- What the desk does for its users, by their number. -/
structure CountsEpochs (d : Desk α ω) (agents : Agents α ω) (world : ω) (rs : List (Request α ω)) : Prop where
  /-- Those who came and did not leave. -/
  users : d.users = Request.users rs
  /-- Whoever is not the first gets the session as it is; the agent that came along hears nothing. -/
  again : 0 < d.users → ∀ a options settings,
    d.acquire agents a options settings = ({ status := .stillInitialized }, { d with users := d.users + 1 })
  /-- The first one has an agent called once, and what it answers is what is opened and told. -/
  first : d.users = 0 → ∀ a options settings,
    let (outcome, after) := agents.activate a options d.world
    d.acquire agents a options settings = (.ofOutcome outcome,
      { world := after, users := 1, opened := some d.openings.length, agentReady := outcome.isOk
        openings := d.openings ++ [.ofOutcome a settings outcome], calls := d.calls ++ [.activate a options] })
  /-- Without users there is the session of the null agent. -/
  null : d.users = 0 → d.shared = 0 ∧ d.openings[0]? = some ⟨none, .unretained⟩
  /-- With users there is the one session that the first of them opened. -/
  shared : 0 < d.users → ∃ o : Opener rs, d.shared = (o.first agents world).openings.length ∧
    d.openings[d.shared]? = some (.ofOutcome o.agent o.settings (o.outcome agents world))
  /-- It is one and the same until the last of them has left. -/
  stays : 0 < d.users → ∀ r, 0 < (d.serve agents r).2.users → (d.serve agents r).2.shared = d.shared ∧
    (d.serve agents r).2.openings[d.shared]? = d.openings[d.shared]?
  /-- Without users there is nothing to leave. -/
  surplus : d.users = 0 → d.release agents = (.error .notInitialized, d)
  /-- As long as others stay, one just leaves. -/
  between : 1 < d.users → d.release agents = (.ok (), { d with users := d.users - 1 })
  /-- With the last one the epoch ends; the agent of the session, if it was ever ready, is told so once. -/
  last : d.users = 1 → ∀ o, d.openings[d.shared]? = some o →
    d.release agents = match o.agent with
      | none => (.ok (), d.closed)
      | some a => ((agents.shutdown a d.world).1,
        { d.closed with world := (agents.shutdown a d.world).2, calls := d.calls ++ [.shutdown a] })
  /-- So no agent is shut down twice, or never, or while it is in use. -/
  paired : Paired d.calls d.inUse

theorem countsEpochs (agents : Agents α ω) (world : ω) (rs : List (Request α ω)) :
    ((start world).served agents rs).CountsEpochs agents world rs := by
  have hs := sound_served agents world rs
  have hu := users_served agents world rs
  refine ⟨hu, ?_, ?_, ?_, ?_, ?_, release_vacant, release_between, ?_, hs.paired⟩
  · intro h a options settings
    exact acquire_again h a options settings
  · intro h a options settings
    have hready : ∀ outcome, (Opening.ofOutcome a settings outcome).agent.isSome = outcome.isOk := by
      rintro (e | rejected) <;> rfl
    rw [acquire_first h, hready]
  · intro h
    exact ⟨by rw [Desk.shared, hs.vacant h]; rfl, hs.null⟩
  · intro h
    obtain ⟨o, ho, hat⟩ := opened_served agents world rs (hu ▸ h)
    have hshared : ((start world).served agents rs).shared = (o.first agents world).openings.length := by
      rw [Desk.shared, ho]
      rfl
    exact ⟨o, hshared, by rw [hshared]; exact hat⟩
  · intro h r h'
    obtain ⟨hopened, more, hmore⟩ := serve_stays agents h (users_serve hs r ▸ h')
    obtain ⟨n, o, hn, ho, -⟩ := hs.occupied h
    rw [Desk.shared, Desk.shared, hopened, hmore, hn]
    exact ⟨rfl, List.getElem?_append_left (List.getElem?_eq_some_iff.1 ho).1⟩
  · intro h o ho
    obtain ⟨r, o', hr, ho', -⟩ := hs.occupied (by simp [h])
    have hin : ((start world).served agents rs).inUse = o.agent := by
      rw [Desk.shared, hr] at ho
      simp only [inUse, hr, Option.bind_some]
      exact congrArg (·.bind Opening.agent) ho
    rw [hs.release_last h, hin]
    cases o.agent <;> rfl

/-- The agent of an epoch that is over can be given again; the one that comes too late hears nothing. -/
example : let d : Desk Nat (Nat → Agent) := .start fun _ => .recording {}
    (d.served .numbered [.acquire 0 [] {}, .acquire 1 [] {}, .release, .release, .release, .acquire 0 [] {}]).calls =
      [.activate 0 [], .shutdown 0, .activate 0 []] := by
  decide

end Desk

/-! ## The shared session of an application -/

/-- What a user asked for and got. -/
inductive Service where
  | acquired (agent : Agent) (options : List String) (settings : Settings) (result : InitResult)
  | released (result : Except AgentError Unit)

/-- What an action did for a user. -/
def Entry.service? : Entry → Option Service
  | ⟨.acquire agent options settings, .acquired result⟩ => some (.acquired agent options settings result)
  | ⟨.acquireConfigured c, .acquired result⟩ =>
    some (.acquired (Config.agentFor c.agent) c.options c.settings result)
  | ⟨.release, .released result⟩ => some (.released result)
  | _ => none

namespace Desk

/-- What a request did for a user. -/
def service? (d : Desk Nat (Nat → Agent)) (r : Request Nat (Nat → Agent)) : Option Service :=
  match r, (d.serve .numbered r).1 with
  | .acquire a options settings, .acquired result => some (.acquired (d.world a) options settings result)
  | .release, .released result => some (.released result)
  | _, _ => none

/-- What requests did for the users. -/
def services (d : Desk Nat (Nat → Agent)) : List (Request Nat (Nat → Agent)) → List Service
  | [] => []
  | r :: rs => (d.service? r).toList ++ (d.serve .numbered r).2.services rs

theorem served_append (agents : Agents α ω) (d : Desk α ω) (rs rs' : List (Request α ω)) :
    d.served agents (rs ++ rs') = (d.served agents rs).served agents rs' :=
  List.foldl_append

theorem services_append (d : Desk Nat (Nat → Agent)) (rs rs' : List (Request Nat (Nat → Agent))) :
    d.services (rs ++ rs') = d.services rs ++ (d.served .numbered rs).services rs' := by
  induction rs generalizing d with
  | nil => rfl
  | cons r rs ih =>
    rw [List.cons_append, services, services, ih, List.append_assoc]
    rfl

end Desk

/-- A session is as it was opened, and its agent is what has become of the one it was opened with. -/
structure Opening.Describes (o : Opening Nat) (world : Nat → Agent) (s : Session) : Prop where
  settings : s.settings = o.settings
  agent : ∀ a, o.agent = some a → s.agent = world a
  null : o.agent = none → s.agent.isFound = false

namespace Application

/-- The shared session of the application is that of the desk. -/
structure Fronts (app : Application) (d : Desk Nat (Nat → Agent)) : Prop where
  users : app.users = d.users
  opened : app.opened = d.opened
  agentReady : app.agentReady = d.agentReady
  size : app.sessions.size = d.openings.length
  session : ∀ r o, d.opened = some r → d.openings[r]? = some o → o.Describes d.world (app.get r)

theorem openedOver_described (a : Nat) {agent : Agent} {world : Nat → Agent} (h : world a = agent)
    (settings : Settings) (outcome : Except AgentError (List String)) :
    (Opening.ofOutcome a settings outcome).Describes world (openedOver agent settings outcome) := by
  cases outcome with
  | ok rejected => exact ⟨rfl, by rintro b ⟨⟩; exact h.symm, nofun⟩
  | error e => exact ⟨rfl, nofun, fun _ => rfl⟩

namespace Fronts

variable {app : Application} {d : Desk Nat (Nat → Agent)}

/-- Some number is not that of the agent in use. -/
theorem exists_spare (d : Desk Nat (Nat → Agent)) : ∃ a, d.inUse ≠ some a :=
  ⟨d.inUse.elim 0 (· + 1), by cases d.inUse <;> simp⟩

theorem inUse_of {r : SessionRef} {o : Opening Nat} (hr : d.opened = some r) (ho : d.openings[r]? = some o) :
    d.inUse = o.agent := by
  simp [Desk.inUse, hr, ho]

/-- An agent can be put under a spare number. -/
theorem lend (h : app.Fronts d) {a : Nat} (ha : d.inUse ≠ some a) (agent : Agent) :
    app.Fronts { d with world := fun b => if b = a then agent else d.world b } := by
  refine ⟨h.users, h.opened, h.agentReady, h.size, fun r o hr ho => ?_⟩
  have hs := h.session r o hr ho
  refine ⟨hs.settings, fun b hb => ?_, hs.null⟩
  have hba : b ≠ a := by
    rintro rfl
    exact ha ((inUse_of hr ho).trans hb)
  dsimp only
  rw [if_neg hba]
  exact hs.agent b hb

/-- A session more is none that was opened for the users. -/
theorem push (h : app.Fronts d) (hd : d.Sound) (s : Session) (o : Opening Nat) (events : List Event) :
    Fronts { app with sessions := app.sessions.push s, events } { d with openings := d.openings ++ [o] } := by
  refine ⟨h.users, h.opened, h.agentReady, by simp [h.size], fun r o' hr ho' => ?_⟩
  obtain ⟨o'', ho'', -⟩ := hd.opening hr
  have hlt := (List.getElem?_eq_some_iff.1 ho'').1
  have hget : ({ app with sessions := app.sessions.push s, events } : Application).get r = app.get r := by
    have hne : r ≠ app.sessions.size := Nat.ne_of_lt (h.size ▸ hlt)
    exact (get_push app s r).trans (if_neg hne)
  rw [hget]
  rw [List.getElem?_append_left hlt] at ho'
  exact h.session r o' hr ho'

theorem newSession (h : app.Fronts d) (hd : d.Sound) (name : String) (agent : Agent) (settings : Settings) :
    ∃ rs, (app.newSession name agent settings).2.Fronts (d.served .numbered rs) ∧ d.services rs = [] := by
  obtain ⟨a, ha⟩ := exists_spare d
  exact ⟨[.elsewhere fun w b => if b = a then agent else w b, .newSession (some a) settings],
    (h.lend ha agent).push (hd.aside (List.append_nil _).symm rfl rfl rfl rfl) _ _ _, rfl⟩

/-- A user comes to the application with the agent that has the number at the desk. -/
theorem acquire_numbered (h : app.Fronts d) (a : Nat) (options : List String) (settings : Settings) :
    (app.acquire (d.world a) options settings).2.Fronts (d.acquire .numbered a options settings).2 ∧
      (app.acquire (d.world a) options settings).1 = (d.acquire .numbered a options settings).1 := by
  rcases Nat.eq_zero_or_pos app.users with hu | hu
  · obtain ⟨events, hacquire⟩ := acquire_first hu (d.world a) options settings
    rw [hacquire, Desk.acquire_first (h.users ▸ hu)]
    have hready : (Opening.ofOutcome a settings ((d.world a).activate options).1).agent.isSome =
        ((d.world a).activate options).1.isOk := by
      cases ((d.world a).activate options).1 <;> rfl
    have hsize := congrArg (· + 1) h.size
    refine ⟨⟨rfl, congrArg some h.size, hready.symm, by simpa using hsize, fun r o hr ho => ?_⟩, rfl⟩
    obtain rfl : d.openings.length = r := Option.some.inj hr
    obtain rfl := Option.some.inj ((List.getElem?_concat_length ..).symm.trans ho)
    rw [← h.size, get_openedSession]
    exact openedOver_described a (if_pos rfl) settings _
  · rw [acquire_again hu, Desk.acquire_again (h.users ▸ hu)]
    exact ⟨⟨congrArg (· + 1) h.users, h.opened, h.agentReady, h.size, h.session⟩, rfl⟩

theorem acquire (h : app.Fronts d) (agent : Agent) (options : List String) (settings : Settings) :
    ∃ rs, (app.acquire agent options settings).2.Fronts (d.served .numbered rs) ∧
      d.services rs = [.acquired agent options settings (app.acquire agent options settings).1] := by
  obtain ⟨a, ha⟩ := exists_spare d
  have hlent := h.lend ha agent
  obtain ⟨hfronts, hresult⟩ := hlent.acquire_numbered a options settings
  have hworld : (if a = a then agent else d.world a) = agent := if_pos rfl
  dsimp only at hfronts hresult
  rw [hworld] at hfronts hresult
  refine ⟨[.elsewhere fun w b => if b = a then agent else w b, .acquire a options settings], hfronts, ?_⟩
  rw [hresult]
  exact congrArg (fun x => [Service.acquired x options settings _]) hworld

theorem release (h : app.Fronts d) (hd : d.Sound) :
    app.release.2.Fronts (d.release .numbered).2 ∧ app.release.1 = (d.release .numbered).1 := by
  have hclosed : ∀ sessions events, sessions.size = app.sessions.size → ∀ calls world,
      Fronts { sessions, users := 0, opened := none, agentReady := false, events } { d.closed with world, calls } :=
    fun sessions events hs calls world => ⟨rfl, rfl, rfl, hs.trans h.size, fun r o hr _ => nomatch hr⟩
  have hu := h.users
  unfold Application.release
  cases hn : app.users with
  | zero =>
    rw [Desk.release_vacant (by rw [← hu, hn])]
    exact ⟨h, rfl⟩
  | succ n =>
    cases n with
    | zero =>
      rw [hn] at hu
      rw [hd.release_last hu.symm]
      obtain ⟨r, o, hr, ho, hready⟩ := hd.occupied (by simp [← hu])
      rw [h.opened, hr, h.agentReady, hready, inUse_of hr ho]
      cases hagent : o.agent with
      | none => exact ⟨hclosed _ _ rfl _ _, rfl⟩
      | some a =>
        have hs := (h.session r o hr ho).agent a hagent
        have hshut : (app.get r).shutdownAgent.1 = (d.closed.shutdown .numbered a).1 := by
          show (app.get r).agent.shutdown.1 = (d.world a).shutdown.1
          rw [hs]
        exact ⟨hclosed _ _ (size_set _ _ _) _ _, hshut⟩
    | succ n =>
      rw [Desk.release_between (by rw [← hu, hn]; simp)]
      exact ⟨⟨by simp [← hu, hn], h.opened, h.agentReady, h.size, h.session⟩, rfl⟩

theorem command (h : app.Fronts d) {r : SessionRef} {t : Thread} {c : Command} (hc : (app.get r).Admits c) :
    ∃ rs, (app.act (.command r t c)).2.Fronts (d.served .numbered rs) ∧ d.services rs = [] := by
  have hrun : Run (app.get r) ((app.get r).perform t c).2 _ := .step t c .nil hc
  have hget : ∀ r' o, d.openings[r']? = some o → (app.act (.command r t c)).2.get r' =
      if r = r' then ((app.get r).perform t c).2 else app.get r' := fun r' o ho =>
    get_onSession app r r' (·.perform t c) (h.size ▸ (List.getElem?_eq_some_iff.1 ho).1)
  have hsize : (app.act (.command r t c)).2.sessions.size = d.openings.length := (size_set _ _ _).trans h.size
  by_cases hr : d.opened = some r
  · refine ⟨[.elsewhere fun w b => if d.inUse = some b then ((app.get r).perform t c).2.agent else w b],
      ⟨h.users, h.opened, h.agentReady, hsize, fun r' o hr' ho => ?_⟩, rfl⟩
    obtain rfl : r = r' := Option.some.inj (hr.symm.trans hr')
    have hs := h.session r o hr ho
    rw [hget r o ho, if_pos rfl]
    refine ⟨hrun.settings_eq.trans hs.settings, fun a ha => ?_, fun hnull => hrun.isFound_eq.trans (hs.null hnull)⟩
    have hin : d.inUse = some a := (inUse_of hr ho).trans ha
    exact (if_pos hin).symm
  · refine ⟨[], ⟨h.users, h.opened, h.agentReady, hsize, fun r' o hr' ho => ?_⟩, rfl⟩
    have hne : r ≠ r' := by
      rintro rfl
      exact hr hr'
    rw [hget r' o ho, if_neg hne]
    exact h.session r' o hr' ho

/-- Whatever is done to an application, the desk can be asked for, with the same answers to its users. -/
theorem act (h : app.Fronts d) (hd : d.Sound) {a : Action} (ha : app.Allows a) :
    ∃ rs, (app.act a).2.Fronts (d.served .numbered rs) ∧
      d.services rs = (Entry.service? ⟨a, (app.act a).1⟩).toList := by
  cases a with
  | newSession name agent settings => exact h.newSession hd name agent settings
  | acquire agent options settings => exact h.acquire agent options settings
  | acquireConfigured c => exact h.acquire (Config.agentFor c.agent) c.options c.settings
  | release =>
    obtain ⟨hfronts, hresult⟩ := h.release hd
    exact ⟨[.release], hfronts, congrArg (fun x => [Service.released x]) hresult.symm⟩
  | command r t c => exact h.command ha.2

end Fronts

/-- The desk of an application that was not given an agent yet. -/
def noAgents : Desk Nat (Nat → Agent) :=
  .start fun _ => .null

/-- A run of an application is one of a desk that answers its users alike. -/
structure Fronted (as : List Action) (rs : List (Request Nat (Nat → Agent))) : Prop where
  fronts : Fronts (({} : Application).acted as) (noAgents.served .numbered rs)
  services : noAgents.services rs =
    (({} : Application).transcript as).filterMap Entry.service?

theorem Fronts.acted {app : Application} (as : List Action) (has : app.AllowsAll as)
    (rs : List (Request Nat (Nat → Agent))) (h : app.Fronts (noAgents.served .numbered rs)) :
    ∃ rs', (app.acted as).Fronts (noAgents.served .numbered (rs ++ rs')) ∧
      (noAgents.served .numbered rs).services rs' =
        (app.transcript as).filterMap Entry.service? := by
  induction as generalizing app rs with
  | nil => exact ⟨[], by rwa [List.append_nil], rfl⟩
  | cons a as ih =>
    obtain ⟨rs₁, h₁, hs₁⟩ := h.act (Desk.sound_served _ _ _) has.1
    rw [← Desk.served_append] at h₁
    obtain ⟨rs₂, h₂, hs₂⟩ := ih has.2 _ h₁
    refine ⟨rs₁ ++ rs₂, by rwa [← List.append_assoc], ?_⟩
    rw [Desk.services_append, ← Desk.served_append, hs₁, hs₂, transcript, List.filterMap_cons]
    cases Entry.service? ⟨a, (app.act a).1⟩ <;> rfl

theorem fronted (as : List Action) (has : ({} : Application).AllowsAll as) : ∃ rs, Fronted as rs := by
  have h : ({} : Application).Fronts noAgents := ⟨rfl, rfl, rfl, rfl, nofun⟩
  obtain ⟨rs, hfronts, hservices⟩ := Fronts.acted as has [] h
  exact ⟨rs, hfronts, hservices⟩

/-- The users of the shared session are counted, at every desk and so in every application. -/
theorem users_counted : (∀ (α ω : Type) (agents : Agents α ω) (world : ω) (rs : List (Request α ω)),
      ((Desk.start world).served agents rs).CountsEpochs agents world rs) ∧
    ∀ as : List Action, ({} : Application).AllowsAll as → ∃ rs, Fronted as rs ∧
      (noAgents.served .numbered rs).CountsEpochs .numbered (fun _ => .null) rs := by
  refine ⟨fun _ _ => Desk.countsEpochs, fun as has => ?_⟩
  obtain ⟨rs, h⟩ := fronted as has
  exact ⟨rs, h, Desk.countsEpochs .numbered _ rs⟩

/-- Two epochs: the agent of the first one rejects an option, and that of the second one fails. -/
def twoEpochs : List Action :=
  let picky := Agent.recording { rejectedOptions := ["level"] }
  let broken := Agent.recording { failure := some "no licence" }
  [.release, .acquire picky ["level=finest"] {}, .acquireConfigured {}, .release,
    .command 1 ⟨"a"⟩ (.trace (.ofNat 1) (.customService "method" "service") {}), .command 1 ⟨"a"⟩ (.start 0),
    .release, .release, .acquire broken [] {}, .acquire picky [] {}]

theorem users_counted_twoEpochs : let app := ({} : Application).acted twoEpochs
    (∃ rs, Fronted twoEpochs rs ∧
      (noAgents.served .numbered rs).CountsEpochs .numbered (fun _ => .null) rs) ∧
      app.users = 2 ∧ app.shared = 2 ∧ (app.get 1).agent.state = .notInitialized ∧ (app.get 2).agent = .null :=
  ⟨users_counted.2 twoEpochs (by decide +kernel), by decide +kernel⟩

end Application

end CallPath
