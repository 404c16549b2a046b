import CallPath.Proofs.Blindness
/-!
# Tracers do not depend on their agent

Every operation tells the agent what happens, and the recorder follows each tracer by itself: it may
complain, and it may not even be initialized. Yet nothing but the bytes of the tags it hands out ever
comes back. A `Client` is any program over a session, on any threads, which decides what to do next
by what it was told, except by those bytes. It runs in the same way over the null agent and over a
recorder, whatever that recorder is like and whatever it was told before (`Client.independent`).
-/

namespace CallPath

/-- The reply without the bytes of a tag. -/
def Reply.untagged : Reply → Reply
  | tag result => tag (result.map fun _ => [])
  | reply => reply

/-! ## Any agent -/

namespace Session

/-- The session over another agent with the same callback. -/
def withBackend (s : Session) (b : AgentBackend) : Session :=
  { s with agent := { s.agent with backend := b } }

/-- Hides what stands behind the agent. -/
def agentVeil : Veil where
  agent a := { a with backend := .null }
  metrics := id
  events := id
  agent_idem _ := rfl
  metrics_idem _ := rfl
  events_idem _ := rfl
  called g a := by
    obtain ⟨_ | r, callback⟩ := a <;> rfl
  reported _ _ := rfl
  logged _ _ := rfl
  created _ _ := rfl
  started _ := rfl
  ended _ := rfl
  failed _ := rfl
  leaked _ := rfl
  refused _ := rfl
  completed _ := rfl
  resolved _ _ _ := rfl

theorem hide_withBackend (s : Session) (b : AgentBackend) : agentVeil.hide (s.withBackend b) = agentVeil.hide s := rfl

/-- No command but those for the agent depends on the agent, but for the bytes of tags. -/
theorem perform_untagged {t : Thread} {c : Command} (hc : c.isForAgent = false) :
    Blind agentVeil.hide fun s => (s.perform t c).map Reply.untagged id := by
  cases c with
  | outgoingTag n form => exact (agentVeil.outgoingTag t n form fun _ _ => rfl).map Reply.tag
  | activateAgent | shutdownAgent | setAgentState => cases hc
  | _ => exact (agentVeil.perform t rfl (by rintro _ _ ⟨⟩)).map _

end Session

/-! ## Programs -/

/-- A program over a session. -/
inductive Client where
  | finish (outcome : Outcome Unit)
  /-- It asks a session something, but nothing of its agent, and goes on by the reply. -/
  | ask (t : Thread) (c : Command) (forSession : c.isForAgent = false) (next : Reply → Client)
  /-- It runs a part of itself inside a tracer, and goes on by the result. -/
  | scope (t : Thread) (n : NodeRef) (body : Client) (next : ScopeResult Unit → Client)

/-- What came of a program. -/
structure Client.Ran where
  /-- What it was told, in this order. -/
  replies : List Reply
  outcome : Outcome Unit
  session : Session

namespace Client

/-- Runs a program. It does not get to see the bytes of tags. -/
def run : Client → Session → Ran
  | finish outcome, s => ⟨[], outcome, s⟩
  | ask t c _ next, s =>
    let (reply, s) := s.perform t c
    let rest := (next reply.untagged).run s
    { rest with replies := reply :: rest.replies }
  | scope t n body next, s =>
    match s.start t n with
    | (.error e, s) =>
      let rest := (next (.refused e)).run s
      { rest with replies := .left (.refused e) :: rest.replies }
    | (.ok (), s) =>
      let inside := body.run s
      let (result, s) := inside.session.leave t n inside.outcome
      let rest := (next result).run s
      { rest with replies := inside.replies ++ .left result :: rest.replies }

/-- A part of a program that is run inside a tracer is an operation in a scope. -/
theorem run_scope (t : Thread) (n : NodeRef) (body : Client) (next : ScopeResult Unit → Client) (s : Session) :
    let (result, s') := s.runScoped t n fun s => ((body.run s).outcome, (body.run s).session)
    ((scope t n body next).run s).outcome = ((next result).run s').outcome ∧
      ((scope t n body next).run s).session = ((next result).run s').session := by
  simp only [run, Session.runScoped]
  rcases s.start t n with ⟨_ | _, s'⟩ <;> exact ⟨rfl, rfl⟩

/-- What came of a program, without the bytes of tags and without the agent. -/
def Ran.veiled (x : Ran) : Ran :=
  ⟨x.replies.map Reply.untagged, x.outcome, Session.agentVeil.hide x.session⟩

/-- A program cannot tell sessions apart that differ in their agents. -/
theorem veiled_run (p : Client) {s s' : Session} (h : Session.agentVeil.hide s = Session.agentVeil.hide s') :
    (p.run s).veiled = (p.run s').veiled := by
  induction p generalizing s s' with
  | finish outcome => simp only [run, Ran.veiled, h]
  | ask t c hc next ih =>
    obtain ⟨hreply, hafter⟩ := Prod.ext_iff.1 ((Session.perform_untagged (t := t) hc).congr h)
    dsimp only [Prod.map, id] at hreply hafter
    have hrest := ih (s.perform t c).1.untagged hafter
    simp only [Ran.veiled, Ran.mk.injEq] at hrest
    simp only [run, Ran.veiled, List.map_cons, ← hreply, hrest]
  | scope t n body next ihbody ihnext =>
    obtain ⟨hstarted, hafter⟩ := Prod.ext_iff.1 ((Session.agentVeil.start t n).congr h)
    dsimp only [Prod.map, id] at hstarted hafter
    rcases hs : s.start t n with ⟨e | _, u⟩ <;> rcases hs' : s'.start t n with ⟨e' | _, u'⟩ <;>
      rw [hs, hs'] at hstarted hafter
    · obtain rfl : e = e' := Except.error.inj hstarted
      have hrest := ihnext (.refused e) hafter
      simp only [Ran.veiled, Ran.mk.injEq] at hrest
      simp only [run, hs, hs', Ran.veiled, List.map_cons, hrest]
    · cases hstarted
    · cases hstarted
    · have hinside := ihbody hafter
      simp only [Ran.veiled, Ran.mk.injEq] at hinside
      obtain ⟨hreplies, houtcome, hinside⟩ := hinside
      obtain ⟨hleft, hafter⟩ := Prod.ext_iff.1 ((Session.agentVeil.leave t n (body.run u).outcome).congr hinside)
      dsimp only [Prod.map, id] at hleft hafter
      rw [houtcome] at hleft hafter
      have hrest := ihnext ((body.run u').session.leave t n (body.run u').outcome).1 hafter
      simp only [Ran.veiled, Ran.mk.injEq] at hrest
      simp only [run, hs, hs', Ran.veiled, List.map_append, List.map_cons, hreplies, houtcome, hleft, hrest]

/-- Two runs of a program are told the same, but for the bytes of tags, and leave the same behind,
but for the agent. -/
structure SameRun (x y : Ran) : Prop where
  replies : x.replies.map Reply.untagged = y.replies.map Reply.untagged
  outcome : x.outcome = y.outcome
  name : x.session.name = y.session.name
  settings : x.session.settings = y.session.settings
  nodes : x.session.forest = y.session.forest
  paths : x.session.paths = y.session.paths
  archive : x.session.archive = y.session.archive
  metrics : x.session.metrics = y.session.metrics
  events : x.session.events = y.session.events
  callback : x.session.agent.callback = y.session.agent.callback

theorem sameRun_of_veiled {x y : Ran} (h : x.veiled = y.veiled) : SameRun x y := by
  simp only [Ran.veiled, Ran.mk.injEq] at h
  obtain ⟨hreplies, houtcome, hsession⟩ := h
  exact {
    replies := hreplies
    outcome := houtcome
    name := (congrArg Session.name hsession :)
    settings := (congrArg Session.settings hsession :)
    nodes := (congrArg Session.forest hsession :)
    paths := (congrArg Session.paths hsession :)
    archive := (congrArg Session.archive hsession :)
    metrics := (congrArg Session.metrics hsession :)
    events := (congrArg Session.events hsession :)
    callback := (congrArg (·.agent.callback) hsession :) }

/-- A program runs over any two agents in the same way. -/
theorem independent (p : Client) (s : Session) (a b : AgentBackend) :
    SameRun (p.run (s.withBackend a)) (p.run (s.withBackend b)) :=
  sameRun_of_veiled (p.veiled_run ((s.hide_withBackend a).trans (s.hide_withBackend b).symm))

end Client

end CallPath
