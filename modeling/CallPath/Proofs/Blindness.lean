import CallPath.Proofs.Commands
/-!
# Operations that do not look at everything

An operation is `Blind` to what is left out of a state if nothing it does depends on that: neither
its result nor what it leaves. What is made of blind operations is blind.

What a session tells others is only written: no operation looks at its agent, its counters or its
events. So whatever a `Veil` hides of these, what a program can ask of a session is blind to
(`Veil.perform`). Only the agent itself answers for itself.
-/

namespace CallPath

/-- The operation takes no notice of what `q` leaves out of a state. -/
def Blind {σ α : Type} (q : σ → σ) (f : σ → α × σ) : Prop :=
  ∀ s, (f (q s)).map id q = (f s).map id q

namespace Blind

variable {σ α β : Type} {q : σ → σ} {f : σ → α × σ}

theorem congr (hf : Blind q f) {s s' : σ} (h : q s = q s') : (f s).map id q = (f s').map id q := by
  rw [← hf s, h, hf s']

theorem pure (hq : ∀ s, q (q s) = q s) (a : α) : Blind q fun s => (a, s) := fun s =>
  Prod.ext rfl (hq s)

theorem of_commute (hq : ∀ s, q (q s) = q s) (h : ∀ s, f (q s) = (f s).map id q) : Blind q f := by
  intro s
  rw [h]
  exact Prod.ext rfl (hq _)

theorem bind {g : α → σ → β × σ} (hf : Blind q f) (hg : ∀ a, Blind q (g a)) :
    Blind q fun s => g (f s).1 (f s).2 := by
  intro s
  obtain ⟨h1, h2⟩ := Prod.ext_iff.1 (hf s)
  have h1' : (f (q s)).1 = (f s).1 := h1
  dsimp only
  rw [h1']
  exact (hg _).congr h2

theorem map (hf : Blind q f) (k : α → β) : Blind q fun s => (f s).map k id := by
  intro s
  obtain ⟨h1, h2⟩ := Prod.ext_iff.1 (hf s)
  exact Prod.ext (congrArg k h1) h2

/-- What is done next depends on how the first operation came out. -/
theorem of_result {ε γ : Type} {f : σ → Except ε γ × σ} {g : γ → σ → β × σ} {k : ε → σ → β × σ} {h : σ → β × σ}
    (hf : Blind q f) (hok : ∀ s c s', f s = (.ok c, s') → h s = g c s')
    (herror : ∀ s e s', f s = (.error e, s') → h s = k e s') (hg : ∀ c, Blind q (g c)) (hk : ∀ e, Blind q (k e)) :
    Blind q h := by
  intro s
  obtain ⟨h1, h2⟩ := Prod.ext_iff.1 (hf s)
  rcases hq : f (q s) with ⟨r, u⟩
  rcases hs : f s with ⟨r', v⟩
  rw [hq, hs] at h1 h2
  obtain rfl : r = r' := h1
  cases r with
  | ok c =>
    rw [hok _ c u hq, hok _ c v hs]
    exact (hg c).congr h2
  | error e =>
    rw [herror _ e u hq, herror _ e v hs]
    exact (hk e).congr h2

end Blind

/-! ## What a session tells others -/

/-- A part of what a session tells others, as what is left of it without that part. What is told
later does not bring it back. -/
structure Veil where
  agent : Agent → Agent
  metrics : Metrics → Metrics
  events : List Event → List Event
  agent_idem : ∀ a, agent (agent a) = agent a
  metrics_idem : ∀ m, metrics (metrics m) = metrics m
  events_idem : ∀ es, events (events es) = events es
  called : ∀ g a, agent ((agent a).mapRecorder g) = agent (a.mapRecorder g)
  reported : ∀ (g : CallbackSlot → CallbackSlot) a,
    agent { agent a with callback := g (agent a).callback } = agent { a with callback := g a.callback }
  logged : ∀ es e, events (events es ++ [e]) = events (es ++ [e])
  created : ∀ k m, metrics ((metrics m).recordCreated k) = metrics (m.recordCreated k)
  started : ∀ m, metrics (metrics m).recordStarted = metrics m.recordStarted
  ended : ∀ m, metrics (metrics m).recordEnded = metrics m.recordEnded
  failed : ∀ m, metrics (metrics m).recordFailed = metrics m.recordFailed
  leaked : ∀ m, metrics (metrics m).recordLeaked = metrics m.recordLeaked
  refused : ∀ m, metrics (metrics m).recordUsageError = metrics m.recordUsageError
  completed : ∀ m, metrics (metrics m).recordPathCompleted = metrics m.recordPathCompleted
  resolved : ∀ l u m, metrics ((metrics m).recordResolution l u) = metrics (m.recordResolution l u)

attribute [simp] Veil.agent_idem Veil.metrics_idem Veil.events_idem Veil.called Veil.reported Veil.logged
  Veil.created Veil.started Veil.ended Veil.failed Veil.leaked Veil.refused Veil.completed Veil.resolved

/-- Whether the command is for the agent of the session and not for the session. -/
def Command.isForAgent : Command → Bool
  | activateAgent _ | shutdownAgent | setAgentState _ => true
  | _ => false

namespace Veil

/-- The session as it is seen through the veil. -/
def hide (v : Veil) (s : Session) : Session :=
  { s with agent := v.agent s.agent, metrics := v.metrics s.metrics, events := v.events s.events }

variable (v : Veil) {α : Type} (t : Thread) (n : NodeRef)

@[simp] theorem agent_report (a : Agent) (message : String) :
    v.agent ((v.agent a).report message) = v.agent (a.report message) :=
  v.reported (·.emit message) a

@[simp] theorem hide_hide (s : Session) : v.hide (v.hide s) = v.hide s := by
  simp [hide]

@[simp] theorem forest_hide (s : Session) : (v.hide s).forest = s.forest := rfl
@[simp] theorem paths_hide (s : Session) : (v.hide s).paths = s.paths := rfl
@[simp] theorem settings_hide (s : Session) : (v.hide s).settings = s.settings := rfl

/-! ### Operations on a tracer -/

/-- The results look the same through the veil. -/
def Agree (r r' : Except UsageError (α × Session)) : Prop :=
  r.map (Prod.map id v.hide) = r'.map (Prod.map id v.hide)

variable {v}

/-- The same check before two results. -/
theorem Agree.bind {γ : Type} {x : Except UsageError γ} {k k' : γ → Except UsageError (α × Session)}
    (h : ∀ c, v.Agree (k c) (k' c)) : v.Agree (x >>= k) (x >>= k') := by
  cases x with
  | error e => rfl
  | ok c => exact h c

theorem Agree.return {a : α} {s s' : Session} (h : v.hide s = v.hide s') : v.Agree (.ok (a, s)) (.ok (a, s')) := by
  simp [Agree, Except.map, h]

theorem Agree.ite {c : Prop} [Decidable c] {x x' y y' : Except UsageError (α × Session)} (h : v.Agree x x')
    (h' : v.Agree y y') : v.Agree (if c then x else y) (if c then x' else y') := by
  split
  · exact h
  · exact h'

theorem Agree.checked {s : Session} {r r' : Except UsageError (α × Session)} (h : v.Agree r r') :
    ((v.hide s).checked n r).map id v.hide = (s.checked n r').map id v.hide := by
  unfold Agree at h
  cases r with
  | error e =>
    cases r' with
    | error e' =>
      cases h
      exact Prod.ext rfl (by simp [Session.checked, hide, Session.log])
    | ok p => cases h
  | ok p =>
    cases r' with
    | error e => cases h
    | ok p' =>
      obtain ⟨h1, h2⟩ := Prod.ext_iff.1 (Except.ok.inj h)
      exact Prod.ext (congrArg Except.ok h1) h2

variable (v)

theorem pure (a : α) : Blind v.hide fun s => (a, s) :=
  .pure v.hide_hide a

theorem start : Blind v.hide fun s => s.start t n := by
  unfold Session.start
  refine fun s => Agree.checked n (.bind fun _ => .bind fun p => .return ?_)
  simp [hide, Agent.start]

theorem update (u : Update) : Blind v.hide fun s => s.update t n u := by
  unfold Session.update
  refine fun s => Agree.checked n (.bind fun _ => .bind fun _ => .bind fun _ => .bind fun d => .return ?_)
  simp [hide, Agent.update]

theorem markFailed (className message : String) : Blind v.hide fun s => s.markFailed t n className message := by
  unfold Session.markFailed
  refine fun s => Agree.checked n (.bind fun _ => .bind fun _ => .bind fun _ => .ite rfl (.return ?_))
  simp [hide, Agent.error]

theorem setIncomingTag (tag : IncomingTag) : Blind v.hide fun s => s.setIncomingTag t n tag := by
  unfold Session.setIncomingTag
  refine fun s => Agree.checked n (.bind fun _ => .bind fun _ => .bind fun _ => .return ?_)
  split <;> simp [hide, Session.log, Agent.setIncomingTag]

/-- What is read of the tag must not tell of the agent. -/
theorem outgoingTag {g : List UInt8 → α} (form : TagForm)
    (hg : ∀ (a : Agent) (id : TracerId), g ((v.agent a).getOutgoingTag id form).1 = g (a.getOutgoingTag id form).1) :
    Blind v.hide fun s => (s.outgoingTag t n form).map (Except.map g) id := by
  have hagent : ∀ (a : Agent) (id : TracerId),
      (a.getOutgoingTag id form).2 = a.mapRecorder fun r => (r.getOutgoingTag id form).2 := by
    rintro ⟨_ | r, _⟩ id <;> rfl
  have hmap : ∀ (s : Session) (r : Except UsageError (List UInt8 × Session)),
      (s.checked n r).map (Except.map g) id = s.checked n (Prod.map g id <$> r) := by
    intro s r
    cases r <;> rfl
  unfold Session.outgoingTag
  intro s
  dsimp only
  rw [hmap, hmap]
  simp only [map_bind, map_pure]
  refine Agree.checked n (.bind fun _ => .bind fun _ => .bind fun _ => ?_)
  dsimp only [Prod.map, hide]
  rw [hg]
  exact .return (by simp [hide, hagent])

theorem hide_completePath (s : Session) (root : NodeRef) :
    v.hide ((v.hide s).completePath root) = v.hide (s.completePath root) := by
  cases hl : s.settings.logCompletedPaths <;> cases hr : s.settings.retainCompletedPaths <;>
    simp [Session.completePath, hl, hr, hide, Session.log]

theorem endTracer : Blind v.hide fun s => s.endTracer t n := by
  unfold Session.endTracer
  intro s
  refine Agree.checked n (.bind fun _ => ?_)
  dsimp only [forest_hide, paths_hide]
  have hfinish : ∀ (s : Session), v.hide ((v.hide s).finish n) = v.hide (s.finish n) := by
    intro s
    simp [hide, Session.finish, Agent.endTracer]
  cases (s.forest.get n).state with
  | ended => exact .return (v.hide_hide s)
  | created => exact .return (hfinish s)
  | started =>
    refine .ite rfl (.bind fun p => .return ?_)
    obtain ⟨root?, path⟩ := p
    have hpop : v.hide { (v.hide s).finish n with paths := s.paths.set t path } =
        v.hide { s.finish n with paths := s.paths.set t path } := by
      simp [hide, Session.finish, Agent.endTracer]
    cases root? with
    | none => exact hpop
    | some root =>
      have h := v.hide_completePath { (v.hide s).finish n with paths := s.paths.set t path } root
      rw [hpop] at h
      exact h.symm.trans (v.hide_completePath _ root)

theorem create (newId : TracerId) (d : Details) : Blind v.hide fun s => s.create t newId d := fun s =>
  Prod.ext rfl (by simp [Session.create, hide, Agent.create])

theorem hide_log (s : Session) (e : Event) : v.hide ((v.hide s).log e) = v.hide (s.log e) := by
  simp [hide, Session.log]

theorem hide_warn (s : Session) (message : String) : v.hide ((v.hide s).warn message) = v.hide (s.warn message) := by
  simp [hide, Session.warn, Session.log]

/-- The message of a warning may name nodes. -/
theorem warn {message : Session → String} (hm : ∀ s, message (v.hide s) = message s) (a : α) :
    Blind v.hide fun s => (a, s.warn (message s)) := by
  intro s
  refine Prod.ext rfl ?_
  dsimp only [Prod.map]
  rw [hm]
  exact v.hide_warn s _

theorem addAttribute (key : String) (value : AttributeValue) :
    Blind v.hide fun s => s.addAttribute t key value := by
  unfold Session.addAttribute
  cases requireNonBlank "key" key with
  | error e => exact v.pure (Except.error e)
  | ok _ =>
    intro s
    dsimp only
    have ha : (v.hide s).active? t = s.active? t := rfl
    rw [ha]
    cases s.active? t with
    | none => exact Prod.ext rfl (v.hide_warn s _)
    | some n => exact Prod.ext rfl (by simp [Session.modifyNode, hide])

theorem drop : Blind v.hide fun s => ((), s.drop t n) := by
  intro s
  refine Prod.ext rfl ?_
  have hreleased : v.hide ((v.hide s).modifyNode n fun m => { m with held := false }) =
      v.hide (s.modifyNode n fun m => { m with held := false }) := by
    simp [Session.modifyNode, hide]
  have hwarn : ∀ {u w : Session} (message : String), v.hide u = v.hide w →
      v.hide (u.warn message) = v.hide (w.warn message) := by
    intro u w message h
    rw [← hide_warn, h, hide_warn]
  dsimp only [Prod.map]
  unfold Session.drop
  dsimp only [forest_hide]
  cases (s.forest.get n).state with
  | ended => exact hreleased
  | created =>
    cases (s.forest.get n).requireThread t with
    | error e => exact hwarn _ hreleased
    | ok _ => simp [Session.modifyNode, hide, Agent.endTracer]
  | started =>
    cases (s.forest.get n).requireThread t with
    | error e => exact hwarn _ hreleased
    | ok _ =>
      have hleaked : v.hide { (v.hide s).modifyNode n fun m => { m with held := false } with
            metrics := (v.hide s).metrics.recordLeaked } =
          v.hide { s.modifyNode n fun m => { m with held := false } with metrics := s.metrics.recordLeaked } := by
        simp [Session.modifyNode, hide]
      cases hl : s.settings.leakWarnings with
      | true => simpa [Session.modifyNode, hl] using hwarn _ hleaked
      | false => simpa [Session.modifyNode, hl] using hleaked

/-- One operation after the other, up to the first that is refused. -/
theorem sequence {γ : Type} {f : Session → Except UsageError Unit × Session}
    {g k : Session → Except UsageError γ × Session} (hf : Blind v.hide f) (hg : Blind v.hide g)
    (hok : ∀ s s', f s = (.ok (), s') → k s = g s')
    (herror : ∀ s e s', f s = (.error e, s') → k s = (.error e, s')) : Blind v.hide k :=
  hf.of_result (g := fun _ => g) (k := fun e (s : Session) => (.error e, s)) (fun s _ s' => hok s s') herror
    (fun _ => hg) fun e => v.pure (Except.error e)

/-! ### Fields, tags and attributes -/

theorem updateAll (us : List Update) : Blind v.hide fun s => s.updateAll t n us := by
  induction us with
  | nil => exact v.pure (Except.ok ())
  | cons u us ih =>
    refine v.sequence (v.update t n u) ih ?_ ?_
    · intro s s' hu
      rw [Session.updateAll, hu]
    · intro s e s' hu
      rw [Session.updateAll, hu]

theorem applyIncomingTags (tags : IncomingTags) : Blind v.hide fun s => s.applyIncomingTags t n tags := by
  obtain ⟨string, bytes⟩ := tags
  cases string <;> cases bytes
  · exact v.pure (Except.ok ())
  · exact v.setIncomingTag t n _
  · exact v.setIncomingTag t n _
  · exact v.warn (fun _ => rfl) (Except.ok ())

theorem addEach (pairs : List (String × AttributeValue)) : Blind v.hide fun s => s.addEach t pairs := by
  induction pairs with
  | nil => exact v.pure (Except.ok ())
  | cons a pairs ih =>
    refine v.sequence (v.addAttribute t a.1 a.2) ih ?_ ?_
    · intro s s' ha
      rw [Session.addEach, ha]
    · intro s e s' ha
      rw [Session.addEach, ha]

/-! ### New tracers -/

theorem setUp (kind : Kind) (o : TraceOptions) : Blind v.hide fun s => s.setUp t n kind o := by
  refine v.sequence (v.updateAll t n (o.updates kind))
    (g := fun s => if kind.acceptsTag then s.applyIncomingTags t n o.tags else (.ok (), s)) ?_ ?_ ?_
  · cases kind.acceptsTag with
    | true => exact v.applyIncomingTags t n o.tags
    | false => exact v.pure (Except.ok ())
  · intro s s' hu
    rw [Session.setUp, hu]
  · intro s e s' hu
    rw [Session.setUp, hu]

theorem createFor (newId : TracerId) (op : Operation) : Blind v.hide fun s => s.createFor t newId op := by
  unfold Session.createFor
  cases op.details with
  | error e => exact v.pure (Except.error e)
  | ok d => exact (v.create t newId d).map Except.ok

theorem trace (newId : TracerId) (op : Operation) (o : TraceOptions) :
    Blind v.hide fun s => s.trace t newId op o := by
  -- Whether the new tracer can be set up decides what comes of it.
  apply (v.createFor t newId op).of_result
  · intro s n s' hc
    rw [Session.trace, hc]
  · intro s e s' hc
    rw [Session.trace, hc]
  · intro n
    refine (v.setUp t n op.kind o).of_result (g := fun _ (s : Session) => (.ok n, s))
      (k := fun e (s : Session) => (.error e, ((s.endTracer t n).2).drop t n)) ?_
      ?_ (fun _ => v.pure (Except.ok n)) ?_
    · intro s _ s' hu
      simp only [hu]
    · intro s e s' hu
      simp only [hu]
    · intro e
      exact (v.endTracer t n).bind (g := fun _ (s : Session) => (Except.error e, s.drop t n)) fun _ =>
        (v.drop t n).map fun _ => Except.error e
  · exact fun e => v.pure (Except.error e)

/-! ### Scopes -/

theorem attach (failure : Failure) : Blind v.hide fun s => ((), s.attach t n failure) := by
  -- A tracer that has an error already keeps it.
  have hf : Blind v.hide fun s : Session => if (s.forest.get n).error.isSome then (Except.ok (), s)
      else s.markFailed t n failure.className failure.text := by
    intro s
    by_cases hn : (s.forest.get n).error.isSome
    · simp only [forest_hide, hn, if_true]
      exact v.pure (Except.ok ()) s
    · simp only [forest_hide, hn]
      exact v.markFailed t n failure.className failure.text s
  refine hf.of_result (g := fun _ (s : Session) => ((), s))
    (k := fun e (s : Session) => ((), s.warn s!"Failed to attach error to {s.forest.label n}: {e.message}"))
    ?_ ?_ (fun _ => v.pure ()) fun e => v.warn (fun s => rfl) ()
  · intro s _ s' hs
    by_cases hn : (s.forest.get n).error.isSome
    · rw [if_pos hn] at hs
      rw [Session.attach, if_pos hn, (Prod.mk.inj hs).2]
    · rw [if_neg hn] at hs
      rw [Session.attach, if_neg hn, hs]
  · intro s e s' hs
    by_cases hn : (s.forest.get n).error.isSome
    · rw [if_pos hn] at hs
      cases hs
    · rw [if_neg hn] at hs
      rw [Session.attach, if_neg hn, hs]

theorem endAfterFailure : Blind v.hide fun s => ((), s.endAfterFailure t n) := by
  refine (v.endTracer t n).of_result (g := fun _ (s : Session) => ((), s))
    (k := fun e (s : Session) => ((), s.warn s!"Failed to end {s.forest.label n} after error: {e.message}"))
    ?_ ?_ (fun _ => v.pure ()) fun e => v.warn (fun s => rfl) ()
  · intro s _ s' hs
    rw [Session.endAfterFailure, hs]
  · intro s e s' hs
    rw [Session.endAfterFailure, hs]

theorem leave (outcome : Outcome α) : Blind v.hide fun s => s.leave t n outcome := by
  have hfail : ∀ (r : ScopeResult α) (failure : Failure),
      Blind v.hide fun s => (r, (s.attach t n failure).endAfterFailure t n) := fun r failure =>
    (v.attach t n failure).bind (g := fun _ (s : Session) => (r, s.endAfterFailure t n)) fun _ =>
      (v.endAfterFailure t n).map fun _ => r
  cases outcome with
  | returned value =>
    refine (v.endTracer t n).of_result (g := fun _ (s : Session) => (.value value, s))
      (k := fun e (s : Session) => (.refused e, s)) ?_ ?_ (fun _ => v.pure _) fun e => v.pure _
    · intro s _ s' hs
      rw [Session.leave, hs]
    · intro s e s' hs
      rw [Session.leave, hs]
  | failed failure => exact hfail _ failure
  | interrupted text => exact hfail _ (Session.interruption text)

/-! ### The archive, and all commands -/

theorem warnAll (ns : List NodeRef) (a : α) :
    Blind v.hide fun s => (a, ns.foldl Session.warnUnresolved s) := by
  induction ns with
  | nil => exact v.pure a
  | cons n ns ih =>
    refine Blind.bind (f := fun s : Session => ((), s.warnUnresolved n))
      (g := fun _ (s : Session) => (a, ns.foldl Session.warnUnresolved s)) (fun s => Prod.ext rfl ?_) fun _ => ih
    dsimp only [Prod.map, Session.warnUnresolved, forest_hide]
    rw [← hide_warn, hide_log, hide_warn]

theorem resolve (warnOfUnresolved : Bool) : Blind v.hide fun s => s.resolve warnOfUnresolved := by
  intro s
  have h : v.hide ((v.hide s).resolve false).2 = v.hide (s.resolve false).2 := by
    simp [Session.resolve, hide]
  cases warnOfUnresolved with
  | false => exact Prod.ext rfl h
  | true => exact (v.warnAll (s.resolve false).1.unresolved (s.resolve false).1).congr h

/-- A command that asks nothing of the agent is blind to whatever a veil hides. -/
theorem perform {c : Command} (hc : c.isForAgent = false) (htag : ∀ n form, c ≠ .outgoingTag n form) :
    Blind v.hide fun s => s.perform t c := by
  cases c with
  | create newId details => exact (v.create t newId details).map _
  | trace newId op options => exact (v.trace t newId op options).map _
  | start n => exact (v.start t n).map _
  | endTracer n => exact (v.endTracer t n).map _
  | update n u => exact (v.update t n u).map _
  | updateAll n us => exact (v.updateAll t n us).map _
  | markFailed n className message => exact (v.markFailed t n className message).map _
  | outgoingTag n form => exact absurd rfl (htag n form)
  | setIncomingTag n tag => exact (v.setIncomingTag t n tag).map _
  | applyIncomingTags n tags => exact (v.applyIncomingTags t n tags).map _
  | leave n outcome => exact (v.leave t n outcome).map _
  | drop n => exact (v.drop t n).map fun _ => Reply.silent
  | addAttribute key value => exact (v.addAttribute t key value).map _
  | addAttributes keys values count => exact (v.addEach t _).map _
  | createLink => exact fun s => Prod.ext rfl (v.hide_hide s)
  | drain => exact fun s => Prod.ext rfl (by simp [Session.perform, Session.drain, hide])
  | clearArchive => exact fun s => Prod.ext rfl (by simp [Session.perform, hide])
  | resolvePending => exact fun s => Prod.ext rfl (by simp [Session.perform, Session.resolvePending, hide])
  | resolve warnOfUnresolved => exact (v.resolve warnOfUnresolved).map _
  | setCallback installed => exact fun s => Prod.ext rfl (by
    simp [Session.perform, Session.setCallback, hide, v.reported fun c => if installed then c.install else c.clear])
  | warn message => exact v.warn (fun _ => rfl) Reply.silent
  | activateAgent | shutdownAgent | setAgentState => cases hc

end Veil

end CallPath
