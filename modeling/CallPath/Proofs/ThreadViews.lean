import CallPath.Proofs.Portraits
import CallPath.Proofs.Receipts
/-!
# What a thread finds of a session

A thread works on the tracers that it has created, on its own path, and its completed paths go to the
archive. `Session.Alike` says of two sessions that a thread finds the same there. What is asked on the
thread is then answered alike, and the thread finds the same again afterwards: an `Echo`, operation by
operation.
-/

namespace CallPath

/-! ## Counters -/

/-- What a session counts. -/
inductive Counter where
  | created
  | started
  | ended
  | failed
  | leaked
  | usageErrors
  | pathsCompleted
  | tagsResolved
  | tagsUnresolved
  | createdOf (k : Kind)
  deriving DecidableEq

namespace Metrics

/-- How far a counter has come. -/
def read (m : Metrics) : Counter → Nat
  | .created => m.created
  | .started => m.started
  | .ended => m.ended
  | .failed => m.failed
  | .leaked => m.leaked
  | .usageErrors => m.usageErrors
  | .pathsCompleted => m.pathsCompleted
  | .tagsResolved => m.tagsResolved
  | .tagsUnresolved => m.tagsUnresolved
  | .createdOf k => m.createdCount k

/-- The counters have advanced alike, from where each of them stood. -/
def Abreast (m m' k k' : Metrics) : Prop :=
  ∀ c, k.read c + m'.read c = k'.read c + m.read c

namespace Abreast

variable {m m' k k' : Metrics}

theorem refl (m m' : Metrics) : Abreast m m' m m' := fun _ => Nat.add_comm ..

/-- Both sides count one more thing. -/
theorem count (h : Abreast m m' k k') {f : Metrics → Metrics} (d : Counter → Nat)
    (hf : ∀ k c, (f k).read c = k.read c + d c) : Abreast m m' (f k) (f k') := by
  intro c
  have hc := h c
  rw [hf, hf]
  omega

theorem created (h : Abreast m m' k k') (kind : Kind) : Abreast m m' (k.recordCreated kind) (k'.recordCreated kind) :=
  h.count (f := (·.recordCreated kind)) (fun c => if c = .created ∨ c = .createdOf kind then 1 else 0) fun k c => by
    cases c with
    | createdOf kind' => simp [read]
    | _ => rfl

theorem started (h : Abreast m m' k k') : Abreast m m' k.recordStarted k'.recordStarted :=
  h.count (fun c => if c = .started then 1 else 0) fun k c => by cases c <;> rfl

theorem ended (h : Abreast m m' k k') : Abreast m m' k.recordEnded k'.recordEnded :=
  h.count (fun c => if c = .ended then 1 else 0) fun k c => by cases c <;> rfl

theorem failed (h : Abreast m m' k k') : Abreast m m' k.recordFailed k'.recordFailed :=
  h.count (fun c => if c = .failed then 1 else 0) fun k c => by cases c <;> rfl

theorem leaked (h : Abreast m m' k k') : Abreast m m' k.recordLeaked k'.recordLeaked :=
  h.count (fun c => if c = .leaked then 1 else 0) fun k c => by cases c <;> rfl

theorem usageError (h : Abreast m m' k k') : Abreast m m' k.recordUsageError k'.recordUsageError :=
  h.count (fun c => if c = .usageErrors then 1 else 0) fun k c => by cases c <;> rfl

theorem pathCompleted (h : Abreast m m' k k') : Abreast m m' k.recordPathCompleted k'.recordPathCompleted :=
  h.count (fun c => if c = .pathsCompleted then 1 else 0) fun k c => by cases c <;> rfl

end Abreast

end Metrics

/-! ## Sessions -/

namespace Session

/-- The roots in the archive that a thread owns, by their ids. -/
def archivedOf (s : Session) (t : Thread) : List TracerId :=
  (s.archive.roots.filter fun r => (s.forest.get r).owner = t).map s.forest.idOf

theorem archivedOf_congr (s : Session) (t : Thread) {f : Forest} {c : Nat} {a : Agent} {k : Metrics} {e : List Event}
    (h : ∀ r ∈ s.archive.roots, f.idOf r = s.forest.idOf r ∧ (f.get r).owner = (s.forest.get r).owner) :
    archivedOf { s with forest := f, clock := c, agent := a, metrics := k, events := e } t = s.archivedOf t := by
  unfold archivedOf
  dsimp only
  rw [List.filter_congr fun r hr => by rw [(h r hr).2]]
  exact List.map_congr_left fun r hr => (h r (List.mem_of_mem_filter hr)).1

/-- A thread finds the same in two sessions, and the counters have advanced alike from `m` and `m'`. -/
structure Alike (t : Thread) (m m' : Metrics) (s s' : Session) : Prop where
  forest : s.forest.Alike t s'.forest
  path : (s'.paths.get t).stack.map s'.forest.idOf = (s.paths.get t).stack.map s.forest.idOf
  settings : s'.settings = s.settings
  archive : s'.archivedOf t = s.archivedOf t
  counters : Metrics.Abreast m m' s.metrics s'.metrics

/-- Two positions of one tracer, be it of the thread or not. -/
structure Facing (s s' : Session) (n n' : NodeRef) : Prop where
  here : n < s.forest.size
  there : n' < s'.forest.size
  id : s'.forest.idOf n' = s.forest.idOf n
  owner : (s'.forest.get n').owner = (s.forest.get n).owner
  kind : (s'.forest.get n').kind = (s.forest.get n).kind

/-- Two operations gave the same answer, and the thread finds the same after them. -/
structure Echo {β : Type} (t : Thread) (m m' : Metrics) (y y' : β × Session) : Prop where
  answer : y'.1 = y.1
  alike : y.2.Alike t m m' y'.2

/-- Two computations are refused for the same reason, or they come to the same. -/
inductive Tandem {α : Type} (t : Thread) (m m' : Metrics) :
    Except UsageError (α × Session) → Except UsageError (α × Session) → Prop
  | error (e : UsageError) : Tandem t m m' (.error e) (.error e)
  | ok (a : α) {s s' : Session} (h : s.Alike t m m' s') : Tandem t m m' (.ok (a, s)) (.ok (a, s'))

variable {α : Type} {t : Thread} {m m' : Metrics} {s s' : Session} {n n' : NodeRef}

namespace Alike

variable {k k' : Metrics}

theorem refl (hr : s.forest.Regular) (t : Thread) : s.Alike t s.metrics s.metrics s :=
  ⟨⟨hr, hr, fun n hn _ => ⟨n, hn, rfl⟩, fun n hn _ => ⟨n, hn, rfl⟩⟩, rfl, rfl, rfl, .refl _ _⟩

theorem symm (h : s.Alike t m m' s') : s'.Alike t m' m s :=
  ⟨h.forest.symm, h.path.symm, h.settings.symm, h.archive.symm, fun c => (h.counters c).symm⟩

/-- From here on the counters are compared anew. -/
theorem rebase (h : s.Alike t m m' s') : s.Alike t s.metrics s'.metrics s' :=
  ⟨h.forest, h.path, h.settings, h.archive, .refl _ _⟩


/-- What a thread finds does not depend on agents and events. -/
theorem rest (h : s.Alike t m m' s') (a a' : Agent) (e e' : List Event) (hk : Metrics.Abreast m m' k k') :
    Alike t m m' { s with agent := a, metrics := k, events := e }
      { s' with agent := a', metrics := k', events := e' } :=
  ⟨h.forest, h.path, h.settings, h.archive, hk⟩

/-- The nodes changed alike, at whatever times, and kept their ids and owners. -/
theorem reforest {f f' : Forest} (h : s.Alike t m m' s') (hf : f.Alike t f') (hs : s.forest.SameNames f)
    (hs' : s'.forest.SameNames f') (c c' : Nat) (a a' : Agent) (e e' : List Event)
    (hk : Metrics.Abreast m m' k k') :
    Alike t m m' { s with forest := f, clock := c, agent := a, metrics := k, events := e }
      { s' with forest := f', clock := c', agent := a', metrics := k', events := e' } := by
  refine ⟨hf, ?_, h.settings, ?_, hk⟩
  · dsimp only
    rw [hs.idOf_eq, hs'.idOf_eq]
    exact h.path
  · rw [archivedOf_congr s t fun r _ => ⟨hs.id r, hs.owner r⟩, archivedOf_congr s' t fun r _ => ⟨hs'.id r, hs'.owner r⟩]
    exact h.archive

theorem modify {g : Node → Node} (h : s.Alike t m m' s') (hn : Forest.Twin t s.forest s'.forest n n')
    (hg : Node.Plain g) (a a' : Agent) (e e' : List Event) (hk : Metrics.Abreast m m' k k') :
    Alike t m m' { s with forest := s.forest.modify n g, agent := a, metrics := k, events := e }
      { s' with forest := s'.forest.modify n' g, agent := a', metrics := k', events := e' } :=
  h.reforest (h.forest.modify_plain hn hg hg fun _ => rfl) (Forest.modify_sameNames hg _ _)
    (Forest.modify_sameNames hg _ _) s.clock s'.clock a a' e e' hk

/-- Twins that enter the same state, each at its own time. -/
theorem enter (h : s.Alike t m m' s') (hn : Forest.Twin t s.forest s'.forest n n') (state : TracerState)
    (now now' : Time) (a a' : Agent) (e e' : List Event) (hk : Metrics.Abreast m m' k k') :
    Alike t m m'
      { s with
        forest := s.forest.modify n (·.enter state now), clock := now + 1, agent := a, metrics := k, events := e }
      { s' with
        forest := s'.forest.modify n' (·.enter state now'), clock := now' + 1, agent := a', metrics := k'
        events := e' } :=
  have hg : Node.Plain (·.enter state now) := .enter state now
  have hg' : Node.Plain (·.enter state now') := .enter state now'
  h.reforest (h.forest.modify_plain hn hg hg' fun m => m.bare_enter state now now')
    (Forest.modify_sameNames hg _ _) (Forest.modify_sameNames hg' _ _) (now + 1) (now' + 1) a a' e e' hk

end Alike

namespace Facing

theorem twin (hn : s.Facing s' n n') (h : s.Alike t m m' s') (ho : (s.forest.get n).owner = t) :
    Forest.Twin t s.forest s'.forest n n' :=
  h.forest.twin hn.here hn.there hn.id ho

theorem label (hn : s.Facing s' n n') : s'.forest.label n' = s.forest.label n :=
  Node.label_congr hn.id hn.kind

end Facing

namespace Tandem

theorem checked {r r' : Except UsageError (α × Session)} (hr : Tandem t m m' r r') (h : s.Alike t m m' s') :
    Echo t m m' (s.checked n r) (s'.checked n' r') := by
  cases hr with
  | error e => exact ⟨rfl, h.rest _ _ _ _ h.counters.usageError⟩
  | ok a ha => exact ⟨rfl, ha⟩

/-- The same check on both sides. -/
theorem check {γ : Type} {x x' : Except UsageError γ} {k k' : γ → Except UsageError (α × Session)} (hx : x' = x)
    (h : ∀ c, x = .ok c → Tandem t m m' (k c) (k' c)) : Tandem t m m' (x >>= k) (x' >>= k') := by
  subst hx
  cases x' with
  | error e => exact .error e
  | ok c => exact h c rfl

/-- After the check of the thread, the tracer is known to be of the thread. -/
theorem thread {k k' : Unit → Except UsageError (α × Session)} (hn : s.Facing s' n n') (h : s.Alike t m m' s')
    (hk : Forest.Twin t s.forest s'.forest n n' → Tandem t m m' (k ()) (k' ())) :
    Tandem t m m' ((s.forest.get n).requireThread t >>= k) ((s'.forest.get n').requireThread t >>= k') := by
  have hlabel : (s'.forest.get n').label = (s.forest.get n).label := hn.label
  unfold Node.requireThread
  rw [hn.owner, hlabel]
  split
  · rename_i ho
    exact hk (hn.twin h ho.symm)
  · exact .error _

end Tandem

/-! ## Operations on a tracer -/

theorem update_echo (h : s.Alike t m m' s') (hn : s.Facing s' n n') (u : Update) :
    Echo t m m' (s.update t n u) (s'.update t n' u) := by
  refine Tandem.checked (.thread hn h fun twin => ?_) h
  have same {β : Type} {p : Node → β} := Forest.eq_of_portrait (p := p) twin.portrait
  refine .check rfl fun _ _ => .check (same (p := fun m => requireUpdatable m u.field) fun _ => rfl) fun _ _ => ?_
  refine .check (same (p := fun m => u.apply m.details) fun _ => rfl) fun d _ => .ok () ?_
  exact h.modify twin (.fields d) _ _ _ _ h.counters

theorem markFailed_echo (h : s.Alike t m m' s') (hn : s.Facing s' n n') (className message : String) :
    Echo t m m' (s.markFailed t n className message) (s'.markFailed t n' className message) := by
  refine Tandem.checked (.thread hn h fun twin => ?_) h
  have same {β : Type} {p : Node → β} := Forest.eq_of_portrait (p := p) twin.portrait
  refine .check rfl fun _ _ => .check (same (p := fun m => m.requireState .started) fun _ => rfl) fun _ _ => ?_
  have herror : (s'.forest.get n').error = (s.forest.get n).error := same fun _ => rfl
  have hlabel : (s'.forest.get n').label = (s.forest.get n).label := hn.label
  rw [herror, hlabel]
  cases (s.forest.get n).error with
  | some _ => exact .error _
  | none =>
    refine .ok () ?_
    exact h.modify twin (.failed (some ⟨className, message⟩)) _ _ _ _ h.counters.failed

/-- The tag that a running tracer hands out. -/
theorem InStep.tag_eq (hi : s.InStep) (hst : (s.forest.get n).state = .started) (form : TagForm) :
    (s.agent.getOutgoingTag (s.forest.idOf n) form).1 =
      if s.agent.isFound then Tag.encode (s.forest.idOf n) form else [] := by
  cases hf : s.agent.isFound with
  | true => simpa using hi.outgoingTag_eq hf hst form
  | false =>
    obtain ⟨⟨backend, callback⟩, hagent⟩ : ∃ a, s.agent = a := ⟨_, rfl⟩
    rw [hagent] at hf ⊢
    cases backend with
    | null => rfl
    | recorder r => cases hf

theorem outgoingTag_echo (h : s.Alike t m m' s') (hn : s.Facing s' n n') (hi : s.InStep) (hi' : s'.InStep)
    (hf : s'.agent.isFound = s.agent.isFound) (form : TagForm) :
    Echo t m m' (s.outgoingTag t n form) (s'.outgoingTag t n' form) := by
  refine Tandem.checked (.thread hn h fun twin => ?_) h
  have same {β : Type} {p : Node → β} := Forest.eq_of_portrait (p := p) twin.portrait
  refine .check (same (p := fun m => m.requireCapability .outgoingTaggable) fun _ => rfl) fun _ _ => ?_
  refine .check (same (p := fun m => m.requireState .started) fun _ => rfl) fun _ hst => ?_
  have hst := Node.requireState_eq_ok.1 hst
  have hst' : (s'.forest.get n').state = .started := (same fun _ => rfl).trans hst
  have htag : (s'.agent.getOutgoingTag (s'.forest.idOf n') form).1 =
      (s.agent.getOutgoingTag (s.forest.idOf n) form).1 := by
    rw [hi.tag_eq hst, hi'.tag_eq hst', hf, hn.id]
  show Tandem t m m' (.ok ((s.agent.getOutgoingTag (s.forest.idOf n) form).1, _))
    (.ok ((s'.agent.getOutgoingTag (s'.forest.idOf n') form).1, _))
  rw [htag]
  exact .ok _ (h.rest _ _ _ _ h.counters)

theorem setIncomingTag_echo (h : s.Alike t m m' s') (hn : s.Facing s' n n') (tag : IncomingTag) :
    Echo t m m' (s.setIncomingTag t n tag) (s'.setIncomingTag t n' tag) := by
  refine Tandem.checked (.thread hn h fun twin => ?_) h
  have same {β : Type} {p : Node → β} := Forest.eq_of_portrait (p := p) twin.portrait
  refine .check (same (p := fun m => m.requireCapability .incomingTaggable) fun _ => rfl) fun _ _ => ?_
  refine .check (same (p := fun m => m.requireState .created) fun _ => rfl) fun _ _ => .ok () ?_
  have hset := fun e e' => h.modify twin (.tagged (.ofDecoded tag.decode))
    (s.agent.setIncomingTag (s.forest.idOf n) tag) (s'.agent.setIncomingTag (s'.forest.idOf n') tag) e e' h.counters
  split
  · exact hset _ _
  · exact hset _ _

theorem applyIncomingTags_echo (h : s.Alike t m m' s') (hn : s.Facing s' n n') (tags : IncomingTags) :
    Echo t m m' (s.applyIncomingTags t n tags) (s'.applyIncomingTags t n' tags) := by
  obtain ⟨string, bytes⟩ := tags
  cases string <;> cases bytes
  · exact ⟨rfl, h⟩
  · exact setIncomingTag_echo h hn _
  · exact setIncomingTag_echo h hn _
  · exact ⟨rfl, h.rest _ _ _ _ h.counters⟩

/-! ## Starting and ending -/

/-- A tracer that ends. -/
theorem Alike.finish (h : s.Alike t m m' s') (twin : Forest.Twin t s.forest s'.forest n n') :
    (s.finish n).Alike t m m' (s'.finish n') :=
  h.enter twin .ended s.clock s'.clock _ _ _ _ h.counters.ended

/-- The paths are replaced. -/
theorem Alike.setPath (h : s.Alike t m m' s') (p p' : Path)
    (hp : p'.stack.map s'.forest.idOf = p.stack.map s.forest.idOf) :
    Alike t m m' { s with paths := s.paths.set t p } { s' with paths := s'.paths.set t p' } :=
  ⟨h.forest, by simpa using hp, h.settings, h.archive, h.counters⟩

/-- What a thread has on its path are twins, one for one. -/
theorem Alike.top_twin (h : s.Alike t m m' s') (hs : s.Sound) (hs' : s'.Sound) {top top' : NodeRef}
    {rest rest' : List NodeRef} (hp : (s.paths.get t).stack = top :: rest)
    (hp' : (s'.paths.get t).stack = top' :: rest') :
    Forest.Twin t s.forest s'.forest top top' := by
  have hmem := (hs.fits.mem_iff t top).1 (by simp [hp])
  have hmem' := (hs'.fits.mem_iff t top').1 (by simp [hp'])
  have hpath := h.path
  rw [hp, hp'] at hpath
  exact h.forest.twin hmem.1 hmem'.1 (List.cons.inj hpath).1 hmem.2.2

/-- A tracer that starts, below the tracer that is active. -/
theorem Alike.begin (h : s.Alike t m m' s') (twin : Forest.Twin t s.forest s'.forest n n') {b b' : Option NodeRef}
    (hb : (b = none ∧ b' = none) ∨ ∃ x x', b = some x ∧ b' = some x' ∧ Forest.Twin t s.forest s'.forest x x') :
    Alike t m m'
      { s with
        forest := (s.forest.nest b n).modify n (·.enter .started s.clock)
        clock := s.clock + 1
        paths := s.paths.set t ⟨n :: (s.paths.get t).stack⟩
        agent := s.agent.start (s.forest.idOf n)
        metrics := s.metrics.recordStarted }
      { s' with
        forest := (s'.forest.nest b' n').modify n' (·.enter .started s'.clock)
        clock := s'.clock + 1
        paths := s'.paths.set t ⟨n' :: (s'.paths.get t).stack⟩
        agent := s'.agent.start (s'.forest.idOf n')
        metrics := s'.metrics.recordStarted } := by
  have plain := Node.Plain.enter .started
  have names := Forest.nest_sameNames s.forest b n
  have names' := Forest.nest_sameNames s'.forest b' n'
  have hnested : (s.forest.nest b n).Alike t (s'.forest.nest b' n') := by
    rcases hb with ⟨rfl, rfl⟩ | ⟨x, x', rfl, rfl, hx⟩
    · exact h.forest
    · exact h.forest.link hx twin
  have twin' := hnested.twin_of_names twin names names'
  have hstarted := (h.reforest hnested names names' s.clock s'.clock s.agent s'.agent s.events s'.events
    h.counters).enter twin' .started s.clock s'.clock (s.agent.start (s.forest.idOf n))
    (s'.agent.start (s'.forest.idOf n')) s.events s'.events h.counters.started
  refine hstarted.setPath _ _ ?_
  show (n' :: (s'.paths.get t).stack).map ((s'.forest.nest b' n').modify n' _).idOf =
    (n :: (s.paths.get t).stack).map ((s.forest.nest b n).modify n _).idOf
  rw [(names.trans (Forest.modify_sameNames (plain _) _ n)).idOf_eq,
    (names'.trans (Forest.modify_sameNames (plain _) _ n')).idOf_eq, List.map_cons, List.map_cons, h.path,
    Forest.idOf_eq_of_portrait twin.portrait]

theorem Alike.cons_of_cons (h : s.Alike t m m' s') {top : NodeRef} {rest : List NodeRef}
    (hp : (s.paths.get t).stack = top :: rest) : ∃ top' rest', (s'.paths.get t).stack = top' :: rest' := by
  have hpath := h.path
  cases hp' : (s'.paths.get t).stack with
  | nil => simp [hp, hp'] at hpath
  | cons top' rest' => exact ⟨top', rest', rfl⟩

theorem start_echo (h : s.Alike t m m' s') (hn : s.Facing s' n n') (hs : s.Sound) (hs' : s'.Sound) :
    Echo t m m' (s.start t n) (s'.start t n') := by
  refine Tandem.checked (.thread hn h fun twin => ?_) h
  have same {β : Type} {p : Node → β} := Forest.eq_of_portrait (p := p) twin.portrait
  unfold Path.push
  dsimp only
  rw [bind_assoc, bind_assoc]
  refine .check (same (p := fun m => m.requireState .created) fun _ => rfl) fun _ _ => ?_
  have hpath := h.path
  cases hp : (s.paths.get t).stack with
  | nil =>
    rw [hp, List.map_nil, List.map_eq_nil_iff] at hpath
    rw [hpath]
    have hkind : (s'.forest.get n').kind = (s.forest.get n).kind := hn.kind
    have hlabel : (s'.forest.get n').label = (s.forest.get n).label := hn.label
    dsimp only
    rw [hkind, hlabel]
    split
    · have hbegun := h.begin twin (.inl ⟨rfl, rfl⟩)
      rw [hp, hpath] at hbegun
      exact .ok () hbegun
    · exact .error _
  | cons top rest =>
    obtain ⟨top', rest', hp'⟩ := h.cons_of_cons hp
    have hbegun := h.begin twin (.inr ⟨top, top', rfl, rfl, h.top_twin hs hs' hp hp'⟩)
    rw [hp, hp'] at hbegun
    rw [hp']
    exact .ok () hbegun

/-- A completed path is noted. -/
theorem Alike.complete (h : s.Alike t m m' s') (twin : Forest.Twin t s.forest s'.forest n n') :
    (s.completePath n).Alike t m m' (s'.completePath n') := by
  obtain ⟨hforest, hpaths, hsettings, -, harchive⟩ := completePath_same s n
  obtain ⟨hforest', hpaths', hsettings', -, harchive'⟩ := completePath_same s' n'
  have howner : (s'.forest.get n').owner = t :=
    (Forest.eq_of_portrait (p := Node.owner) twin.portrait fun _ => rfl).trans twin.owner
  refine ⟨?_, ?_, ?_, ?_, ?_⟩
  · rw [hforest, hforest']
    exact h.forest
  · rw [hforest, hforest', hpaths, hpaths']
    exact h.path
  · rw [hsettings, hsettings']
    exact h.settings
  · have harchived := h.archive
    unfold archivedOf at harchived ⊢
    rw [hforest, hforest', harchive, harchive', h.settings]
    split
    · simp [Archive.append, List.filter_append, twin.owner, howner, harchived,
        Forest.idOf_eq_of_portrait twin.portrait]
    · exact harchived
  · rw [metrics_completePath, metrics_completePath]
    exact h.counters.pathCompleted

/-- Both tracers are on top of their paths, or neither of them is. -/
theorem Alike.pop (h : s.Alike t m m' s') (hs : s.Sound) (hs' : s'.Sound) (hn : s.Facing s' n n')
    (twin : Forest.Twin t s.forest s'.forest n n') :
    (∃ e, (s.paths.get t).pop s.forest n = .error e ∧ (s'.paths.get t).pop s'.forest n' = .error e) ∨
      ∃ rest rest', (s.paths.get t).stack = n :: rest ∧ (s'.paths.get t).stack = n' :: rest' ∧
        rest'.map s'.forest.idOf = rest.map s.forest.idOf := by
  have hpath := h.path
  cases hp : (s.paths.get t).stack with
  | nil =>
    rw [hp, List.map_nil, List.map_eq_nil_iff] at hpath
    left
    unfold Path.pop
    rw [hp, hpath, hn.label]
    exact ⟨_, rfl, rfl⟩
  | cons top rest =>
    obtain ⟨top', rest', hp'⟩ := h.cons_of_cons hp
    have htop := h.top_twin hs hs' hp hp'
    rw [hp, hp'] at hpath
    by_cases e : top = n
    · obtain rfl := (h.forest.eq_iff htop twin).1 e
      exact .inr ⟨rest, rest', by rw [e], hp', (List.cons.inj hpath).2⟩
    · have e' : top' ≠ n' := fun e' => e ((h.forest.eq_iff htop twin).2 e')
      have hlabel : s'.forest.label top' = s.forest.label top :=
        Forest.eq_of_portrait (p := Node.label) htop.portrait fun _ => rfl
      left
      unfold Path.pop
      rw [hp, hp']
      dsimp only
      rw [if_neg e, if_neg e', hn.label, hlabel]
      exact ⟨_, rfl, rfl⟩

theorem Alike.unwind (h : s.Alike t m m' s') (twin : Forest.Twin t s.forest s'.forest n n') {rest rest' : List NodeRef}
    (hrest : rest'.map s'.forest.idOf = rest.map s.forest.idOf) :
    (s.unwound t n rest).Alike t m m' (s'.unwound t n' rest') := by
  have names : s.forest.SameNames (s.finish n).forest := Forest.modify_sameNames (.enter .ended _) _ n
  have names' : s'.forest.SameNames (s'.finish n').forest := Forest.modify_sameNames (.enter .ended _) _ n'
  refine (h.finish twin).setPath ⟨rest⟩ ⟨rest'⟩ ?_
  rw [names.idOf_eq, names'.idOf_eq]
  exact hrest

theorem endTracer_echo (h : s.Alike t m m' s') (hn : s.Facing s' n n') (hs : s.Sound) (hs' : s'.Sound) :
    Echo t m m' (s.endTracer t n) (s'.endTracer t n') := by
  refine Tandem.checked (.thread hn h fun twin => ?_) h
  have hstate := Forest.eq_of_portrait (p := Node.state) twin.portrait fun _ => rfl
  have howner := Forest.eq_of_portrait (p := Node.owner) twin.portrait fun _ => rfl
  have hlabel : (s'.forest.get n').label = (s.forest.get n).label := hn.label
  rw [hstate, hlabel]
  cases hst : (s.forest.get n).state with
  | ended => exact .ok () h
  | created => exact .ok () (h.finish twin)
  | started =>
    -- Children are of the thread of their parent.
    have children : ∀ {s : Session} {n : NodeRef}, s.Sound → ∀ c ∈ (s.forest.get n).childRefs,
        c < s.forest.size ∧ (s.forest.get c).owner = (s.forest.get n).owner := fun hs c hc =>
      ⟨hs.nesting.bounded _ c hc, (hs.joined _ c hc).owner⟩
    have hunended := twin.unendedChildren h.forest (twin.owner ▸ children hs) (howner.trans twin.owner ▸ children hs')
    dsimp only
    rw [hunended]
    split
    · exact .error _
    · rcases h.pop hs hs' hn twin with ⟨e, hp, hp'⟩ | ⟨rest, rest', hp, hp', hrest⟩
      · rw [hp, hp']
        exact .error e
      · rw [Path.pop_eq_ok.2 ⟨rest, hp, rfl⟩, Path.pop_eq_ok.2 ⟨rest', hp', rfl⟩]
        have hunwound := h.unwind twin hrest
        have names := Forest.modify_sameNames (.enter .ended s.clock) s.forest n
        have names' := Forest.modify_sameNames (.enter .ended s'.clock) s'.forest n'
        cases rest with
        | nil =>
          obtain rfl := List.map_eq_nil_iff.1 hrest
          exact .ok () (hunwound.complete (hunwound.forest.twin_of_names twin names names'))
        | cons below rest =>
          cases rest' with
          | nil => simp at hrest
          | cons below' rest' => exact .ok () hunwound

/-! ## Letting go -/

theorem Alike.drop (h : s.Alike t m m' s') (twin : Forest.Twin t s.forest s'.forest n n') :
    (s.drop t n).Alike t m m' (s'.drop t n') := by
  have hstate := Forest.eq_of_portrait (p := Node.state) twin.portrait fun _ => rfl
  have howner := Forest.eq_of_portrait (p := Node.owner) twin.portrait fun _ => rfl
  have hthread := (Node.requireThread_eq_ok (u := ())).2 twin.owner
  have hthread' := (Node.requireThread_eq_ok (u := ())).2 (howner.trans twin.owner)
  have hreleased : (s.released n).Alike t m m' (s'.released n') := h.modify twin .released _ _ _ _ h.counters
  unfold Session.drop
  dsimp only
  rw [hthread, hthread', hstate]
  cases (s.forest.get n).state with
  | ended => exact hreleased
  | created =>
    have names := Forest.modify_sameNames .released s.forest n
    have names' := Forest.modify_sameNames .released s'.forest n'
    have twin' := hreleased.forest.twin_of_names twin names names'
    exact hreleased.enter twin' .ended s.clock s'.clock _ _ _ _ hreleased.counters
  | started =>
    have hleaked := hreleased.rest (s.released n).agent (s'.released n').agent s.events s'.events h.counters.leaked
    have hwarned : ∀ {u u' : Session} message message', u.Alike t m m' u' →
        (u.warn message).Alike t m m' (u'.warn message') := fun _ _ hu => hu.rest _ _ _ _ hu.counters
    have hsettings : (s'.modifyNode n' fun m => { m with held := false }).settings.leakWarnings =
        (s.modifyNode n fun m => { m with held := false }).settings.leakWarnings :=
      congrArg Settings.leakWarnings h.settings
    simp only [reduceCtorEq, if_false, hsettings]
    split
    · exact hwarned _ _ hleaked
    · exact hleaked

/-! ## New tracers -/

theorem Sound.root_lt {s : Session} (hs : s.Sound) {r : NodeRef} (hr : r ∈ s.archive.roots) : r < s.forest.size := by
  by_contra hge
  have hstart := (hs.archived r hr).1
  rw [Forest.get_of_size_le (Nat.le_of_not_lt hge)] at hstart
  cases hstart

theorem archivedOf_create {s : Session} (hs : s.Sound) (u : Thread) (id : TracerId) (d : Details) (t : Thread) :
    (s.create u id d).2.archivedOf t = s.archivedOf t := by
  refine archivedOf_congr s t fun r hr => ?_
  have hget : (s.create u id d).2.forest.get r = s.forest.get r := by
    rw [get_create, if_neg (Nat.ne_of_lt (hs.root_lt hr))]
  exact ⟨congrArg Node.id hget, congrArg Node.owner hget⟩

theorem Alike.create (h : s.Alike t m m' s') (hs : s.Sound) (hs' : s'.Sound) {id : TracerId} (d : Details)
    (hid : id ∉ s.forest.ids) (hid' : id ∉ s'.forest.ids) :
    (s.create t id d).2.Alike t m m' (s'.create t id d).2 := by
  -- What is on a path was there before.
  have onPath : ∀ {s : Session}, s.Sound → (s.paths.get t).stack.map (s.create t id d).2.forest.idOf =
      (s.paths.get t).stack.map s.forest.idOf := by
    intro s hs
    refine List.map_congr_left fun n hn => congrArg Node.id ?_
    rw [get_create, if_neg (Nat.ne_of_lt ((hs.fits.mem_iff t n).1 hn).1)]
  refine ⟨h.forest.add rfl rfl hid hid' rfl, ?_, h.settings, ?_, h.counters.created d.kind⟩
  · exact (onPath hs').trans (h.path.trans (onPath hs).symm)
  · rw [archivedOf_create hs, archivedOf_create hs']
    exact h.archive

/-! ## Attributes and links -/

theorem Alike.active (h : s.Alike t m m' s') (hs : s.Sound) (hs' : s'.Sound) :
    (s.active? t = none ∧ s'.active? t = none) ∨ ∃ n n', s.active? t = some n ∧ s'.active? t = some n' ∧
      Forest.Twin t s.forest s'.forest n n' := by
  have hpath := h.path
  unfold active? Path.top?
  cases hp : (s.paths.get t).stack with
  | nil =>
    rw [hp, List.map_nil, List.map_eq_nil_iff] at hpath
    rw [hpath]
    exact .inl ⟨rfl, rfl⟩
  | cons top rest =>
    obtain ⟨top', rest', hp'⟩ := h.cons_of_cons hp
    rw [hp']
    exact .inr ⟨top, top', rfl, rfl, h.top_twin hs hs' hp hp'⟩

theorem addAttribute_echo (h : s.Alike t m m' s') (hs : s.Sound) (hs' : s'.Sound) (key : String)
    (value : AttributeValue) : Echo t m m' (s.addAttribute t key value) (s'.addAttribute t key value) := by
  unfold addAttribute
  cases requireNonBlank "key" key with
  | error e => exact ⟨rfl, h⟩
  | ok _ =>
    dsimp only
    rcases h.active hs hs' with ⟨ha, ha'⟩ | ⟨n, n', ha, ha', twin⟩ <;> rw [ha, ha']
    · exact ⟨rfl, h.rest _ _ _ _ h.counters⟩
    · exact ⟨rfl, h.modify twin (.attributed key value) _ _ _ _ h.counters⟩

theorem createLink_eq (h : s.Alike t m m' s') (hs : s.Sound) (hs' : s'.Sound) : s'.createLink t = s.createLink t := by
  unfold createLink
  rcases h.active hs hs' with ⟨ha, ha'⟩ | ⟨n, n', ha, ha', twin⟩ <;> rw [ha, ha']
  · rfl
  · exact congrArg (fun id => InProcessLink.ofTarget (some id)) (Forest.idOf_eq_of_portrait twin.portrait)

/-! ## Several things at once -/

theorem Facing.of_sameShape {u u' : Session} (hn : s.Facing s' n n') (hs : s.SameShape u) (hs' : s'.SameShape u') :
    u.Facing u' n n' where
  here := hs.forest.size ▸ hn.here
  there := hs'.forest.size ▸ hn.there
  id := (hs'.forest.node n').id.trans (hn.id.trans (hs.forest.node n).id.symm)
  owner := (hs'.forest.node n').owner.trans (hn.owner.trans (hs.forest.node n).owner.symm)
  kind := (hs'.forest.node n').kind.trans (hn.kind.trans (hs.forest.node n).kind.symm)

/-- One operation after another, unless the first is refused. -/
def andThen (y : Except UsageError Unit × Session) (k : Session → Except UsageError Unit × Session) :
    Except UsageError Unit × Session :=
  match y with
  | (.ok (), u) => k u
  | refused => refused

theorem Echo.andThen {y y' : Except UsageError Unit × Session} {k k' : Session → Except UsageError Unit × Session}
    (h : Echo t m m' y y') (hk : y.2.Alike t m m' y'.2 → Echo t m m' (k y.2) (k' y'.2)) :
    Echo t m m' (Session.andThen y k) (Session.andThen y' k') := by
  obtain ⟨result, u⟩ := y
  obtain ⟨result', u'⟩ := y'
  obtain rfl : result' = result := h.answer
  cases result' with
  | error e => exact h
  | ok _ => exact hk h.alike

theorem updateAll_cons (s : Session) (t : Thread) (n : NodeRef) (u : Update) (us : List Update) :
    s.updateAll t n (u :: us) = andThen (s.update t n u) (·.updateAll t n us) := rfl

theorem updateAll_echo (us : List Update) (h : s.Alike t m m' s') (hn : s.Facing s' n n') :
    Echo t m m' (s.updateAll t n us) (s'.updateAll t n' us) := by
  induction us generalizing s s' with
  | nil => exact ⟨rfl, h⟩
  | cons u us ih =>
    rw [updateAll_cons, updateAll_cons]
    refine (update_echo h hn u).andThen fun halike => ih halike ?_
    exact hn.of_sameShape (update_effects u hn.here).2 (update_effects u hn.there).2

theorem addEach_cons (s : Session) (t : Thread) (p : String × AttributeValue) (pairs : List (String × AttributeValue)) :
    s.addEach t (p :: pairs) = andThen (s.addAttribute t p.1 p.2) (·.addEach t pairs) := rfl

theorem addEach_echo (pairs : List (String × AttributeValue)) (h : s.Alike t m m' s') (hs : s.Sound) (hs' : s'.Sound) :
    Echo t m m' (s.addEach t pairs) (s'.addEach t pairs) := by
  induction pairs generalizing s s' with
  | nil => exact ⟨rfl, h⟩
  | cons p pairs ih =>
    have sound : ∀ {s : Session}, s.Sound → (s.addAttribute t p.1 p.2).2.Sound := fun hs =>
      (addAttribute_effects p.1 p.2).inv (fun _ _ _ => Effect.sound) hs
    rw [addEach_cons, addEach_cons]
    exact (addAttribute_echo h hs hs' p.1 p.2).andThen fun halike => ih halike (sound hs) (sound hs')

theorem setUp_eq (s : Session) (t : Thread) (n : NodeRef) (kind : Kind) (o : TraceOptions) :
    s.setUp t n kind o = andThen (s.updateAll t n (o.updates kind)) fun u =>
      if kind.acceptsTag then u.applyIncomingTags t n o.tags else (.ok (), u) := rfl

theorem setUp_echo (h : s.Alike t m m' s') (hn : s.Facing s' n n') (kind : Kind) (o : TraceOptions) :
    Echo t m m' (s.setUp t n kind o) (s'.setUp t n' kind o) := by
  rw [setUp_eq, setUp_eq]
  refine (updateAll_echo (o.updates kind) h hn).andThen fun halike => ?_
  have hn' := hn.of_sameShape (updateAll_effects (t := t) (o.updates kind) hn.here).2
    (updateAll_effects (t := t) (o.updates kind) hn.there).2
  split
  · exact applyIncomingTags_echo halike hn' o.tags
  · exact ⟨rfl, halike⟩

/-- The new tracer of a trace, or why there is none. -/
theorem trace_echo (h : s.Alike t m m' s') (hs : s.Sound) (hs' : s'.Sound) {id : TracerId} (op : Operation)
    (o : TraceOptions) (hid : id ∉ s.forest.ids) (hid' : id ∉ s'.forest.ids) :
    (s.trace t id op o).2.Alike t m m' (s'.trace t id op o).2 ∧
      ((∃ e, (s.trace t id op o).1 = .error e ∧ (s'.trace t id op o).1 = .error e) ∨
        ((s.trace t id op o).1 = .ok s.forest.size ∧ (s'.trace t id op o).1 = .ok s'.forest.size)) := by
  cases hd : op.details with
  | error e =>
    have refused : ∀ s : Session, s.trace t id op o = (.error e, s) := by
      intro s
      unfold trace createFor
      rw [hd]
    rw [refused, refused]
    exact ⟨h, .inl ⟨e, rfl, rfl⟩⟩
  | ok d =>
    have hcreated := h.create hs hs' d hid hid'
    have new : ∀ s : Session, s.forest.size < (s.create t id d).2.forest.size ∧
        (s.create t id d).2.forest.get s.forest.size =
          { id, owner := t, details := d, createdAt := s.clock
            receipt := d.linkTarget.elim .absent TagReceipt.carries, held := true } := by
      intro s
      exact ⟨by simp, by rw [get_created]⟩
    have hn : (s.create t id d).2.Facing (s'.create t id d).2 s.forest.size s'.forest.size := by
      refine ⟨(new s).1, (new s').1, (idOf_created s' t id d).trans (idOf_created s t id d).symm, ?_, ?_⟩
      · rw [(new s').2, (new s).2]
      · rw [(new s').2, (new s).2]
        rfl
    have hset := setUp_echo hcreated hn op.kind o
    obtain ⟨u, -, hu, htrace⟩ := trace_cases (s := s) (t := t) id o hd
    obtain ⟨u', -, hu', htrace'⟩ := trace_cases (s := s') (t := t) id o hd
    have hn' := hn.of_sameShape hu hu'
    have ho : (u.forest.get s.forest.size).owner = t :=
      ((hu.forest.node _).owner).trans (congrArg Node.owner (new s).2)
    rcases htrace with ⟨hy, htrace⟩ | ⟨e, hy, htrace⟩ <;> rcases htrace' with ⟨hy', htrace'⟩ | ⟨e', hy', htrace'⟩ <;>
      rw [hy, hy'] at hset <;> rw [htrace, htrace']
    · exact ⟨hset.alike, .inr ⟨rfl, rfl⟩⟩
    · cases hset.answer
    · cases hset.answer
    · obtain rfl : e' = e := Except.error.inj hset.answer
      have twin := hn'.twin hset.alike ho
      have hfinished := hset.alike.finish twin
      have names := fun now => Forest.modify_sameNames (Node.Plain.enter .ended now)
      exact ⟨hfinished.drop (hfinished.forest.twin_of_names twin (names _ _ _) (names _ _ _)), .inl ⟨e', rfl, rfl⟩⟩

end Session

end CallPath
