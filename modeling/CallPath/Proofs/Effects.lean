import CallPath.Proofs.Nesting
import CallPath.Proofs.Operations
/-!
# Effects

Whatever a command does to a session is a chain of effects, each with the checks that stood
before it (`Step.effects`). An invariant kept by every effect holds after every run (`Run.inv`),
so that later modules are case analyses over `Effect`.

The marks of a chain tell what matters for the trees: which ids were issued, which tracers were
started, which paths were completed and which trees were taken out of the archive.
-/

namespace CallPath

/-- What a recorder keeps of the calls it heard. -/
def Recorder.record (r : Recorder) : List AgentCall × Table TracerId TracerState × List Violation :=
  (r.calls, r.tracers, r.violations)

/-- What an agent keeps of the calls it heard, if it keeps anything. -/
def Agent.record (a : Agent) : Option (List AgentCall × Table TracerId TracerState × List Violation) :=
  a.recorder?.map Recorder.record

inductive Mark where
  | born (id : TracerId)
  | begun (n : NodeRef)
  | completed (root : NodeRef)
  | taken (roots : List NodeRef)

/-- The smallest changes of a session, on the thread `t`. -/
inductive Effect (t : Thread) (s : Session) : List Mark → Session → Prop
  | refused (n : NodeRef) (e : UsageError) : Effect t s [] (s.refused n e)
  | logged (e : Event) : Effect t s [] (s.log e)
  | warned (message : String) : Effect t s [] (s.warn message)
  | counted (linked unresolved : Nat) : Effect t s []
      { s.log (.resolutionPass linked unresolved) with metrics := s.metrics.recordResolution linked unresolved }
  | tuned (a : Agent) (h : a.record = s.agent.record) : Effect t s [] { s with agent := a }
  | created (id : TracerId) (details : Details) (hid : id ∉ s.forest.ids) :
      Effect t s [.born id] (s.create t id details).2
  | begun (n : NodeRef) (hn : n < s.forest.size) (ho : (s.forest.get n).owner = t)
      (hst : (s.forest.get n).state = .created)
      (hk : (s.active? t).isSome ∨ (s.forest.get n).kind.isEntrypoint = true) :
      Effect t s [.begun n] (s.begun t n)
  | unwound (n : NodeRef) (rest : List NodeRef) (hn : n < s.forest.size) (ho : (s.forest.get n).owner = t)
      (hst : (s.forest.get n).state = .started) (hr : (s.paths.get t).stack = n :: rest) (hne : rest ≠ []) :
      Effect t s [] (s.unwound t n rest)
  | completed (n : NodeRef) (hn : n < s.forest.size) (ho : (s.forest.get n).owner = t)
      (hst : (s.forest.get n).state = .started) (hr : (s.paths.get t).stack = [n]) :
      Effect t s [.completed n] ((s.unwound t n []).completePath n)
  | finished (n : NodeRef) (hn : n < s.forest.size) (ho : (s.forest.get n).owner = t)
      (hst : (s.forest.get n).state = .created) : Effect t s [] (s.finish n)
  | discarded (n : NodeRef) (hn : n < s.forest.size) (ho : (s.forest.get n).owner = t)
      (hst : (s.forest.get n).state = .created) : Effect t s [] (s.discarded n)
  | leaked (n : NodeRef) (hn : n < s.forest.size) (ho : (s.forest.get n).owner = t)
      (hst : (s.forest.get n).state = .started) :
      Effect t s [] { s with metrics := s.metrics.recordLeaked }
  | released (n : NodeRef) (hn : n < s.forest.size) : Effect t s [] (s.released n)
  | updated (n : NodeRef) (u : Update) (details : Details) (hn : n < s.forest.size)
      (ho : (s.forest.get n).owner = t) (hv : u.validate = .ok ())
      (hst : (s.forest.get n).state = .created ∨ ((s.forest.get n).state = .started ∧ u.field.isEntry = false))
      (hd : u.apply (s.forest.get n).details = .ok details) : Effect t s [] (s.updated n u details)
  | failed (n : NodeRef) (className message : String) (hn : n < s.forest.size)
      (ho : (s.forest.get n).owner = t) (hb : Text.allBlank className = false)
      (hst : (s.forest.get n).state = .started) (he : (s.forest.get n).error = none) :
      Effect t s [] (s.failed n className message)
  | tagged (n : NodeRef) (tag : IncomingTag) (hn : n < s.forest.size) (ho : (s.forest.get n).owner = t)
      (hk : (s.forest.get n).kind.acceptsTag = true) (hst : (s.forest.get n).state = .created) :
      Effect t s [] (s.tagged n tag)
  | tagRead (n : NodeRef) (form : TagForm) (hn : n < s.forest.size) (ho : (s.forest.get n).owner = t)
      (hk : (s.forest.get n).kind.handsOutTag = true) (hst : (s.forest.get n).state = .started) :
      Effect t s [] (s.tagRead n form)
  | attributed (n : NodeRef) (key : String) (value : AttributeValue) (hb : Text.allBlank key = false)
      (ha : s.active? t = some n) :
      Effect t s [] (s.modifyNode n fun m => { m with attributes := m.attributes ++ [(key, value)] })
  | emptied : Effect t s [.taken s.archive.roots] { s with archive := {} }
  | linked (consumer producer : NodeRef) (hc : consumer ∈ s.archive.nodes s.forest)
      (hp : producer ∈ s.archive.nodes s.forest)
      (hid : (s.forest.get consumer).receipt.id? = some (s.forest.idOf producer))
      (hr : (s.forest.get consumer).isResolved = false) :
      Effect t s [] { s with forest := s.forest.resolve consumer producer }

/-- Chains of effects. -/
inductive Effects (t : Thread) : Session → List Mark → Session → Prop
  | nil (s : Session) : Effects t s [] s
  | cons {s s' s'' : Session} {ms ms' : List Mark} :
      Effect t s ms s' → Effects t s' ms' s'' → Effects t s (ms ++ ms') s''

namespace Effects

variable {t : Thread} {s s' s'' : Session} {ms ms' : List Mark}

theorem single (h : Effect t s ms s') : Effects t s ms s' := by
  simpa using Effects.cons h (.nil s')

theorem trans (h : Effects t s ms s') (h' : Effects t s' ms' s'') : Effects t s (ms ++ ms') s'' := by
  induction h with
  | nil => exact h'
  | cons he _ ih =>
    rw [List.append_assoc]
    exact .cons he (ih h')

/-- A quiet chain and one more effect. -/
theorem snoc (h : Effects t s [] s') (h' : Effect t s' ms s'') : Effects t s ms s'' :=
  h.trans (single h')

/-- What every effect keeps, a chain keeps. -/
theorem inv {I : Session → Prop} (hI : ∀ s ms s', Effect t s ms s' → I s → I s') (h : Effects t s ms s')
    (hs : I s) : I s' := by
  induction h with
  | nil => exact hs
  | cons he _ ih => exact ih (hI _ _ _ he hs)

end Effects

/-! ## What most effects leave alone -/

theorem Update.kind_of_apply {u : Update} {d d' : Details} (h : u.apply d = .ok d') : d'.kind = d.kind := by
  unfold apply at h
  cases hd : u.applied? d with
  | none =>
    rw [hd] at h
    cases h
  | some d'' =>
    rw [hd] at h
    cases h
    cases u <;> cases d <;> simp only [applied?, Option.some.injEq, reduceCtorEq] at hd <;> subst hd <;> rfl

/-- A message refers to a tracer by what never changes of it. -/
theorem Node.label_congr {m m' : Node} (hid : m'.id = m.id) (hk : m'.kind = m.kind) : m'.label = m.label := by
  rw [Node.label, Node.label, hid, hk]

/-- Two nodes at the same place in the trees, at the same stage of life. -/
structure Node.SameShape (m m' : Node) : Prop where
  id : m'.id = m.id
  owner : m'.owner = m.owner
  kind : m'.kind = m.kind
  state : m'.state = m.state
  children : m'.children = m.children
  hasStartTime : m'.hasStartTime = m.hasStartTime

theorem Node.SameShape.refl (m : Node) : m.SameShape m :=
  ⟨rfl, rfl, rfl, rfl, rfl, rfl⟩

/-- The same nodes in the same trees. -/
structure Forest.SameShape (f f' : Forest) : Prop where
  size : f'.size = f.size
  node : ∀ n, (f.get n).SameShape (f'.get n)

namespace Forest.SameShape

variable {f f' f'' : Forest}

theorem refl (f : Forest) : f.SameShape f :=
  ⟨rfl, fun _ => .refl _⟩

theorem trans (h : f.SameShape f') (h' : f'.SameShape f'') : f.SameShape f'' where
  size := h'.size.trans h.size
  node n := {
    id := (h'.node n).id.trans (h.node n).id
    owner := (h'.node n).owner.trans (h.node n).owner
    kind := (h'.node n).kind.trans (h.node n).kind
    state := (h'.node n).state.trans (h.node n).state
    children := (h'.node n).children.trans (h.node n).children
    hasStartTime := (h'.node n).hasStartTime.trans (h.node n).hasStartTime }

/-- A change of one node that keeps its place and its stage. -/
theorem modify {n : NodeRef} {g : Node → Node} (h : (f.get n).SameShape (g (f.get n))) :
    f.SameShape (f.modify n g) where
  size := size_modify f n g
  node m := by
    rw [get_modify_eq]
    split
    · rename_i e
      rw [← e.1]
      exact h
    · exact .refl _

theorem label (h : f.SameShape f') (n : NodeRef) : f'.label n = f.label n :=
  Node.label_congr (h.node n).id (h.node n).kind

end Forest.SameShape

/-- The same trees, paths and archive. -/
structure Session.SameShape (s s' : Session) : Prop where
  forest : s.forest.SameShape s'.forest
  paths : s'.paths = s.paths
  archive : s'.archive = s.archive

namespace Session

theorem SameShape.refl (s : Session) : s.SameShape s :=
  ⟨.refl _, rfl, rfl⟩

theorem SameShape.trans {s s' s'' : Session} (h : s.SameShape s') (h' : s'.SameShape s'') : s.SameShape s'' :=
  ⟨h.forest.trans h'.forest, h'.paths.trans h.paths, h'.archive.trans h.archive⟩

theorem updated_sameShape {s : Session} {n : NodeRef} {u : Update} {d : Details}
    (hd : u.apply (s.forest.get n).details = .ok d) : s.SameShape (s.updated n u d) :=
  ⟨.modify ⟨rfl, rfl, Update.kind_of_apply hd, rfl, rfl, rfl⟩, rfl, rfl⟩

theorem tagged_sameShape (s : Session) (n : NodeRef) (tag : IncomingTag) : s.SameShape (s.tagged n tag) :=
  ⟨.modify ⟨rfl, rfl, rfl, rfl, rfl, rfl⟩, rfl, rfl⟩

theorem failed_sameShape (s : Session) (n : NodeRef) (className message : String) :
    s.SameShape (s.failed n className message) :=
  ⟨.modify ⟨rfl, rfl, rfl, rfl, rfl, rfl⟩, rfl, rfl⟩

theorem released_sameShape (s : Session) (n : NodeRef) : s.SameShape (s.released n) :=
  ⟨.modify ⟨rfl, rfl, rfl, rfl, rfl, rfl⟩, rfl, rfl⟩

/-! ## Fields, tags and errors -/

variable {s : Session} {t : Thread} {n : NodeRef}

theorem update_effects (u : Update) (hn : n < s.forest.size) :
    Effects t s [] (s.update t n u).2 ∧ s.SameShape (s.update t n u).2 := by
  rcases s.update_cases t n u with ⟨e, h⟩ | ⟨ho, hv, hst, d, hd, h⟩ <;> rw [h]
  · exact ⟨.single (.refused n e), .refl _, rfl, rfl⟩
  · exact ⟨.single (.updated n u d hn ho hv hst hd), updated_sameShape hd⟩

theorem updateAll_effects (us : List Update) (hn : n < s.forest.size) :
    Effects t s [] (s.updateAll t n us).2 ∧ s.SameShape (s.updateAll t n us).2 := by
  induction us generalizing s with
  | nil => exact ⟨.nil s, .refl s⟩
  | cons u us ih =>
    obtain ⟨he, hs⟩ := update_effects (t := t) u hn
    unfold updateAll
    split
    · rename_i s' h
      rw [h] at he hs
      obtain ⟨he', hs'⟩ := ih (s := s') (by rw [hs.forest.size]; exact hn)
      exact ⟨he.trans he', hs.trans hs'⟩
    · exact ⟨he, hs⟩

theorem setIncomingTag_effects (tag : IncomingTag) (hn : n < s.forest.size) :
    Effects t s [] (s.setIncomingTag t n tag).2 ∧ s.SameShape (s.setIncomingTag t n tag).2 := by
  rcases s.setIncomingTag_cases t n tag with ⟨e, h⟩ | ⟨ho, hk, hst, h⟩ <;> rw [h]
  · exact ⟨.single (.refused n e), .refl _, rfl, rfl⟩
  · dsimp only
    split
    · exact ⟨.snoc (.single (.logged _)) (.tagged n tag hn ho hk hst),
        (tagged_sameShape s n tag).forest, rfl, rfl⟩
    · exact ⟨.single (.tagged n tag hn ho hk hst), tagged_sameShape s n tag⟩

theorem applyIncomingTags_effects (tags : IncomingTags) (hn : n < s.forest.size) :
    Effects t s [] (s.applyIncomingTags t n tags).2 ∧ s.SameShape (s.applyIncomingTags t n tags).2 := by
  unfold applyIncomingTags
  split
  · exact ⟨.single (.warned _), .refl _, rfl, rfl⟩
  · exact setIncomingTag_effects _ hn
  · exact setIncomingTag_effects _ hn
  · exact ⟨.nil s, .refl s⟩

theorem setUp_effects (kind : Kind) (o : TraceOptions) (hn : n < s.forest.size) :
    Effects t s [] (s.setUp t n kind o).2 ∧ s.SameShape (s.setUp t n kind o).2 := by
  obtain ⟨he, hs⟩ := updateAll_effects (t := t) (o.updates kind) hn
  unfold setUp
  split
  · rename_i s' h
    rw [h] at he hs
    split
    · obtain ⟨he', hs'⟩ := applyIncomingTags_effects (s := s') (t := t) o.tags (by rw [hs.forest.size]; exact hn)
      exact ⟨he.trans he', hs.trans hs'⟩
    · exact ⟨he, hs⟩
  · exact ⟨he, hs⟩

theorem markFailed_effects (className message : String) (hn : n < s.forest.size) :
    Effects t s [] (s.markFailed t n className message).2 ∧
      s.SameShape (s.markFailed t n className message).2 := by
  rcases s.markFailed_cases t n className message with ⟨e, h⟩ | ⟨ho, hb, hst, he, h⟩ <;> rw [h]
  · exact ⟨.single (.refused n e), .refl _, rfl, rfl⟩
  · exact ⟨.single (.failed n className message hn ho hb hst he), failed_sameShape s n className message⟩

theorem outgoingTag_effects (form : TagForm) (hn : n < s.forest.size) :
    Effects t s [] (s.outgoingTag t n form).2 := by
  rcases s.outgoingTag_cases t n form with ⟨e, h⟩ | ⟨ho, hk, hst, h⟩ <;> rw [h]
  · exact .single (.refused n e)
  · exact .single (.tagRead n form hn ho hk hst)

theorem addAttribute_effects (key : String) (value : AttributeValue) :
    Effects t s [] (s.addAttribute t key value).2 := by
  rcases s.addAttribute_cases t key value with ⟨e, h⟩ | ⟨hb, n, ha, h⟩ | ⟨hb, ha, m, h⟩ <;> rw [h]
  · exact .nil s
  · exact .single (.attributed n key value hb ha)
  · exact .single (.warned m)

theorem addEach_effects (pairs : List (String × AttributeValue)) :
    Effects t s [] (s.addEach t pairs).2 := by
  induction pairs generalizing s with
  | nil => exact .nil s
  | cons p pairs ih =>
    have he := addAttribute_effects (s := s) (t := t) p.1 p.2
    unfold addEach
    split
    · rename_i s' h
      rw [h] at he
      exact he.trans ih
    · exact he

/-! ## Ending and letting go -/

/-- The path of the thread that emptied between two sessions, by its root. -/
def completions (t : Thread) (s s' : Session) : List NodeRef :=
  match (s.paths.get t).root?, (s'.paths.get t).root? with
  | some root, none => [root]
  | _, _ => []

theorem completions_of_root_eq {s' : Session} (h : (s'.paths.get t).root? = (s.paths.get t).root?) :
    completions t s s' = [] := by
  unfold completions
  rw [h]
  cases (s.paths.get t).root? <;> rfl

theorem completions_congr {s₁ s' s₁' : Session} (h : s₁.paths = s.paths) (h' : s₁'.paths = s'.paths) :
    completions t s₁ s₁' = completions t s s' := by
  unfold completions
  rw [h, h']

/-- What is noted of a completed path. -/
theorem completePath_same (s : Session) (root : NodeRef) :
    (s.completePath root).forest = s.forest ∧ (s.completePath root).paths = s.paths ∧
      (s.completePath root).settings = s.settings ∧ (s.completePath root).agent = s.agent ∧
        (s.completePath root).archive =
          if s.settings.retainCompletedPaths then s.archive.append root else s.archive := by
  unfold completePath
  dsimp only
  split <;> split <;> simp_all [log]

theorem clock_completePath (s : Session) (root : NodeRef) : (s.completePath root).clock = s.clock := by
  unfold completePath
  dsimp only
  split <;> split <;> rfl

theorem metrics_completePath (s : Session) (root : NodeRef) :
    (s.completePath root).metrics = s.metrics.recordPathCompleted := by
  unfold completePath
  dsimp only
  split <;> split <;> rfl

theorem endTracer_effects (hn : n < s.forest.size) :
    Effects t s ((completions t s (s.endTracer t n).2).map .completed) (s.endTracer t n).2 := by
  rcases s.endTracer_cases t n with ⟨e, h⟩ | ⟨ho, hst, h⟩ | ⟨ho, hst, h⟩ | ⟨ho, hst, -, rest, hr, h⟩ <;> rw [h]
  · rw [completions_of_root_eq (by rfl)]
    exact .single (.refused n e)
  · rw [completions_of_root_eq (by rfl)]
    exact .nil s
  · rw [completions_of_root_eq (by rfl)]
    exact .single (.finished n hn ho hst)
  · cases rest with
    | nil =>
      have hc : completions t s ((s.unwound t n []).completePath n) = [n] := by
        simp [completions, (completePath_same _ n).2.1, unwound, Path.root?, hr]
      dsimp only
      rw [if_pos rfl, hc]
      exact .single (.completed n hn ho hst hr)
    | cons below rest =>
      rw [if_neg (by simp), completions_of_root_eq (by simp [unwound, Path.root?, hr])]
      exact .single (.unwound n _ hn ho hst hr (by simp))

theorem drop_effects (hn : n < s.forest.size) : Effects t s [] (s.drop t n) := by
  have hs := released_sameShape s n
  have hn' : n < (s.released n).forest.size := by rwa [hs.forest.size]
  have hr : Effects t s [] (s.released n) := .single (.released n hn)
  have hl : (s.forest.get n).owner = t → (s.forest.get n).state = .started →
      Effects t s [] { s.released n with metrics := s.metrics.recordLeaked } := fun ho hst =>
    hr.snoc (.leaked n hn' ((hs.forest.node n).owner.trans ho) ((hs.forest.node n).state.trans hst))
  rcases s.drop_cases t n with ⟨-, h⟩ | ⟨-, m, h⟩ | ⟨ho, hst, h⟩ | ⟨ho, hst, h | ⟨m, h⟩⟩ <;> rw [h]
  · exact hr
  · exact hr.snoc (.warned m)
  · exact hr.snoc (.discarded n hn' ((hs.forest.node n).owner.trans ho) ((hs.forest.node n).state.trans hst))
  · exact hl ho hst
  · exact (hl ho hst).snoc (.warned m)

/-! ## Scopes -/

theorem attach_effects (failure : Failure) (hn : n < s.forest.size) :
    Effects t s [] (s.attach t n failure) ∧ s.SameShape (s.attach t n failure) := by
  unfold attach
  split
  · exact ⟨.nil s, .refl s⟩
  · obtain ⟨he, hs⟩ := markFailed_effects (t := t) failure.className failure.text hn
    split
    · rename_i s' h
      rw [h] at he hs
      exact ⟨he, hs⟩
    · rename_i e s' h
      rw [h] at he hs
      exact ⟨he.snoc (.warned _), hs.forest, hs.paths, hs.archive⟩

theorem endAfterFailure_effects (hn : n < s.forest.size) :
    Effects t s ((completions t s (s.endAfterFailure t n)).map .completed) (s.endAfterFailure t n) := by
  have he := endTracer_effects (t := t) hn
  unfold endAfterFailure
  split
  · rename_i s' h
    rw [h] at he
    exact he
  · rename_i e s' h
    rw [h] at he
    rw [← List.append_nil (List.map _ _)]
    exact he.trans (.single (.warned _))

theorem leave_effects {α : Type} (outcome : Outcome α) (hn : n < s.forest.size) :
    Effects t s ((completions t s (s.leave t n outcome).2).map .completed) (s.leave t n outcome).2 := by
  -- Attaching the error leaves the paths alone, so only the end can complete one.
  have failing : ∀ failure, Effects t s
      ((completions t s ((s.attach t n failure).endAfterFailure t n)).map .completed)
      ((s.attach t n failure).endAfterFailure t n) := fun failure => by
    obtain ⟨he, hs⟩ := attach_effects (t := t) failure hn
    rw [← completions_congr hs.paths rfl]
    exact he.trans (endAfterFailure_effects (by rwa [hs.forest.size]))
  cases outcome with
  | returned value =>
    have he := endTracer_effects (t := t) hn
    unfold leave
    dsimp only
    split <;> rename_i h <;> rw [h] at he <;> exact he
  | failed failure => exact failing failure
  | interrupted text => exact failing _

/-! ## New tracers -/

theorem get_create (s : Session) (t : Thread) (id : TracerId) (details : Details) (m : NodeRef) :
    (s.create t id details).2.forest.get m = if m = s.forest.size then
      { id, owner := t, details, createdAt := s.clock
        receipt := details.linkTarget.elim .absent TagReceipt.carries, held := true }
    else s.forest.get m :=
  Forest.get_add _ _ m

theorem get_created (s : Session) (t : Thread) (id : TracerId) (details : Details) :
    (s.create t id details).2.forest.get s.forest.size =
      { id, owner := t, details, createdAt := s.clock
        receipt := details.linkTarget.elim .absent TagReceipt.carries, held := true } := by
  rw [get_create, if_pos rfl]

theorem idOf_created (s : Session) (t : Thread) (id : TracerId) (d : Details) :
    (s.create t id d).2.forest.idOf s.forest.size = id :=
  congrArg Node.id (s.get_created t id d)

@[simp] theorem size_create (s : Session) (t : Thread) (id : TracerId) (details : Details) :
    (s.create t id details).2.forest.size = s.forest.size + 1 :=
  Forest.size_add ..

/-- A trace sets its new tracer up, which ends there if that is refused. -/
theorem trace_cases (id : TracerId) {op : Operation} {d : Details} (o : TraceOptions) (hd : op.details = .ok d) :
    ∃ s', Effects t (s.create t id d).2 [] s' ∧ (s.create t id d).2.SameShape s' ∧
      (((s.create t id d).2.setUp t s.forest.size op.kind o = (.ok (), s') ∧
          s.trace t id op o = (.ok s.forest.size, s')) ∨
        ∃ e, (s.create t id d).2.setUp t s.forest.size op.kind o = (.error e, s') ∧
          s.trace t id op o = (.error e, (s'.finish s.forest.size).drop t s.forest.size)) := by
  have hn : s.forest.size < (s.create t id d).2.forest.size := by simp
  obtain ⟨he, hs⟩ := setUp_effects (s := (s.create t id d).2) (t := t) op.kind o hn
  have hnode := hs.forest.node s.forest.size
  rw [get_created] at hnode
  unfold trace createFor
  rw [hd]
  cases hset : (s.create t id d).2.setUp t s.forest.size op.kind o with
  | mk result s' =>
    rw [hset] at he hs hnode
    have hset' : (s.create t id d).2.setUp t (s.create t id d).1 op.kind o = (result, s') := hset
    refine ⟨s', he, hs, ?_⟩
    cases result with
    | ok _ =>
      refine .inl ⟨rfl, ?_⟩
      simp only [hset']
      rfl
    | error e =>
      -- The tracer is still created, so ending it finishes it.
      have hf : s'.endTracer t (s.create t id d).1 = (.ok (), s'.finish s.forest.size) :=
        endTracer_of_created hnode.owner hnode.state
      refine .inr ⟨e, rfl, ?_⟩
      simp only [hset', hf]
      rfl

/-- What a trace does after the creation of its tracer. -/
theorem trace_setUp_effects {id : TracerId} {op : Operation} {d : Details} (o : TraceOptions)
    (hd : op.details = .ok d) : Effects t (s.create t id d).2 [] (s.trace t id op o).2 := by
  obtain ⟨s', he, hs, ⟨-, h⟩ | ⟨e, -, h⟩⟩ := trace_cases (s := s) (t := t) id o hd <;> rw [h]
  · exact he
  · have hnode := hs.forest.node s.forest.size
    rw [get_created] at hnode
    have hn : s.forest.size < s'.forest.size := by
      rw [hs.forest.size]
      simp
    have hdrop : Effects t (s'.finish s.forest.size) [] ((s'.finish s.forest.size).drop t s.forest.size) :=
      drop_effects (by simpa [finish] using hn)
    exact (he.snoc (.finished _ hn hnode.owner hnode.state)).trans hdrop

theorem trace_effects {id : TracerId} (op : Operation) (o : TraceOptions) (hid : id ∉ s.forest.ids) :
    Effects t s (if op.details.isOk then [.born id] else []) (s.trace t id op o).2 := by
  cases hd : op.details with
  | error e =>
    unfold trace createFor
    rw [hd]
    exact .nil s
  | ok d => exact (Effects.single (.created id d hid)).trans (trace_setUp_effects o hd)

end Session

/-! ## Resolution -/

namespace Forest

theorem childRefs_resolve (f : Forest) (consumer producer n : NodeRef) :
    ((f.resolve consumer producer).get n).childRefs = (f.get n).childRefs := by
  unfold resolve
  rw [get_modify_same (p := Node.childRefs), get_modify_same (p := Node.childRefs)]
  · exact fun _ => rfl
  · exact fun m => by simp [Node.childRefs, Node.link, List.filter_append]

theorem preorder_resolve (f : Forest) (consumer producer : NodeRef) :
    (f.resolve consumer producer).preorder = f.preorder :=
  funext (preorder_congr (by simp [resolve]) (f.childRefs_resolve consumer producer))

theorem resolveStep_cases (nodes : List NodeRef) (r : Resolution) (f : Forest) (n : NodeRef) :
    (resolveStep nodes (r, f) n).2 = f ∨ ∃ p ∈ nodes, (f.get n).receipt.id? = some (f.idOf p) ∧
      (f.get n).isResolved = false ∧ (resolveStep nodes (r, f) n).2 = f.resolve n p := by
  unfold resolveStep
  dsimp only
  split
  · exact .inl rfl
  · rename_i hr
    split
    · rename_i p hp
      obtain ⟨id, hid, hp⟩ := Option.bind_eq_some_iff.1 hp
      have hpid : f.idOf p = id := by simpa using List.find?_some hp
      refine .inr ⟨p, List.mem_reverse.1 (List.mem_of_find?_eq_some hp), by rw [hid, hpid], ?_, rfl⟩
      simp only [Bool.or_eq_true, not_or, Bool.not_eq_true] at hr
      exact hr.2
    · exact .inl rfl

end Forest

namespace Session

variable {s : Session} {t : Thread}

/-- A pass links archived nodes one by one; the trees of the archive stay as they are meanwhile. -/
theorem resolveSteps_effects {nodes l : List NodeRef} {x : Resolution × Forest}
    (hn : s.archive.nodes x.2 = nodes) (hl : ∀ n ∈ l, n ∈ nodes) :
    Effects t { s with forest := x.2 } [] { s with forest := (l.foldl (Forest.resolveStep nodes) x).2 } := by
  induction l generalizing x with
  | nil => exact .nil _
  | cons n l ih =>
    obtain ⟨r, f⟩ := x
    have hl' : ∀ m ∈ l, m ∈ nodes := fun m hm => hl m (List.mem_cons_of_mem _ hm)
    rcases Forest.resolveStep_cases nodes r f n with h | ⟨p, hp, hid, hr, h⟩
    · have := ih (x := Forest.resolveStep nodes (r, f) n) (by rw [h]; exact hn) hl'
      rw [h] at this
      exact this
    · subst hn
      -- A link through a tag is no nesting, so the archive has the same nodes as before.
      have := ih (x := Forest.resolveStep (s.archive.nodes f) (r, f) n)
        (by rw [h]; unfold Archive.nodes; rw [f.preorder_resolve]) hl'
      rw [h] at this
      exact (Effects.single (.linked (s := { s with forest := f }) n p (hl n (List.mem_cons_self ..)) hp hid hr)).trans
        this

theorem resolvePass_effects (s : Session) (t : Thread) :
    Effects t s [] { s with forest := (s.forest.resolvePass s.archive).2 } :=
  resolveSteps_effects (x := ({}, s.forest)) rfl fun _ h => h

theorem warnUnresolved_effects (ns : List NodeRef) : Effects t s [] (ns.foldl warnUnresolved s) := by
  induction ns generalizing s with
  | nil => exact .nil s
  | cons n ns ih => exact (Effects.single (.logged _)).trans ((Effects.single (.warned _)).trans ih)

theorem resolve_effects (s : Session) (t : Thread) (warnOfUnresolved : Bool) :
    Effects t s [] (s.resolve warnOfUnresolved).2 := by
  unfold resolve
  dsimp only
  have h := (s.resolvePass_effects t).snoc (.counted (s.forest.resolvePass s.archive).1.linked.length
    (s.forest.resolvePass s.archive).1.unresolved.length)
  split
  · exact h.trans (warnUnresolved_effects _)
  · exact h

end Session

/-! ## The agent as such -/

namespace Agent

theorem activate_record (a : Agent) (options : List String) : (a.activate options).2.record = a.record := by
  obtain ⟨backend, callback⟩ := a
  cases backend with
  | null => rfl
  | recorder r =>
    simp only [activate, record, recorder?, Recorder.activate]
    split
    · rfl
    · split <;> rfl

theorem shutdown_record (a : Agent) : a.shutdown.2.record = a.record := by
  obtain ⟨backend, callback⟩ := a
  cases backend with
  | null => rfl
  | recorder r =>
    simp only [shutdown, record, recorder?, Recorder.shutdown]
    split <;> rfl

theorem setState_record (a : Agent) (state : AgentState) : (a.setState state).record = a.record := by
  obtain ⟨backend, callback⟩ := a
  cases backend <;> rfl

end Agent

namespace Session

variable {s : Session} {t : Thread}

theorem activateAgent_effects (options : List String) : Effects t s [] (s.activateAgent options).2 := by
  have h : Effects t s [] { s with agent := (s.agent.activate options).2 } :=
    .single (.tuned _ (s.agent.activate_record options))
  unfold activateAgent Agent.activationEvents
  dsimp only
  split
  · split
    · exact h.snoc (.logged _)
    · simpa using h
  · simpa using h

theorem shutdownAgent_effects : Effects t s [] s.shutdownAgent.2 :=
  .single (.tuned _ s.agent.shutdown_record)

end Session

/-! ## Every command -/

namespace Step

/-- The marks that a command leaves. -/
def marks (x : Step) : List Mark :=
  match x.command, x.reply with
  | .create id _, _ => [.born id]
  | .trace id op _, _ => if op.details.isOk then [.born id] else []
  | .start n, .done (.ok _) => [.begun n]
  | .drain, _ | .clearArchive, _ => [.taken x.before.archive.roots]
  | .endTracer _, _ | .leave _ _, _ => (Session.completions x.thread x.before x.after).map .completed
  | _, _ => []

theorem effects {x : Step} (h : x.before.Admits x.command) : Effects x.thread x.before x.marks x.after := by
  obtain ⟨s, t, c⟩ := x
  obtain ⟨hheld, hfresh⟩ := h
  have target : ∀ {n}, c.target? = some n → n < s.forest.size := fun hn => (hheld _ hn).1
  cases c with
  | create id d => exact .single (.created id d (hfresh id rfl))
  | trace id op o => exact Session.trace_effects op o (hfresh id rfl)
  | start n =>
    rcases s.start_cases t n with ⟨e, h⟩ | ⟨ho, hst, hk, h⟩ <;>
      simp only [marks, reply, after, Session.perform, h, Prod.map]
    · exact .single (.refused n e)
    · exact .single (.begun n (target rfl) ho hst hk)
  | endTracer n => exact Session.endTracer_effects (target rfl)
  | update n u => exact (Session.update_effects u (target rfl)).1
  | updateAll n us => exact (Session.updateAll_effects us (target rfl)).1
  | markFailed n className message => exact (Session.markFailed_effects className message (target rfl)).1
  | outgoingTag n form => exact Session.outgoingTag_effects form (target rfl)
  | setIncomingTag n tag => exact (Session.setIncomingTag_effects tag (target rfl)).1
  | applyIncomingTags n tags => exact (Session.applyIncomingTags_effects tags (target rfl)).1
  | leave n outcome => exact Session.leave_effects outcome (target rfl)
  | drop n => exact Session.drop_effects (target rfl)
  | addAttribute key value => exact Session.addAttribute_effects key value
  | addAttributes keys values count => exact Session.addEach_effects _
  | createLink => exact .nil s
  | drain => exact .single .emptied
  | clearArchive => exact .single .emptied
  | resolvePending => exact s.resolvePass_effects t
  | resolve warnOfUnresolved => exact s.resolve_effects t warnOfUnresolved
  | activateAgent options => exact Session.activateAgent_effects options
  | shutdownAgent => exact Session.shutdownAgent_effects
  | setAgentState state => exact .single (.tuned _ (s.agent.setState_record state))
  | setCallback installed => exact .single (.tuned _ rfl)
  | warn message => exact .single (.warned message)

end Step

/-- What every effect keeps holds after every run. -/
theorem Run.inv {I : Session → Prop} (hI : ∀ t s ms s', Effect t s ms s' → I s → I s') {s₀ s : Session}
    {log : List Step} (h : Run s₀ s log) (h0 : I s₀) : I s := by
  induction h with
  | nil => exact h0
  | @step s log t c _ hc ih => exact (Step.effects (x := ⟨s, t, c⟩) hc).inv (hI t) ih

end CallPath
