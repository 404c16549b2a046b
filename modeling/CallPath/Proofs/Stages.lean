import CallPath.Proofs.Links
/-!
# The stages of a node

A node is held by its handles, by the node it is nested in, by the archive and by every pass over
it, and each of them may write to it. `Node.Change` lists the writes there are, with the stage at which
each can happen, and all effects are chains of them (`Effect.changes`). So a node only moves on
(`Node.Onward`): its state is never set back, what is settled at the start stays settled, times included,
and a node that has ended only gets links through tags.

The clock never gives one reading twice (`Session.Dated`), so a stage that was entered again would show.

`Run.staged` says so of any two points of a run, and that only passes touch what has ended, and
only what is below a completed root.
-/

namespace CallPath

/-! ## What is settled at the start -/

/-- Whether a tracer can be in the second state at some time after it was in the first. -/
def TracerState.Leads : TracerState → TracerState → Prop
  | created, _ => True
  | started, st => st ≠ created
  | ended, st => st = ended

theorem TracerState.Leads.refl (st : TracerState) : st.Leads st := by
  cases st <;> simp [Leads]

theorem TracerState.Leads.trans {a b c : TracerState} (h : a.Leads b) (h' : b.Leads c) : a.Leads c := by
  cases a <;> cases b <;> cases c <;> simp_all [Leads]

/-- The fields that can only be set before the start. -/
structure EntryFields where
  protocolName : Option String := none
  requestHeaders : List (String × String) := []
  remoteAddress : Option String := none
  deriving DecidableEq

/-- The entry fields of a tracer; a kind that does not have one of them has it empty. -/
def Details.entryFields : Details → EntryFields
  | incomingRemoteCall call | outgoingRemoteCall call => { protocolName := call.protocolName }
  | incomingWebRequest request =>
    { requestHeaders := request.requestHeaders, remoteAddress := request.remoteAddress }
  | outgoingWebRequest request => { requestHeaders := request.requestHeaders }
  | _ => {}

namespace Update

theorem apply_eq_ok {u : Update} {d d' : Details} : u.apply d = .ok d' ↔ u.applied? d = some d' := by
  unfold apply
  cases u.applied? d <;> simp

theorem entryFields_of_apply {u : Update} {d d' : Details} (h : u.apply d = .ok d') (hu : u.field.isEntry = false) :
    d'.entryFields = d.entryFields := by
  rw [apply_eq_ok] at h
  cases u <;> try cases hu
  all_goals
    cases d <;> simp only [applied?, Option.some.injEq, reduceCtorEq] at h
    all_goals
      subst h
      rfl

end Update

/-! ## Changes of one node -/

/-- The writes to a node, each with what was checked of the node before. -/
inductive Node.Change : Node → Node → Prop
  | begun (m : Node) (now : Time) (hst : m.state = .created) : Change m (m.enter .started now)
  | nested (m : Node) (c : NodeRef) (hst : m.state = .started) : Change m (m.link .child c)
  | ended (m : Node) (now : Time) (hst : m.state ≠ .ended) : Change m (m.enter .ended now)
  | updated (m : Node) (u : Update) (details : Details)
      (hst : m.state = .created ∨ (m.state = .started ∧ u.field.isEntry = false))
      (hd : u.apply m.details = .ok details) : Change m { m with details }
  | tagged (m : Node) (receipt : TagReceipt) (hst : m.state = .created) : Change m { m with receipt }
  | failed (m : Node) (e : ErrorInfo) (hst : m.state = .started) (he : m.error = none) :
      Change m { m with error := some e }
  | attributed (m : Node) (attributes : List (String × AttributeValue)) (hst : m.state = .started) :
      Change m { m with attributes }
  | released (m : Node) : Change m { m with held := false }
  | resolved (m : Node) (p : NodeRef) (hst : m.state = .ended) (hp : m.producer = none) :
      Change m { m with producer := some p }
  | tagLinked (m : Node) (c : NodeRef) (hst : m.state = .ended) : Change m (m.link .tagLinked c)

/-- Any number of changes. -/
def Node.Changes : Node → Node → Prop :=
  Relation.ReflTransGen Node.Change

/-- A change of one node is a change, or none, of each node. -/
theorem Forest.changes_modify {f : Forest} {n : NodeRef} {g : Node → Node} (h : (f.get n).Change (g (f.get n)))
    (m : NodeRef) : (f.get m).Changes ((f.modify n g).get m) := by
  rw [get_modify_eq]
  split
  · rename_i e
    rw [← e.1]
    exact .single h
  · exact .refl

theorem Effect.changes {t : Thread} {s s' : Session} {ms : List Mark} (he : Effect t s ms s') (hs : s.Sound)
    {m : NodeRef} (hm : m < s.forest.size) : (s.forest.get m).Changes (s'.forest.get m) := by
  cases he with
  | created id d _ =>
    rw [Session.get_create, if_neg (Nat.ne_of_lt hm)]
    exact .refl
  | begun n _ _ hst _ =>
    have hnest : (s.forest.get m).Changes ((s.forest.nest (s.active? t) n).get m) := by
      cases ha : s.active? t with
      | none => exact .refl
      | some b => exact Forest.changes_modify (.nested _ n (hs.started_of_active ha)) m
    have hst' : ((s.forest.nest (s.active? t) n).get n).state = .created :=
      (Forest.get_nest_same (p := Node.state) (fun _ _ => rfl) s.forest _ n n).trans hst
    exact hnest.trans (Forest.changes_modify (.begun _ _ hst') m)
  | unwound n rest _ _ hst _ _ => exact Forest.changes_modify (.ended _ _ (by simp [hst])) m
  | completed n _ _ hst _ =>
    rw [(Session.completePath_same (s.unwound t n []) n).1]
    exact Forest.changes_modify (.ended _ _ (by simp [hst])) m
  | finished n _ _ hst => exact Forest.changes_modify (.ended _ _ (by simp [hst])) m
  | discarded n _ _ hst => exact Forest.changes_modify (.ended _ _ (by simp [hst])) m
  | released n _ => exact Forest.changes_modify (.released _) m
  | updated n u d _ _ _ hst hd =>
    exact Forest.changes_modify (g := fun m => { m with details := d }) (.updated _ u d hst hd) m
  | failed n className message _ _ _ hst he => exact Forest.changes_modify (.failed _ _ hst he) m
  | tagged n tag _ _ _ hst => exact Forest.changes_modify (.tagged _ _ hst) m
  | attributed n key value _ ha => exact Forest.changes_modify (.attributed _ _ (hs.started_of_active ha)) m
  | linked c p hc hp _ hr =>
    have hnone : (s.forest.get c).producer = none := by simpa [Node.isResolved] using hr
    have hset := Forest.changes_modify (g := fun n => { n with producer := some p })
      (.resolved _ p (hs.ended_of_archived hc) hnone) m
    -- Where a node has its own tag, its entry comes after its producer.
    have hst : ((s.forest.modify c fun n => { n with producer := some p }).get p).state = .ended :=
      (Forest.get_modify_same (g := fun n => { n with producer := some p }) (p := Node.state) (fun _ => rfl)
        s.forest c p).trans (hs.ended_of_archived hp)
    exact hset.trans (Forest.changes_modify (.tagLinked _ c hst) m)
  | _ => exact .refl

/-! ## Moving on -/

/-- The second node is the first one, now or later, and keeps what was settled. -/
structure Node.Onward (m m' : Node) : Prop where
  state : m.state.Leads m'.state
  entry : m.state ≠ .created → m'.details.entryFields = m.details.entryFields
  receipt : m.state ≠ .created → m'.receipt = m.receipt
  error : ∀ e, m.error = some e → m'.error = some e
  producer : ∀ p, m.producer = some p → m'.producer = some p
  createdAt : m'.createdAt = m.createdAt
  startedAt : m.state ≠ .created → m'.startedAt = m.startedAt
  /-- After the end there come only links through tags; `held` is not about the traced operation. -/
  closed : m.state = .ended → ∃ consumers : List NodeRef, m' =
    { m with
      producer := m'.producer
      children := m.children ++ consumers.map (LinkKind.tagLinked, ·)
      held := m'.held }

namespace Node

/-- A node of which nothing changed but what may change after its end. -/
theorem Onward.of_links (m : Node) {producer : Option NodeRef} (hp : ∀ p, m.producer = some p → producer = some p)
    (consumers : List NodeRef) (held : Bool) : m.Onward
      { m with producer, children := m.children ++ consumers.map (LinkKind.tagLinked, ·), held } :=
  ⟨.refl _, fun _ => rfl, fun _ => rfl, fun _ h => h, hp, rfl, fun _ => rfl, fun _ => ⟨consumers, rfl⟩⟩

theorem Onward.refl (m : Node) : m.Onward m := by
  simpa using Onward.of_links m (fun _ h => h) [] m.held

theorem Onward.trans {m m' m'' : Node} (h : m.Onward m') (h' : m'.Onward m'') : m.Onward m'' := by
  have hleft : m.state ≠ .created → m'.state ≠ .created := by
    have hstate := h.state
    cases hm : m.state <;> cases hm' : m'.state <;> simp_all [TracerState.Leads]
  refine ⟨h.state.trans h'.state, ?_, ?_, ?_, ?_, h'.createdAt.trans h.createdAt, ?_, ?_⟩
  · intro hm
    exact (h'.entry (hleft hm)).trans (h.entry hm)
  · intro hm
    exact (h'.receipt (hleft hm)).trans (h.receipt hm)
  · intro e he
    exact h'.error e (h.error e he)
  · intro p hp
    exact h'.producer p (h.producer p hp)
  · intro hm
    exact (h'.startedAt (hleft hm)).trans (h.startedAt hm)
  · intro hm
    have hm' : m'.state = .ended := by
      have hstate := h.state
      rwa [hm] at hstate
    obtain ⟨consumers, e⟩ := h.closed hm
    obtain ⟨consumers', e'⟩ := h'.closed hm'
    refine ⟨consumers ++ consumers', ?_⟩
    rw [e', e]
    simp

theorem Change.onward {m m' : Node} (h : m.Change m') : m.Onward m' := by
  cases h with
  | begun now hst => constructor <;> simp [TracerState.Leads, enter, hst]
  | nested c hst => constructor <;> simp [TracerState.Leads, link, hst]
  | ended now hst => constructor <;> cases hm : m.state <;> simp_all [TracerState.Leads, enter]
  | updated u d hst hd =>
    refine ⟨.refl _, ?_, fun _ => rfl, fun _ h => h, fun _ h => h, rfl, fun _ => rfl, ?_⟩
    · intro hm
      obtain hst | ⟨-, hu⟩ := hst
      · exact absurd hst hm
      · exact Update.entryFields_of_apply hd hu
    · intro hm
      simp [hm] at hst
  | tagged receipt hst => constructor <;> simp [TracerState.Leads, hst]
  | failed e hst he => constructor <;> simp [TracerState.Leads, hst, he]
  | attributed attributes hst => constructor <;> simp [TracerState.Leads, hst]
  | released => simpa using Onward.of_links m (fun _ h => h) [] false
  | resolved p hst hp =>
    have hnew : ∀ q, m.producer = some q → some p = some q := by simp [hp]
    simpa using Onward.of_links m hnew [] m.held
  | tagLinked c hst => exact Onward.of_links m (fun _ h => h) [c] m.held

theorem Changes.onward {m m' : Node} (h : m.Changes m') : m.Onward m' := by
  induction h with
  | refl => exact .refl m
  | tail _ hc ih => exact ih.trans hc.onward

/-- Links by nesting come before links through tags, which only a node that has ended gets. -/
structure Ordered (m : Node) : Prop where
  children : m.children = m.childRefs.map (LinkKind.child, ·) ++ m.tagLinkedRefs.map (LinkKind.tagLinked, ·)
  running : m.state ≠ .ended → m.tagLinkedRefs = []

theorem Change.ordered {m m' : Node} (h : m.Change m') (hm : m.Ordered) : m'.Ordered := by
  obtain ⟨hc, hr⟩ := hm
  cases h with
  | nested c hst =>
    have hnone := hr (by simp [hst])
    have hrefs : (m.link .child c).childRefs = m.childRefs ++ [c] := by simp [childRefs, link, List.filter_append]
    have htags : (m.link .child c).tagLinkedRefs = [] := by
      rw [← hnone]
      simp [tagLinkedRefs, link, List.filter_append]
    refine ⟨?_, fun _ => htags⟩
    rw [hrefs, htags]
    rw [hnone] at hc
    simpa [link] using hc
  | tagLinked c hst =>
    have hrefs : (m.link .tagLinked c).childRefs = m.childRefs := by simp [childRefs, link, List.filter_append]
    have htags : (m.link .tagLinked c).tagLinkedRefs = m.tagLinkedRefs ++ [c] := by
      simp [tagLinkedRefs, link, List.filter_append]
    refine ⟨?_, fun h => absurd hst h⟩
    rw [hrefs, htags, List.map_append, ← List.append_assoc, ← hc]
    rfl
  | begun now hst => exact ⟨hc, fun _ => hr (by simp [hst])⟩
  | ended now hst => exact ⟨hc, fun _ => hr hst⟩
  | _ => exact ⟨hc, hr⟩

theorem ordered_of_childless {m : Node} (h : m.children = []) : m.Ordered := by
  constructor <;> simp [childRefs, tagLinkedRefs, h]

end Node

/-- Every node of the first forest is in the second, and has only moved on. -/
def Forest.Onward (f f' : Forest) : Prop :=
  f.size ≤ f'.size ∧ ∀ n < f.size, (f.get n).Onward (f'.get n)

theorem Forest.Onward.refl (f : Forest) : f.Onward f :=
  ⟨Nat.le_refl _, fun _ _ => .refl _⟩

theorem Forest.Onward.trans {f f' f'' : Forest} (h : f.Onward f') (h' : f'.Onward f'') : f.Onward f'' := by
  refine ⟨Nat.le_trans h.1 h'.1, ?_⟩
  intro n hn
  exact (h.2 n hn).trans (h'.2 n (Nat.lt_of_lt_of_le hn h.1))

theorem Effect.onward {t : Thread} {s s' : Session} {ms : List Mark} (he : Effect t s ms s') (hs : s.Sound) :
    s.forest.Onward s'.forest :=
  ⟨he.later.size, fun _ hn => (he.changes hs hn).onward⟩

theorem Effects.onward {t : Thread} {s s' : Session} {ms : List Mark} (h : Effects t s ms s') (hs : s.Sound) :
    s.forest.Onward s'.forest := by
  induction h with
  | nil => exact .refl _
  | cons he _ ih => exact (he.onward hs).trans (ih (he.sound hs))

section

/-- New nodes have the property, and every change keeps it. -/
structure Node.Lasts (P : Node → Prop) : Prop where
  blank : P .blank
  new : ∀ id owner details createdAt receipt, P { id, owner, details, createdAt, receipt, held := true }
  change : ∀ m m', Node.Change m m' → P m → P m'

variable {P : Node → Prop} (hP : Node.Lasts P)

include hP

theorem Effect.lasts {t : Thread} {s s' : Session} {ms : List Mark} (he : Effect t s ms s') (hs : s.Sound)
    (h : ∀ n, P (s.forest.get n)) (n : NodeRef) : P (s'.forest.get n) := by
  rcases Nat.lt_or_ge n s.forest.size with hn | hn
  · have hchanges := he.changes hs hn
    generalize s'.forest.get n = m at hchanges ⊢
    induction hchanges with
    | refl => exact h n
    | tail _ hc ih => exact hP.change _ _ hc ih
  · rcases he.size_eq with hsize | ⟨id, d, rfl⟩
    · rw [Forest.get_of_size_le (hsize ▸ hn)]
      exact hP.blank
    · rw [Session.get_create]
      split
      · exact hP.new ..
      · exact h n

theorem Run.lasts {s₀ s : Session} {log : List Step} (h : Run s₀ s log) (h0 : s₀.IsNew) (n : NodeRef) :
    P (s.forest.get n) := by
  refine (h.inv (I := fun s => s.Sound ∧ ∀ n, P (s.forest.get n))
    (fun t s ms s' he hI => ⟨he.sound hI.1, he.lasts hP hI.1 hI.2⟩) ⟨h0.sound, ?_⟩).2 n
  intro m
  rw [h0.get_forest]
  exact hP.blank

end

/-! ## Times -/

/-- The times of a node were read before now and in the order of its stages, and its state tells which of them
there are. -/
structure Node.Dated (m : Node) (now : Time) : Prop where
  created : m.createdAt < now
  started : ∀ a, m.startedAt = some a → m.createdAt < a ∧ a < now
  ended : ∀ b, m.endedAt = some b → m.createdAt < b ∧ b < now ∧ ∀ a, m.startedAt = some a → a < b
  known : (m.state = .created → m.startedAt = none) ∧ (m.state = .started → m.hasStartTime = true) ∧
    (m.state = .ended ↔ m.hasEndTime = true)

/-- The stage of a node and its times. -/
def Node.dates (m : Node) : TracerState × Time × Option Time × Option Time :=
  (m.state, m.createdAt, m.startedAt, m.endedAt)

namespace Node.Dated

variable {m m' : Node} {now now' : Time}

theorem of_dates (h : m.Dated now) (e : m'.dates = m.dates) : m'.Dated now := by
  simp only [dates, Prod.mk.injEq] at e
  obtain ⟨hstate, hcreated, hstarted, hended⟩ := e
  obtain ⟨h1, h2, h3, h4⟩ := h
  constructor <;> simpa only [hstate, hcreated, hstarted, hended, hasStartTime, hasEndTime]

theorem later (h : m.Dated now) (hle : now ≤ now') : m.Dated now' where
  created := Nat.lt_of_lt_of_le h.created hle
  started a ha := ⟨(h.started a ha).1, Nat.lt_of_lt_of_le (h.started a ha).2 hle⟩
  ended b hb := ⟨(h.ended b hb).1, Nat.lt_of_lt_of_le (h.ended b hb).2.1 hle, (h.ended b hb).2.2⟩
  known := h.known

theorem begun (h : m.Dated now) (hst : m.state = .created) : (m.enter .started now).Dated (now + 1) := by
  have hnone : m.endedAt = none := by
    have hiff := h.known.2.2
    rw [hst] at hiff
    simpa [hasEndTime] using hiff
  refine ⟨Nat.lt_succ_of_lt h.created, ?_, ?_, ?_⟩
  · rintro _ ⟨⟩
    exact ⟨h.created, Nat.lt_succ_self now⟩
  · intro b hb
    simp [enter, hnone] at hb
  · simp [enter, hasStartTime, hasEndTime, hnone]

theorem finished (h : m.Dated now) : (m.enter .ended now).Dated (now + 1) := by
  refine ⟨Nat.lt_succ_of_lt h.created, ?_, ?_, ?_⟩
  · intro a ha
    exact ⟨(h.started a ha).1, Nat.lt_succ_of_lt (h.started a ha).2⟩
  · rintro _ ⟨⟩
    exact ⟨h.created, Nat.lt_succ_self now, fun a ha => (h.started a ha).2⟩
  · simp [enter, hasEndTime]

end Node.Dated

/-- All times in a session were read before now, and no node has one reading twice. -/
def Session.Dated (s : Session) : Prop :=
  ∀ n < s.forest.size, (s.forest.get n).Dated s.clock

namespace Session.Dated

variable {s s' : Session}

/-- Nothing was started or ended. -/
theorem keep (h : s.Dated) (hsize : s'.forest.size = s.forest.size) (hclock : s'.clock = s.clock)
    (hm : ∀ m, (s'.forest.get m).dates = (s.forest.get m).dates) : s'.Dated := by
  intro m hlt
  rw [hclock]
  exact (h m (hsize ▸ hlt)).of_dates (hm m)

/-- One node came to a new stage. -/
theorem enter (h : s.Dated) {f : Forest} {n : NodeRef} {st : TracerState}
    (hforest : s'.forest = f.modify n (·.enter st s.clock)) (hclock : s'.clock = s.clock + 1)
    (hsize : f.size = s.forest.size) (hm : ∀ m, (f.get m).dates = (s.forest.get m).dates)
    (hn : (f.get n).Dated s.clock → ((f.get n).enter st s.clock).Dated (s.clock + 1)) : s'.Dated := by
  intro m hlt
  rw [hforest, Forest.size_modify] at hlt
  have hold := (h m (hsize ▸ hlt)).of_dates (hm m)
  rw [hforest, hclock, Forest.get_modify_eq]
  split
  · rename_i e
    obtain ⟨rfl, -⟩ := e
    exact hn hold
  · exact hold.later (Nat.le_succ _)

theorem created (h : s.Dated) (t : Thread) (id : TracerId) (d : Details) : (s.create t id d).2.Dated := by
  have hclock : (s.create t id d).2.clock = s.clock + 1 := rfl
  intro m hlt
  rw [hclock, get_create]
  split
  · refine ⟨Nat.lt_succ_self _, nofun, nofun, ?_⟩
    simp [Node.hasEndTime]
  · rename_i hne
    rw [size_create] at hlt
    exact (h m (Nat.lt_of_le_of_ne (Nat.le_of_lt_succ hlt) hne)).later (Nat.le_succ _)

end Session.Dated

theorem Effect.dated {t : Thread} {s s' : Session} {ms : List Mark} (he : Effect t s ms s') (h : s.Dated) :
    s'.Dated := by
  have modified : ∀ {n : NodeRef} {g : Node → Node}, (∀ m : Node, (g m).dates = m.dates) →
      s'.forest = s.forest.modify n g → s'.clock = s.clock → s'.Dated := by
    intro n g hg hforest hclock
    refine h.keep (by rw [hforest, Forest.size_modify]) hclock ?_
    rw [hforest]
    exact Forest.get_modify_same hg s.forest n
  cases he with
  | created id d _ => exact h.created t id d
  | begun n _ _ hst _ =>
    have hnest := Forest.get_nest_same (p := Node.dates) (fun _ _ => rfl) s.forest (s.active? t) n
    have hst' : ((s.forest.nest (s.active? t) n).get n).state = .created :=
      (congrArg Prod.fst (hnest n)).trans hst
    exact h.enter rfl rfl (Forest.size_nest ..) hnest fun hn => hn.begun hst'
  | completed n _ _ _ _ =>
    have hforest := (Session.completePath_same (s.unwound t n []) n).1
    exact h.enter hforest (Session.clock_completePath _ n) rfl (fun _ => rfl) .finished
  | unwound n rest _ _ _ _ _ => exact h.enter (n := n) rfl rfl rfl (fun _ => rfl) .finished
  | finished n _ _ _ => exact h.enter (n := n) rfl rfl rfl (fun _ => rfl) .finished
  | discarded n _ _ _ => exact h.enter (n := n) rfl rfl rfl (fun _ => rfl) .finished
  | linked c p _ _ _ _ =>
    exact h.keep (Forest.size_resolve ..) rfl
      (Forest.get_resolve_same (q := Node.dates) (fun _ _ => rfl) (fun _ _ => rfl) s.forest c p)
  | released n _ => exact modified (g := fun m => { m with held := false }) (fun _ => rfl) rfl rfl
  | updated n u d _ _ _ _ _ => exact modified (g := fun m => { m with details := d }) (fun _ => rfl) rfl rfl
  | failed n className message _ _ _ _ _ =>
    exact modified (g := fun m => { m with error := some ⟨className, message⟩ }) (fun _ => rfl) rfl rfl
  | tagged n tag _ _ _ _ =>
    exact modified (g := fun m => { m with receipt := .ofDecoded tag.decode }) (fun _ => rfl) rfl rfl
  | attributed n key value _ _ =>
    exact modified (g := fun m => { m with attributes := m.attributes ++ [(key, value)] }) (fun _ => rfl) rfl rfl
  | _ => exact h

theorem Run.dated {s₀ s : Session} {log : List Step} (h : Run s₀ s log) (h0 : s₀.IsNew) : s.Dated := by
  refine h.inv (I := Session.Dated) (fun _ _ _ _ he hI => he.dated hI) ?_
  intro n hn
  rw [h0.forest] at hn
  exact absurd hn (Nat.not_lt_zero n)

/-! ## Passes and the nodes they touch -/

theorem Effect.archived {t : Thread} {s s' : Session} {ms : List Mark} (he : Effect t s ms s') (hs : s.Sound) :
    ∀ r ∈ s'.archive.roots, r ∈ s.archive.roots ∨ r ∈ ms.flatMap Mark.completes := by
  intro r hr
  cases he.shift hs with
  | steady _ k => exact .inl (k.archive ▸ hr)
  | begun n _ _ _ _ => exact .inl hr
  | unwound n rest _ _ => exact .inl hr
  | completed n _ =>
    rw [(Session.completePath_same (s.unwound t n []) n).2.2.2.2] at hr
    split at hr
    · exact List.mem_append.1 hr
    · exact .inl hr
  | emptied => cases hr

theorem Effects.archived {t : Thread} {s s' : Session} {ms : List Mark} (h : Effects t s ms s') (hs : s.Sound) :
    ∀ r ∈ s'.archive.roots, r ∈ s.archive.roots ∨ r ∈ ms.flatMap Mark.completes := by
  induction h with
  | nil => exact fun r hr => .inl hr
  | cons he _ ih =>
    intro r hr
    rw [List.flatMap_append, List.mem_append]
    rcases ih (he.sound hs) r hr with hr | hr
    · exact (he.archived hs r hr).imp_right .inl
    · exact .inr (.inr hr)

/-- What is in the archive was completed. -/
theorem Run.archived {s₀ s : Session} {log : List Step} (h : Run s₀ s log) (h0 : s₀.IsNew) :
    ∀ r ∈ s.archive.roots, r ∈ log.flatMap Step.completed := by
  induction h with
  | nil => simp [h0.archive]
  | @step s log t c h hc ih =>
    intro r hr
    have harch := (Step.effects (x := ⟨s, t, c⟩) hc).archived (h.sound h0) r hr
    rw [Step.completes_marks hc] at harch
    rw [List.flatMap_append, List.flatMap_singleton, List.mem_append]
    exact harch.imp_left (ih r)

namespace Step

variable {x : Step}

/-- Without a pass, what has ended is left alone. -/
theorem still_of_ended (hs : x.before.Sound) (ha : x.before.Admits x.command) (hc : x.command.isPass = false)
    {n : NodeRef} (hn : n < x.before.forest.size) (hst : (x.before.forest.get n).state = .ended) :
    x.after.forest.get n = { x.before.forest.get n with held := (x.after.forest.get n).held } := by
  have hlinks : (x.after.forest.get n).links = (x.before.forest.get n).links := (keeps_links hc).1 n
  obtain ⟨consumers, e⟩ := (((effects ha).onward hs).2 n hn).closed hst
  have hproducer : (x.after.forest.get n).producer = (x.before.forest.get n).producer := congrArg Prod.fst hlinks
  have htags : (x.before.forest.get n).tagLinkedRefs ++ consumers = (x.before.forest.get n).tagLinkedRefs := by
    have hrefs : (x.after.forest.get n).tagLinkedRefs = (x.before.forest.get n).tagLinkedRefs :=
      congrArg Prod.snd hlinks
    rw [e] at hrefs
    simpa [Node.tagLinkedRefs, List.filter_append, List.filter_map, Function.comp_def] using hrefs
  obtain rfl : consumers = [] := List.append_right_eq_self.1 htags
  rw [e, hproducer]
  simp

/-- A pass touches archived nodes only. -/
theorem archived_of_touched (hs : x.before.Sound) (hf : x.before.Filed) (hc : x.command.isPass = true) {n : NodeRef}
    (hn : x.after.forest.get n ≠ x.before.forest.get n) : n ∈ x.before.archive.nodes x.before.forest := by
  by_contra hnot
  have hnodup := hs.archived_nodup hf
  have hlt : ∀ m ∈ x.before.archive.nodes x.before.forest, m < x.before.forest.size := fun m => hs.lt_of_archived
  apply hn
  rw [(pass_eq hc).1, (Forest.links_resolvePass hnodup hlt).get]
  -- It is neither a consumer nor a producer.
  have hconsumer : n ∉ x.before.forest.linkable (x.before.archive.nodes x.before.forest) := fun h =>
    hnot (Forest.mem_linkable.1 h).1
  have hproducer : ∀ m, x.before.forest.producerAmong (x.before.archive.nodes x.before.forest) m ≠ some n := fun m h =>
    hnot (Forest.producerAmong_some h).1
  simp [Forest.linkedNode, Forest.entriesOf, hconsumer, hproducer]

end Step

/-! ## Staged runs -/

/-- How the nodes of a session changed along its log. -/
structure Session.Staged (s : Session) (log : List Step) : Prop where
  /-- Between any two points of the run, the last one included, nodes have only moved on. -/
  onward : (log.map Step.before ++ [s]).Pairwise fun a b => a.forest.Onward b.forest
  /-- What has ended is left alone by everything but passes. -/
  still : ∀ x ∈ log, x.command.isPass = false → ∀ n < x.before.forest.size,
    (x.before.forest.get n).state = .ended →
      x.after.forest.get n = { x.before.forest.get n with held := (x.after.forest.get n).held }
  /-- A pass touches what is below the roots in its archive, all completed before, and has ended. -/
  pass : ∀ l x l', log = l ++ x :: l' → x.command.isPass = true → ∀ n,
    x.after.forest.get n ≠ x.before.forest.get n → (x.before.forest.get n).state = .ended ∧
      ∃ r ∈ x.before.archive.roots, r ∈ l.flatMap Step.completed ∧ x.before.forest.Below r n
  ordered : ∀ n, (s.forest.get n).Ordered
  /-- A node is dated once for each stage it has come to. -/
  dated : s.Dated

theorem Run.onward {s₀ s : Session} {log : List Step} (h : Run s₀ s log) (h0 : s₀.IsNew) :
    (log.map Step.before ++ [s]).Pairwise fun a b => a.forest.Onward b.forest := by
  induction h with
  | nil => exact List.pairwise_singleton _ _
  | @step s log t c h hc ih =>
    have hlast := (Step.effects (x := ⟨s, t, c⟩) hc).onward (h.sound h0)
    rw [List.map_append, List.map_singleton]
    refine List.pairwise_append.2 ⟨ih, List.pairwise_singleton _ _, ?_⟩
    intro a ha b hb
    rw [List.mem_singleton.1 hb]
    rcases List.mem_append.1 ha with ha | ha
    · exact ((List.pairwise_append.1 ih).2.2 a ha s (by simp)).trans hlast
    · rw [List.mem_singleton.1 ha]
      exact hlast

theorem Node.ordered_lasts : Lasts Ordered where
  blank := ordered_of_childless rfl
  new _ _ _ _ _ := ordered_of_childless rfl
  change _ _ hc h := hc.ordered h

/-- However a session is used, its nodes go through their stages once. What is settled at the start
or by an error stays as it is, and once a node has ended only passes over an archive that holds it
touch it. -/
theorem Run.staged {s₀ s : Session} {log : List Step} (h : Run s₀ s log) (h0 : s₀.IsNew) : s.Staged log where
  onward := h.onward h0
  still x hx hc n hn hst := by
    obtain ⟨⟨l, hl⟩, ha⟩ := h.of_mem hx
    exact Step.still_of_ended (hl.sound h0) ha hc hn hst
  pass l x l' e hc n hn := by
    obtain ⟨hl, -⟩ := h.split l x l' e
    have hs := hl.sound h0
    have hmem := Step.archived_of_touched hs (hl.filed h0) hc hn
    obtain ⟨r, hr, hbelow⟩ := List.mem_flatMap.1 hmem
    exact ⟨hs.ended_of_archived hmem, r, hr, hl.archived h0 r hr, Forest.below_of_mem_preorder hbelow⟩
  ordered n := h.lasts Node.ordered_lasts h0 n
  dated := h.dated h0

theorem staged_taggedProgram :
    let s₀ : Session := { name := "session" }
    (s₀.played taggedProgram).Staged (s₀.play taggedProgram) ∧
      ((s₀.play taggedProgram).map fun x => (x.before.forest.get 3).state).dedup = [.created, .started, .ended] ∧
      ((s₀.play taggedProgram).filter fun x => x.command.isPass).map (fun x =>
        ((x.before.forest.get 3).producer, (x.after.forest.get 3).children)) =
          [(none, []), (none, [(.tagLinked, 3)]), (some 3, [(.tagLinked, 3)]), (some 3, [(.tagLinked, 3)])] ∧
      ((s₀.played taggedProgram).forest.get 3).dates = (.ended, 3, some 12, some 13) := by
  have hnew : Session.IsNew { name := "session" } := ⟨rfl, rfl, rfl, rfl, by rintro r ⟨⟩⟩
  have hstart : Run { name := "session" } { name := "session" } [] := .nil
  have hrun := hstart.played taggedProgram (by decide +kernel)
  exact ⟨Run.staged hrun hnew, by decide +kernel, by decide +kernel, by decide +kernel⟩

end CallPath
