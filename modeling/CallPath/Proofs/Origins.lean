import CallPath.Proofs.Accounts
import CallPath.Proofs.Holding
import CallPath.Proofs.TagForms
/-!
# Links follow the order of the starts

A tracer starts inside one that runs already, a tag is handed out only while its tracer runs, and it is
given to a tracer only before that one starts. So where all tags and links are used as they were
handed out (`Sourced`), every link of either kind leads from a tracer to one that began later
(`Run.before_of_holds`), whichever order the trees are completed and resolved in. Neither the depth of a
node nor the order of the archive would do as a measure: links through tags go from tree to tree, and back.
-/

namespace CallPath

/-! ## Orders -/

/-- `c` is in the list, and `p` is in it before `c`. -/
def Before (order : List NodeRef) (p c : NodeRef) : Prop :=
  c ∈ order ∧ order.idxOf p < order.idxOf c

namespace Before

variable {order : List NodeRef} {p c n : NodeRef}

theorem left_mem (h : Before order p c) : p ∈ order :=
  List.idxOf_lt_length_iff.1 (Nat.lt_of_lt_of_le h.2 List.idxOf_le_length)

theorem trans (h : Before order p c) (h' : Before order c n) : Before order p n :=
  ⟨h'.1, Nat.lt_trans h.2 h'.2⟩

theorem append (h : Before order p c) (l : List NodeRef) : Before (order ++ l) p c := by
  refine ⟨List.mem_append_left l h.1, ?_⟩
  rw [List.idxOf_append_of_mem h.left_mem, List.idxOf_append_of_mem h.1]
  exact h.2

theorem snoc (hp : p ∈ order) (hc : c ∉ order) : Before (order ++ [c]) p c := by
  refine ⟨by simp, ?_⟩
  rw [List.idxOf_append_of_mem hp, List.idxOf_append_of_notMem hc]
  exact Nat.lt_of_lt_of_le (List.idxOf_lt_length_iff.2 hp) (Nat.le_add_right _ _)

end Before

/-- Links that follow an order form no cycle. -/
theorem Forest.isAcyclic_of_before {f : Forest} {order : List NodeRef} (h : ∀ p c, f.Holds p c → Before order p c) :
    f.IsAcyclic := by
  have hchain : ∀ {a b}, Relation.TransGen f.Holds a b → Before order a b := by
    intro a b hab
    induction hab with
    | single hab => exact h _ _ hab
    | tail _ hbc ih => exact ih.trans (h _ _ hbc)
  intro n hn
  exact Nat.lt_irrefl _ (hchain hn).2

/-- Links are never taken away, so a cycle would stay. -/
theorem Forest.IsAcyclic.earlier {f f' : Forest} (h : f'.IsAcyclic) (hl : f.Later f') : f.IsAcyclic := by
  have hholds : ∀ p c, f.Holds p c → f'.Holds p c := by
    intro p c hpc
    have hp := lt_size_of_holds hpc
    obtain ⟨kind, hc⟩ := hpc
    exact ⟨kind, (hl.node p hp).children.subset hc⟩
  intro n hn
  exact h n (Relation.TransGen.mono hholds _ _ hn)

/-! ## The order of the starts -/

/-- The tracers that began, in this order. -/
structure Session.Begins (s : Session) (order : List NodeRef) : Prop where
  mem_iff : ∀ n, n ∈ order ↔ (s.forest.get n).hasStartTime = true
  nests : ∀ p c, s.forest.Nests p c → Before order p c
  resolved : ∀ n p, (s.forest.get n).producer = some p → n ∈ order

namespace Session.Begins

variable {s s' : Session} {order : List NodeRef}

theorem of_same (h : s.Begins order)
    (ht : ∀ n, (s'.forest.get n).hasStartTime = (s.forest.get n).hasStartTime)
    (hc : ∀ n, (s'.forest.get n).childRefs = (s.forest.get n).childRefs)
    (hr : ∀ n p, (s'.forest.get n).producer = some p → n ∈ order) : s'.Begins order where
  mem_iff n := by
    rw [ht]
    exact h.mem_iff n
  nests p c hpc := by
    rw [Forest.nests_congr hc] at hpc
    exact h.nests p c hpc
  resolved := hr

theorem not_mem (h : s.Begins order) {n : NodeRef} (hn : (s.forest.get n).hasStartTime = false) : n ∉ order := by
  rw [h.mem_iff, hn]
  exact Bool.false_ne_true

theorem lt_size (h : s.Begins order) {n : NodeRef} (hn : n ∈ order) : n < s.forest.size := by
  rw [h.mem_iff] at hn
  by_contra hlt
  rw [Forest.get_of_size_le (Nat.le_of_not_lt hlt)] at hn
  cases hn

theorem not_created (h : s.Begins order) (hs : s.Sound) {n : NodeRef} (hn : n ∈ order) :
    (s.forest.get n).state ≠ .created := by
  intro hst
  exact h.not_mem (hs.fresh n hst) hn

theorem mem_of_started (h : s.Begins order) (hs : s.Sound) {n : NodeRef} (hst : (s.forest.get n).state = .started) :
    n ∈ order :=
  (h.mem_iff n).2 (hs.begun n hst)

/-- One more tracer starts. -/
theorem begin (h : s.Begins order) (hs : s.Sound) {t : Thread} {n : NodeRef} (hst : (s.forest.get n).state = .created)
    (hr : ∀ m p, ((s.begun t n).forest.get m).producer = some p → m ∈ order) : (s.begun t n).Begins (order ++ [n]) where
  mem_iff m := by
    rw [List.mem_append, List.mem_singleton, h.mem_iff]
    by_cases e : m = n
    · subst e
      simp [get_begun hs hst]
    · rw [(get_begun_other hs hst e).2]
      simp [e]
  nests p c hpc := by
    rcases (nests_begun hs hst p c).1 hpc with hpc | ⟨ha, rfl⟩
    · exact (h.nests p c hpc).append _
    · exact .snoc (h.mem_of_started hs (hs.started_of_active ha)) (h.not_mem (hs.fresh c hst))
  resolved m p hp := List.mem_append_left _ (hr m p hp)

/-- What a pass links has begun, because it is archived. -/
theorem mem_of_resolved (h : s.Begins order) (hs : s.Sound) {t : Thread} {ms : List Mark} (he : Effect t s ms s')
    {n p : NodeRef} (hp : (s'.forest.get n).producer = some p) : n ∈ order := by
  rcases he.links_cases with hk | ⟨c, q, hc, hq, -, -, rfl⟩
  · have hsame : (s'.forest.get n).producer = (s.forest.get n).producer := congrArg Prod.fst (hk n)
    exact h.resolved n p (hsame ▸ hp)
  · by_cases e : n = c
    · rw [e]
      exact (h.mem_iff c).2 (hs.begun_of_archived hc)
    · refine h.resolved n p ?_
      simpa [Forest.get_resolve (hs.lt_of_archived hc) (hs.lt_of_archived hq), e] using hp

end Session.Begins

theorem Effect.begins {t : Thread} {s s' : Session} {ms : List Mark} (he : Effect t s ms s') (hs : s.Sound)
    {order : List NodeRef} (h : s.Begins order) : s'.Begins (order ++ ms.flatMap Mark.begins) := by
  have hresolved := fun n p => h.mem_of_resolved hs he (n := n) (p := p)
  cases he.shift hs with
  | steady hms k =>
    have hnone : ms.flatMap Mark.begins = [] := by
      rcases hms with rfl | ⟨id, rfl⟩ <;> rfl
    rw [hnone, List.append_nil]
    exact h.of_same k.hasStartTime k.childRefs hresolved
  | begun n _ _ hst _ => exact h.begin hs hst hresolved
  | unwound n rest _ _ =>
    rw [List.flatMap_nil, List.append_nil]
    exact h.of_same (Session.get_unwound_same (fun _ _ => by simp) s t n rest)
      (Session.get_unwound_same (fun _ _ => rfl) s t n rest) hresolved
  | completed n _ =>
    have hf := (Session.completePath_same (s.unwound t n []) n).1
    have htime := Session.get_unwound_same (p := Node.hasStartTime) (fun _ _ => by simp) s t n []
    have hrefs := Session.get_unwound_same (p := Node.childRefs) (fun _ _ => rfl) s t n []
    rw [← hf] at htime hrefs
    simpa [Mark.begins] using h.of_same htime hrefs hresolved
  | emptied =>
    show Session.Begins _ (order ++ [])
    rw [List.append_nil]
    exact h.of_same (fun _ => rfl) (fun _ => rfl) hresolved

theorem Effects.begins {t : Thread} {s s' : Session} {ms : List Mark} (he : Effects t s ms s') (hs : s.Sound)
    {order : List NodeRef} (h : s.Begins order) : s'.Begins (order ++ ms.flatMap Mark.begins) := by
  induction he generalizing order with
  | nil => simpa using h
  | cons he _ ih => simpa [List.flatMap_append, List.append_assoc] using ih (he.sound hs) (he.begins hs h)

theorem Run.begins {s₀ s : Session} {log : List Step} (h : Run s₀ s log) (h0 : s₀.IsNew) :
    s.Begins (log.flatMap Step.begun) := by
  induction h with
  | nil =>
    have hnode := h0.get_forest
    constructor <;> simp [hnode, Node.blank, Node.hasStartTime, Forest.Nests, Node.childRefs]
  | @step s log t c h ha ih =>
    have hbegins := (Step.effects (x := ⟨s, t, c⟩) ha).begins (h.sound h0) ih
    rw [Step.begins_marks] at hbegins
    rw [List.flatMap_append, List.flatMap_singleton]
    exact hbegins

/-! ## What tracers are told -/

namespace Session

variable {s s' : Session} {t : Thread} {n : NodeRef}

/-- If the set-up of a tracer is refused, it was given no tag. -/
theorem setUp_refused {kind : Kind} {o : TraceOptions} {e : UsageError} (hn : n < s.forest.size)
    (h : s.setUp t n kind o = (.error e, s')) : (s'.forest.get n).receipt = (s.forest.get n).receipt := by
  have hkeep := updateAll_keeps (s := s) (t := t) (n := n) receipt_inert.toUntouched (o.updates kind)
  have hsize := (updateAll_effects (s := s) (t := t) (o.updates kind) hn).2.forest.size
  unfold setUp at h
  cases hu : s.updateAll t n (o.updates kind) with
  | mk result s₁ =>
    rw [hu] at h hkeep hsize
    cases result with
    | error e =>
      cases h
      exact hkeep n
    | ok _ =>
      dsimp only at h
      split at h
      · rcases applyIncomingTags_given (s := s₁) (t := t) o.tags (hsize ▸ hn) with ⟨e', h'⟩ | ⟨s₂, h', -⟩
        · rw [h'] at h
          cases h
          exact hkeep n
        · rw [h'] at h
          cases h
      · cases h

/-- The tracer of a trace knows of the one it was created from, unless the trace gives it a tag. -/
theorem trace_receipt_of_new {id : TracerId} {op : Operation} {o : TraceOptions} {d : Details} (hd : op.details = .ok d)
    (ht : (s.trace t id op o).1 = .ok s.forest.size → o.tagFor op.kind = none) :
    ((s.trace t id op o).2.forest.get s.forest.size).receipt = (Birth.mk id t d).receipt := by
  have hn : s.forest.size < (s.create t id d).2.forest.size := by simp
  have hcreated : ((s.create t id d).2.forest.get s.forest.size).receipt = (Birth.mk id t d).receipt := by
    rw [get_created]
    rfl
  obtain ⟨s', -, -, ⟨hset, h⟩ | ⟨e, hset, h⟩⟩ := trace_cases (s := s) (t := t) id o hd
  · have hgiven := setUp_given op.kind o hn hset
    rw [h] at ht ⊢
    rw [ht rfl] at hgiven
    exact hgiven.trans hcreated
  · have hfinish : Keeps Node.receipt s' (s'.finish s.forest.size) :=
      .of_modify (g := (·.enter .ended s'.clock)) (fun _ => rfl) rfl
    rw [h]
    have hwork := receipt_inert.toUntouched
    exact ((hfinish.trans (drop_keeps hwork)) s.forest.size).trans ((setUp_refused hn hset).trans hcreated)

end Session

namespace Step

variable {x : Step} {n : NodeRef} {id : TracerId}

/-- A new tracer that is given no tag knows of the one it was created from, and of no other. -/
theorem receipt_of_birth {b : Birth} (hb : x.births = [b]) (hg : ∀ g ∈ x.tagsGiven, g.1 ≠ x.before.forest.size) :
    (x.after.forest.get x.before.forest.size).receipt = b.receipt := by
  obtain ⟨s, t, c⟩ := x
  cases c with
  | create newId d =>
    obtain rfl : _ = b := List.singleton_inj.1 hb
    exact congrArg Node.receipt ((Session.get_create s t newId d s.forest.size).trans (if_pos rfl))
  | trace newId op o =>
    cases hd : op.details with
    | error e => simp [births, hd] at hb
    | ok d =>
      obtain rfl : Birth.mk newId t d = b := by simpa [births, hd] using hb
      refine Session.trace_receipt_of_new hd ?_
      intro hok
      have hreply : reply ⟨s, t, .trace newId op o⟩ = .created (.ok s.forest.size) := congrArg Reply.created hok
      have hgiven : tagsGiven ⟨s, t, .trace newId op o⟩ =
          (o.tagFor op.kind).toList.map fun tag => (s.forest.size, tag) := by
        simp only [tagsGiven, hreply]
      rw [hgiven] at hg
      cases htag : o.tagFor op.kind with
      | none => rfl
      | some tag => exact absurd rfl (hg (s.forest.size, tag) (by simp [htag]))
  | _ => cases hb

theorem target_of_new (h : x.before.Admits x.command) (hn : x.before.forest.size ≤ n) (hg : ∀ g ∈ x.tagsGiven, g.1 ≠ n)
    (hr : (x.after.forest.get n).receipt.id? = some id) : ∃ b ∈ x.births, b.details.linkTarget = some id := by
  have hlt : n < x.after.forest.size := by
    by_contra hlt
    rw [Forest.get_of_size_le (Nat.le_of_not_lt hlt)] at hr
    cases hr
  rcases births_cases h with ⟨-, hnone⟩ | ⟨b, hb, -, -, he⟩
  · exact absurd ((effects h).size_eq hnone ▸ hlt) (Nat.not_lt_of_ge hn)
  · have hsize := (he.size_eq rfl).trans (Session.size_create ..)
    obtain rfl : n = x.before.forest.size := Nat.le_antisymm (Nat.le_of_lt_succ (Nat.lt_of_lt_of_eq hlt hsize)) hn
    rw [receipt_of_birth hb hg, Birth.receipt, TagReceipt.id?_elim] at hr
    exact ⟨b, by simp [hb], hr⟩

/-- The command told a tracer that it comes from the one with the id: by a tag that it gave to it, or
when it created it from a link. -/
def Names (x : Step) (id : TracerId) : Prop :=
  (∃ g ∈ x.tagsGiven, g.2.decode = some id) ∨ ∃ b ∈ x.births, b.details.linkTarget = some id

/-- What a tracer knows after a command it knew before, or the command told it. -/
theorem receipt_cases (h : x.before.Admits x.command) (hr : (x.after.forest.get n).receipt.id? = some id) :
    (x.before.forest.get n).receipt.id? = some id ∨ x.Names id := by
  rcases told h n with ⟨tag, hg, -, hreceipt⟩ | ⟨hg, hold⟩
  · rw [hreceipt, TagReceipt.id?_ofDecoded] at hr
    exact .inr (.inl ⟨(n, tag), by simp [hg], hr⟩)
  · rcases Nat.lt_or_ge n x.before.forest.size with hn | hn
    · exact .inl (hold hn ▸ hr)
    · exact .inr (.inr (target_of_new h hn hg hr))

/-- The tracers whose tags the command handed out. -/
def tagsHandedOut (x : Step) : List NodeRef :=
  match x.command, x.reply with
  | .outgoingTag n _, .tag (.ok _) => [n]
  | _, _ => []

/-- The links that the command made. -/
def linksMade (x : Step) : List InProcessLink :=
  match x.command, x.reply with
  | .createLink, .link link => [link]
  | _, _ => []

end Step

/-- Where a tag or a link names a tracer of the forest, that tracer handed the tag out before, and the link
was made before. -/
structure Sourced (f : Forest) (log : List Step) : Prop where
  tags : ∀ l x l', log = l ++ x :: l' → ∀ g ∈ x.tagsGiven, ∀ p < f.size, g.2.decode = some (f.idOf p) →
    p ∈ l.flatMap Step.tagsHandedOut
  links : ∀ l x l', log = l ++ x :: l' → ∀ b ∈ x.births, ∀ p < f.size, b.details.linkTarget = some (f.idOf p) →
    ∃ link ∈ l.flatMap Step.linksMade, link.target = some (f.idOf p)

theorem Sourced.earlier {f : Forest} {log l : List Step} (h : Sourced f (log ++ l)) : Sourced f log where
  tags l₁ x l' e := h.tags l₁ x (l' ++ l) (by simp [e])
  links l₁ x l' e := h.links l₁ x (l' ++ l) (by simp [e])

/-- A link that was made for a tracer names no other. -/
theorem InProcessLink.target_ofTarget_eq {id id' : TracerId} (h : (ofTarget (some id)).target = some id') :
    id = id' := by
  have hdecode : Tag.decodeBytes (Tag.encodeBytes id) = some id' := by simpa [target, ofTarget] using h
  exact TracerId.toBytes_injective (TracerId.eq_toBytes_of_ofBytes? hdecode)

namespace Step

variable {x : Step}

theorem begun_eq {n : NodeRef} (hn : n ∈ x.begun) : x.begun = [n] := by
  unfold begun at hn ⊢
  split at hn
  · rw [List.mem_singleton.1 hn]
  · cases hn

/-- Only running tracers hand out their tag. -/
theorem started_of_handedOut {p : NodeRef} (hp : p ∈ x.tagsHandedOut) : (x.before.forest.get p).state = .started := by
  obtain ⟨s, t, c⟩ := x
  unfold tagsHandedOut at hp
  split at hp
  · rename_i n form data hc hr
    obtain rfl : p = n := List.mem_singleton.1 hp
    obtain rfl : c = _ := hc
    rcases s.outgoingTag_cases t p form with ⟨e, he⟩ | ⟨-, -, hst, -⟩
    · simp only [reply, Session.perform, he, Prod.map] at hr
      cases hr
    · exact hst
  · cases hp

/-- A link that names a tracer was made inside that one. -/
theorem active_of_linkMade {link : InProcessLink} {id : TracerId} (hl : link ∈ x.linksMade)
    (ht : link.target = some id) : ∃ p, x.before.active? x.thread = some p ∧ x.before.forest.idOf p = id := by
  obtain ⟨s, t, c⟩ := x
  unfold linksMade at hl
  split at hl
  · rename_i link' hc hr
    obtain rfl : link = link' := List.mem_singleton.1 hl
    obtain rfl : c = _ := hc
    have hlink : s.createLink t = link := Reply.link.inj hr
    rw [← hlink, Session.createLink] at ht
    cases ha : s.active? t with
    | none =>
      rw [ha] at ht
      cases ht
    | some p =>
      rw [ha] at ht
      exact ⟨p, rfl, InProcessLink.target_ofTarget_eq ht⟩
  · cases hl

end Step

section Runs

variable {s₀ s : Session} {log : List Step} (h : Run s₀ s log) (h0 : s₀.IsNew)

include h h0

/-- Whatever ran at some point of a run had begun before. -/
theorem Run.begun_of_started {x : Step} (hx : x ∈ log) {p : NodeRef} (hst : (x.before.forest.get p).state = .started) :
    p ∈ log.flatMap Step.begun := by
  obtain ⟨l, l', rfl⟩ := List.append_of_mem hx
  obtain ⟨hl, -⟩ := h.split l x l' rfl
  rw [List.flatMap_append]
  exact List.mem_append_left _ ((hl.begins h0).mem_of_started (hl.sound h0) hst)

variable {f : Forest} (hlater : s.forest.Later f)
  (hd : ∀ m n, m < f.size → n < f.size → f.idOf m = f.idOf n → m = n)

include hlater hd

/-- A tracer that is named by a tag or a link has begun. -/
theorem Run.begun_of_names {x : Step} (hsrc : Sourced f (log ++ [x])) {p : NodeRef} (hp : p < f.size)
    (hn : x.Names (f.idOf p)) : p ∈ log.flatMap Step.begun := by
  rcases hn with ⟨g, hg, hdecode⟩ | ⟨b, hb, htarget⟩
  · obtain ⟨y, hy, hout⟩ := List.mem_flatMap.1 (hsrc.tags log x [] rfl g hg p hp hdecode)
    exact h.begun_of_started h0 hy (Step.started_of_handedOut hout)
  · obtain ⟨link, hl, ht⟩ := hsrc.links log x [] rfl b hb p hp htarget
    obtain ⟨y, hy, hmade⟩ := List.mem_flatMap.1 hl
    obtain ⟨q, ha, hid⟩ := Step.active_of_linkMade hmade ht
    obtain ⟨⟨l, hrun⟩, -⟩ := h.of_mem hy
    have hst := (hrun.sound h0).started_of_active ha
    have hlt : q < y.before.forest.size := Forest.lt_size_of_state (by simp [hst])
    obtain ⟨hq, e⟩ := h.id_later hy hlt
    -- Only one tracer has the id that the link names.
    obtain rfl : q = p := by
      refine hd q p (Nat.lt_of_lt_of_le hq hlater.size) hp ?_
      exact (hlater.node q hq).id.trans (e.trans hid)
    exact h.begun_of_started h0 hy hst

/-- What a tracer knows of had begun, and before it began itself. -/
theorem Run.before_of_receipt (hsrc : Sourced f log) {p c : NodeRef} (hp : p < f.size)
    (hr : (s.forest.get c).receipt.id? = some (f.idOf p)) :
    p ∈ log.flatMap Step.begun ∧ (c ∈ log.flatMap Step.begun → Before (log.flatMap Step.begun) p c) := by
  induction h with
  | nil =>
    rw [h0.get_forest] at hr
    cases hr
  | @step s log t command h ha ih =>
    have hx := (Step.later (x := ⟨s, t, command⟩) ha).trans hlater
    have hbegins := h.begins h0
    have hp' : p ∈ log.flatMap Step.begun := by
      rcases Step.receipt_cases (x := ⟨s, t, command⟩) ha hr with hold | hn
      · exact (ih hx hsrc.earlier hold).1
      · exact h.begun_of_names h0 hx hd hsrc hp hn
    rw [List.flatMap_append, List.flatMap_singleton]
    refine ⟨List.mem_append_left _ hp', ?_⟩
    intro hc
    by_cases hold : c ∈ log.flatMap Step.begun
    · -- It had begun, and so was given nothing any more.
      have hnode := (Step.later (x := ⟨s, t, command⟩) ha).node c (hbegins.lt_size hold)
      have hreceipt := hnode.receipt (.inl (hbegins.not_created (h.sound h0) hold))
      exact ((ih hx hsrc.earlier (hreceipt ▸ hr)).2 hold).append _
    · rw [Step.begun_eq ((List.mem_append.1 hc).resolve_left hold)]
      exact .snoc hp' hold

end Runs

/-! ## No cycles -/

/-- What a forest without cycles comes with. -/
structure Forest.Untangled (f : Forest) : Prop where
  acyclic : f.IsAcyclic
  /-- Every dump comes to an end, and shows all there is. -/
  drawn : ∀ indent n lines, f.Drawn indent n lines ↔ lines = f.dumpTo f.size indent n
  /-- Nodes are kept from outside, and not by each other. -/
  kept : ∀ roots n, n ∈ f.kept roots ↔ n < f.size ∧ ∃ r ∈ roots, Relation.ReflTransGen f.Holds r n

variable {s₀ s : Session} {log : List Step}

/-- Every link, by nesting or through a tag, leads to a tracer that began later. -/
theorem Run.before_of_holds (h : Run s₀ s log) (h0 : s₀.IsNew) (hsrc : Sourced s.forest log) {p c : NodeRef}
    (hpc : s.forest.Holds p c) : Before (log.flatMap Step.begun) p c := by
  have hbegins := h.begins h0
  rcases Forest.holds_iff.1 hpc with hpc | hpc
  · exact hbegins.nests p c hpc
  · have hfit := h.linksFit h0
    have hproducer := (hfit.entry_iff p c).1 hpc
    obtain ⟨-, hp, hid⟩ := hfit.resolved c p hproducer
    exact (h.before_of_receipt h0 (.refl _) (h.inStep h0).distinct hsrc hp hid).2 (hbegins.resolved c p hproducer)

/-- Where all tags and links are used as they were handed out, no state of the run has a cycle, even if
trees are linked to each other both ways. -/
theorem Run.untangled (h : Run s₀ s log) (h0 : s₀.IsNew) (hsrc : Sourced s.forest log) :
    ∀ s' ∈ log.map Step.before ++ [s], s'.forest.Untangled := by
  have hacyclic := Forest.isAcyclic_of_before fun p c => h.before_of_holds h0 hsrc
  intro s' hs'
  have hlater : s'.forest.Later s.forest := by
    rcases List.mem_append.1 hs' with hs' | hs'
    · obtain ⟨x, hx, rfl⟩ := List.mem_map.1 hs'
      exact (Step.later (h.of_mem hx).2).trans (h.later hx)
    · rw [List.mem_singleton.1 hs']
      exact .refl _
  have hearlier := hacyclic.earlier hlater
  exact ⟨hearlier, fun _ _ _ => hearlier.drawn_iff, fun _ _ => hearlier.mem_kept_iff⟩

/-- What holds of every step and the steps before it. -/
theorem forall_split {P : List Step → Step → Prop} {log : List Step}
    (h : ∀ i : Fin log.length, P (log.take i) log[i]) : ∀ l x l', log = l ++ x :: l' → P l x := by
  rintro l x l' rfl
  simpa using h ⟨l.length, by simp⟩

/-- Two served calls continue each other: each hands the tag of a call that it makes over to the other, and
the second takes up a link that was made in the first. -/
def mutualProgram : List (Thread × Command) :=
  let incoming := Details.incomingRemoteCall ⟨"method", "service", "endpoint", none, none⟩
  let outgoing := Details.outgoingWebRequest ⟨"url", "GET", [], [], none⟩
  let first : List Command := [.create (.ofNat 1) incoming, .start 0, .create (.ofNat 2) outgoing, .start 1,
    .outgoingTag 1 .string]
  let second : List Command := [.create (.ofNat 3) incoming,
    .setIncomingTag 2 (.string (Text.ofBytes (Tag.encode (.ofNat 2) .string))), .start 2,
    .create (.ofNat 4) outgoing, .start 3, .outgoingTag 3 .bytes]
  let third : List Command := [.endTracer 1, .create (.ofNat 5) incoming,
    .setIncomingTag 4 (.bytes (Tag.encode (.ofNat 4) .bytes)), .start 4, .createLink, .endTracer 4, .endTracer 0]
  let fourth : List Command := [.endTracer 3,
    .trace (.ofNat 6) (.inProcessLink (.ofTarget (some (.ofNat 5)))) {}, .start 5, .endTracer 5, .endTracer 2,
    .resolve false]
  first.map (⟨"a"⟩, ·) ++ second.map (⟨"b"⟩, ·) ++ third.map (⟨"a"⟩, ·) ++ fourth.map (⟨"b"⟩, ·)

theorem untangled_mutualProgram :
    let s₀ : Session := { name := "session", agent := .recording {} }
    (∀ s' ∈ (s₀.play mutualProgram).map Step.before ++ [s₀.played mutualProgram], s'.forest.Untangled) ∧
      (s₀.played mutualProgram).archive.roots.map (s₀.played mutualProgram).forest.preorder = [[0, 1, 4], [2, 3, 5]] ∧
      (s₀.played mutualProgram).forest.tagLinks = [(1, 2), (3, 4), (4, 5)] := by
  intro s₀
  have hnew : s₀.IsNew := by
    refine ⟨rfl, rfl, rfl, rfl, ?_⟩
    rintro r ⟨⟩
    exact ⟨rfl, rfl, rfl⟩
  have hstart : Run s₀ s₀ [] := .nil
  have hrun := hstart.played mutualProgram (by decide +kernel)
  have hsourced : Sourced (s₀.played mutualProgram).forest (s₀.play mutualProgram) := by
    refine ⟨forall_split ?_, forall_split ?_⟩
    · decide +kernel
    · decide +kernel
  exact ⟨Run.untangled hrun hnew hsourced, by decide +kernel, by decide +kernel⟩

end CallPath
