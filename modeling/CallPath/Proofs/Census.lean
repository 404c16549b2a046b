import CallPath.Proofs.Accounts
/-!
# Counting nodes

The counters of a session can be checked by counting its nodes again: those that were created, as such
and by kind, those that were started and those that failed (`Run.census`). Each effect moves a counter by
what it adds to the count of the nodes (`Effect.census`).

Paths leave no node behind that would tell of their end. Their counter is checked against the log
(`Run.pathsCompleted`).
-/

namespace CallPath

/-- Two predicates that differ at one place differ there in how much they count. -/
theorem countP_change {α : Type} [DecidableEq α] {l : List α} {a : α} {q q' : α → Bool} (hl : l.Nodup) (ha : a ∈ l)
    (h : ∀ b, b ≠ a → q' b = q b) : l.countP q' + (q a).toNat = l.countP q + (q' a).toNat := by
  have hp := List.perm_cons_erase ha
  have hrest : (l.erase a).countP q' = (l.erase a).countP q :=
    List.countP_congr fun b hb => by rw [h b fun e => hl.not_mem_erase (e ▸ hb)]
  rw [hp.countP_eq q', hp.countP_eq q, List.countP_cons, List.countP_cons, hrest]
  cases q a <;> cases q' a <;> simp

namespace Forest

variable {f f' : Forest} {p : Node → Bool}

/-- The number of nodes of which `p` holds. -/
def count (f : Forest) (p : Node → Bool) : Nat :=
  (List.range f.size).countP fun n => p (f.get n)

theorem count_congr (hs : f'.size = f.size) (h : ∀ n, p (f'.get n) = p (f.get n)) : f'.count p = f.count p := by
  unfold count
  rw [hs]
  simp only [h]

/-- One node has changed. -/
theorem count_change {n : NodeRef} (hn : n < f.size) (hs : f'.size = f.size)
    (h : ∀ m, m ≠ n → p (f'.get m) = p (f.get m)) :
    f'.count p + (p (f.get n)).toNat = f.count p + (p (f'.get n)).toNat := by
  unfold count
  rw [hs]
  exact countP_change List.nodup_range (List.mem_range.2 hn) h

theorem count_modify {n : NodeRef} (hn : n < f.size) (g : Node → Node) :
    (f.modify n g).count p + (p (f.get n)).toNat = f.count p + (p (g (f.get n))).toNat := by
  have h := count_change (p := p) hn (f.size_modify n g) fun m hm => by rw [get_modify_ne (Ne.symm hm)]
  rwa [get_modify _ _ _ _ hn, if_pos rfl] at h

theorem count_add (f : Forest) (node : Node) : (f.add node).2.count p = f.count p + (p node).toNat := by
  have hold : ∀ n ∈ List.range f.size, (p ((f.add node).2.get n) = true ↔ p (f.get n) = true) := by
    intro n hn
    rw [get_add, if_neg (Nat.ne_of_lt (List.mem_range.1 hn))]
  unfold count
  rw [size_add, List.range_succ, List.countP_append, List.countP_congr hold, List.countP_singleton, get_add,
    if_pos rfl]
  cases p node <;> rfl

/-- Each node either has a property or has it not. -/
theorem count_split (f : Forest) (p q : Node → Bool) :
    f.count p = f.count (fun m => p m && q m) + f.count fun m => p m && !q m := by
  unfold count
  induction List.range f.size with
  | nil => rfl
  | cons n l ih =>
    simp only [List.countP_cons, ih]
    cases p (f.get n) <;> cases q (f.get n) <;> simp <;> omega

/-- A list of the nodes that have a property, each of them once, is as long as there are such nodes. -/
theorem count_eq_length {l : List NodeRef} (hl : l.Nodup) (h : ∀ n, n ∈ l ↔ n < f.size ∧ p (f.get n) = true) :
    f.count p = l.length := by
  have hfilter : ((List.range f.size).filter fun n => p (f.get n)).Perm l := by
    refine (List.perm_ext_iff_of_nodup (List.nodup_range.filter _) hl).2 fun n => ?_
    rw [List.mem_filter, List.mem_range, h]
  unfold count
  rw [List.countP_eq_length_filter, hfilter.length_eq]

end Forest

/-! ## What is counted of a node -/

/-- The kind of a node, whether it was started and whether it failed. -/
def Node.census (m : Node) : Kind × Bool × Bool :=
  (m.kind, m.hasStartTime, m.error.isSome)

/-- The counters of creations, starts and errors. -/
def Metrics.census (m : Metrics) : Nat × Table Kind Nat × Nat × Nat :=
  (m.created, m.createdByKind, m.started, m.failed)

/-- One more tracer is one more of some kind. -/
theorem Metrics.sum_recordCreated (m : Metrics) (k : Kind) :
    (Kind.all.map (m.recordCreated k).createdCount).sum = (Kind.all.map m.createdCount).sum + 1 := by
  simp only [Kind.all, List.map_cons, List.map_nil, List.sum_cons, List.sum_nil, createdCount_recordCreated]
  cases k <;> simp <;> omega

namespace Session

/-- The counters are what a count of the nodes gives. -/
structure Census (s : Session) : Prop where
  created : s.metrics.created = s.forest.size
  ofKind : ∀ k, s.metrics.createdCount k = s.forest.count (·.kind = k)
  /-- The tracers of all kinds together are all tracers. -/
  kinds : (Kind.all.map s.metrics.createdCount).sum = s.metrics.created
  started : s.metrics.started = s.forest.count (·.hasStartTime)
  failed : s.metrics.failed = s.forest.count (·.error.isSome)

namespace Census

variable {s s' : Session}

theorem quiet (h : s.Census) (hs : s'.forest.size = s.forest.size)
    (hn : ∀ n, (s'.forest.get n).census = (s.forest.get n).census) (hm : s'.metrics.census = s.metrics.census) :
    s'.Census := by
  simp only [Node.census, Metrics.census, Prod.mk.injEq] at hn hm
  obtain ⟨hcreated, hkinds, hstarted, hfailed⟩ := hm
  have hcount : s'.metrics.createdCount = s.metrics.createdCount := by
    funext k
    unfold Metrics.createdCount
    rw [hkinds]
  refine ⟨?_, fun k => ?_, ?_, ?_, ?_⟩
  · rw [hcreated, hs, h.created]
  · rw [hcount, h.ofKind]
    exact (Forest.count_congr hs fun n => by rw [(hn n).1]).symm
  · rw [hcount, hcreated, h.kinds]
  · rw [hstarted, h.started]
    exact (Forest.count_congr hs fun n => (hn n).2.1).symm
  · rw [hfailed, h.failed]
    exact (Forest.count_congr hs fun n => (hn n).2.2).symm

/-- One node has changed in some way that does not count. -/
theorem modify {n : NodeRef} {g : Node → Node} (h : s.Census) (hg : ∀ m, (g m).census = m.census)
    (hf : s'.forest = s.forest.modify n g) (hm : s'.metrics.census = s.metrics.census) : s'.Census := by
  refine h.quiet ?_ (fun m => ?_) hm
  · rw [hf, Forest.size_modify]
  · rw [hf]
    exact Forest.get_modify_same hg s.forest n m

end Census

end Session

theorem Effect.census {t : Thread} {s s' : Session} {ms : List Mark} (he : Effect t s ms s') (hs : s.Sound)
    (h : s.Census) : s'.Census := by
  have ended : ∀ m : Node, (m.enter .ended s.clock).census = m.census := fun m =>
    Prod.ext rfl (Prod.ext (by simp [Node.census]) rfl)
  cases he with
  | created id d _ =>
    refine ⟨?_, fun k => ?_, ?_, ?_, ?_⟩
    · rw [Session.size_create, ← h.created]
      rfl
    · show (s.metrics.recordCreated d.kind).createdCount k = (s.forest.add _).2.count _
      rw [Forest.count_add, Metrics.createdCount_recordCreated, h.ofKind]
      rcases eq_or_ne d.kind k with hk | hk
      · simp [Node.kind, hk]
      · simp [Node.kind, hk, hk.symm]
    · exact (Metrics.sum_recordCreated s.metrics d.kind).trans (congrArg (· + 1) h.kinds)
    · show s.metrics.started = (s.forest.add _).2.count _
      rw [Forest.count_add, h.started]
      rfl
    · show s.metrics.failed = (s.forest.add _).2.count _
      rw [Forest.count_add, h.failed]
      rfl
  | begun n hn _ hst _ =>
    have hsize : (s.begun t n).forest.size = s.forest.size := by simp [Session.begun]
    have hkind := Session.get_begun_same (p := Node.kind) (fun _ _ => rfl) (fun _ _ => rfl) s t n
    have herror := Session.get_begun_same (p := Node.error) (fun _ _ => rfl) (fun _ _ => rfl) s t n
    refine ⟨?_, fun k => ?_, h.kinds, ?_, ?_⟩
    · rw [hsize]
      exact h.created
    · exact (h.ofKind k).trans (Forest.count_congr hsize fun m => by rw [hkind]).symm
    · have hcount := Forest.count_change (p := (·.hasStartTime)) hn hsize
        fun m hm => (Session.get_begun_other hs hst hm).2
      rw [hs.fresh n hst, Session.get_begun hs hst, if_pos rfl] at hcount
      show s.metrics.started + 1 = _
      rw [h.started]
      simpa using hcount.symm
    · exact h.failed.trans (Forest.count_congr hsize fun m => by rw [herror]).symm
  | failed n className message hn _ _ _ he =>
    have hfailed := Forest.count_modify (p := (·.error.isSome)) hn
      fun m => { m with error := some ⟨className, message⟩ }
    have hrest : ∀ {p : Node → Bool}, (∀ m error, p { m with error } = p m) →
        (s.failed n className message).forest.count p = s.forest.count p := fun hp =>
      Forest.count_congr (Forest.size_modify ..) (Forest.get_modify_same (fun m => hp m _) s.forest n)
    refine ⟨h.created.trans (Forest.size_modify ..).symm, fun k => ?_, h.kinds, ?_, ?_⟩
    · exact (h.ofKind k).trans (hrest fun _ _ => rfl).symm
    · exact h.started.trans (hrest fun _ _ => rfl).symm
    · rw [he] at hfailed
      show s.metrics.failed + 1 = _
      rw [h.failed]
      exact hfailed.symm
  | completed n hn _ _ _ =>
    obtain ⟨hf, -, -, -, -⟩ := Session.completePath_same (s.unwound t n []) n
    exact h.modify ended hf (by rw [Session.metrics_completePath]; rfl)
  | unwound n rest _ _ _ _ _ => exact h.modify ended rfl rfl
  | finished n _ _ _ => exact h.modify ended rfl rfl
  | discarded n _ _ _ => exact h.modify ended rfl rfl
  | released n _ => exact h.modify (g := fun m => { m with held := false }) (fun _ => rfl) rfl rfl
  | tagged n tag _ _ _ _ =>
    exact h.modify (g := fun m => { m with receipt := .ofDecoded tag.decode }) (fun _ => rfl) rfl rfl
  | attributed n key value _ _ =>
    exact h.modify (g := fun m => { m with attributes := m.attributes ++ [(key, value)] }) (fun _ => rfl) rfl rfl
  | updated n u d _ _ _ _ hd =>
    refine h.quiet (Forest.size_modify ..) (fun m => ?_) rfl
    show ((s.forest.modify n fun m => { m with details := d }).get m).census = _
    rw [Forest.get_modify_eq]
    split
    · rename_i e
      rw [e.1] at hd
      exact Prod.ext (Update.kind_of_apply hd) rfl
    · rfl
  | linked c p _ _ _ _ =>
    exact h.quiet (by simp [Forest.resolve]) (Forest.get_resolve_same (q := Node.census) (fun _ _ => rfl)
      (fun _ _ => rfl) s.forest c p) rfl
  | _ => exact h.quiet rfl (fun _ => rfl) rfl

/-- Only a start leaves the time of a start. -/
theorem Effect.hasStartTime {t : Thread} {s s' : Session} {ms : List Mark} (he : Effect t s ms s') (hs : s.Sound)
    (n : NodeRef) : (s'.forest.get n).hasStartTime = true ↔
      (s.forest.get n).hasStartTime = true ∨ n ∈ ms.flatMap Mark.begins := by
  cases he.shift hs with
  | steady hms k =>
    rw [k.hasStartTime]
    rcases hms with rfl | ⟨id, rfl⟩ <;> simp [Mark.begins]
  | begun m hm _ hst _ =>
    by_cases e : n = m
    · rw [Session.get_begun hs hst, if_pos e]
      simp [Mark.begins, e]
    · rw [(Session.get_begun_other hs hst e).2]
      simp [Mark.begins, e]
  | unwound m rest _ _ =>
    rw [Session.get_unwound_same (p := Node.hasStartTime) fun _ _ => by simp]
    simp
  | completed m _ =>
    rw [(Session.completePath_same _ m).1,
      Session.get_unwound_same (p := Node.hasStartTime) fun _ _ => by simp]
    simp [Mark.begins]
  | emptied => simp [Mark.begins]

theorem Effects.hasStartTime {t : Thread} {s s' : Session} {ms : List Mark} (h : Effects t s ms s') (hs : s.Sound)
    (n : NodeRef) : (s'.forest.get n).hasStartTime = true ↔
      (s.forest.get n).hasStartTime = true ∨ n ∈ ms.flatMap Mark.begins := by
  induction h with
  | nil => simp
  | cons he _ ih =>
    rw [ih (he.sound hs), he.hasStartTime hs, List.flatMap_append, List.mem_append, or_assoc]

theorem Effect.pathsCompleted {t : Thread} {s s' : Session} {ms : List Mark} (he : Effect t s ms s') :
    s'.metrics.pathsCompleted = s.metrics.pathsCompleted + (ms.flatMap Mark.completes).length := by
  cases he with
  | completed n =>
    rw [Session.metrics_completePath]
    rfl
  | _ => rfl

theorem Effects.pathsCompleted {t : Thread} {s s' : Session} {ms : List Mark} (h : Effects t s ms s') :
    s'.metrics.pathsCompleted = s.metrics.pathsCompleted + (ms.flatMap Mark.completes).length := by
  induction h with
  | nil => rfl
  | cons he _ ih => rw [ih, he.pathsCompleted, List.flatMap_append, List.length_append, Nat.add_assoc]

/-! ## Every run -/

/-- What a command started was created before it, on its thread. -/
theorem Step.of_begun {x : Step} {n : NodeRef} (hn : n ∈ x.begun) : (x.before.forest.get n).owner = x.thread ∧
    (x.before.forest.get n).state = .created ∧ x.after = x.before.begun x.thread n := by
  obtain ⟨s, t, c⟩ := x
  cases c with
  | start m =>
    rcases s.start_cases t m with ⟨e, h⟩ | ⟨ho, hst, -, h⟩
    · simp [begun, reply, Session.perform, h] at hn
    · obtain rfl : n = m := by simpa [begun, reply, Session.perform, h] using hn
      exact ⟨ho, hst, congrArg Prod.snd h⟩
  | _ => cases hn

theorem Step.started_of_begun {x : Step} (hs : x.before.Sound) {n : NodeRef} (hn : n ∈ x.begun) :
    (x.after.forest.get n).state = .started := by
  obtain ⟨-, hst, ha⟩ := of_begun hn
  rw [ha, Session.get_begun hs hst, if_pos rfl]
  rfl

variable {s₀ s : Session} {log : List Step}

theorem Run.census (h : Run s₀ s log) (h0 : s₀.IsNew) : s.Census := by
  refine (h.inv (I := fun s => s.Sound ∧ s.Census) (fun _ _ _ _ he hI => ⟨he.sound hI.1, he.census hI.1 hI.2⟩)
    ⟨h0.sound, ?_⟩).2
  refine ⟨?_, fun k => ?_, ?_, ?_, ?_⟩ <;> rw [h0.metrics] <;> try rw [h0.forest]
  all_goals rfl

/-- Each tracer was born once. -/
theorem Run.length_births (h : Run s₀ s log) (h0 : s₀.IsNew) :
    (log.flatMap Step.births).length = s.forest.size := by
  induction h with
  | nil =>
    rw [h0.forest]
    rfl
  | @step s log t c h hc ih =>
    rw [List.flatMap_append, List.flatMap_singleton, List.length_append, ih]
    rcases Step.births_cases (x := ⟨s, t, c⟩) hc with ⟨hb, hms⟩ | ⟨b, hb, rfl, -, he⟩
    · rw [hb]
      exact ((Step.effects (x := ⟨s, t, c⟩) hc).size_eq hms).symm
    · rw [hb]
      exact ((he.size_eq rfl).trans (Session.size_create ..)).symm

/-- A tracer has the time of its start if it was running at some point. -/
theorem Run.hasStartTime_iff (h : Run s₀ s log) (h0 : s₀.IsNew) (n : NodeRef) :
    (s.forest.get n).hasStartTime = true ↔ ∃ x ∈ log, (x.after.forest.get n).state = .started := by
  induction h with
  | nil =>
    rw [h0.get_forest]
    simp [Node.blank, Node.hasStartTime]
  | @step s log t c h hc ih =>
    have hs := h.sound h0
    have he := Step.effects (x := ⟨s, t, c⟩) hc
    have htime := he.hasStartTime hs n
    rw [Step.begins_marks, ih] at htime
    refine htime.trans ⟨?_, ?_⟩
    · rintro (⟨x, hx, hst⟩ | hn)
      · exact ⟨x, by simp [hx], hst⟩
      · exact ⟨⟨s, t, c⟩, by simp, Step.started_of_begun hs hn⟩
    · rintro ⟨x, hx, hst⟩
      rcases List.mem_append.1 hx with hx | hx
      · exact .inl ⟨x, hx, hst⟩
      · obtain rfl := List.mem_singleton.1 hx
        rw [← ih, ← Step.begins_marks, ← he.hasStartTime hs]
        exact (he.inv (fun _ _ _ => Effect.sound) hs).begun n hst

theorem Run.pathsCompleted (h : Run s₀ s log) (h0 : s₀.IsNew) :
    s.metrics.pathsCompleted = (log.flatMap Step.completed).length := by
  induction h with
  | nil =>
    rw [h0.metrics]
    rfl
  | @step s log t c h hc ih =>
    have he := (Step.effects (x := ⟨s, t, c⟩) hc).pathsCompleted
    rw [Step.completes_marks hc] at he
    rw [List.flatMap_append, List.flatMap_singleton, List.length_append, ← ih]
    exact he

end CallPath
