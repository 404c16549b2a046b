import CallPath.Proofs.Soundness
/-!
# The paths fit the nodes

A start puts a tracer on top of the path of its thread and below the tracer that was there, an end
takes the top off. Either keeps a session sound, and so does everything else (`Effect.sound`).
Hence the paths agree with the nodes in every state of an application (`Reachable.pathsFit`).
-/

namespace CallPath

/-! ## Starting on top -/

namespace Session

variable {s : Session} {t : Thread} {n : NodeRef}

theorem get_begun (h : s.Sound) (hst : (s.forest.get n).state = .created) (m : NodeRef) :
    (s.begun t n).forest.get m = if m = n then (s.forest.get n).enter .started s.clock
      else if s.active? t = some m then (s.forest.get m).link .child n else s.forest.get m := by
  have hn : n < s.forest.size := Forest.lt_size_of_state (by simp [hst])
  have hnest : (s.forest.nest (s.active? t) n).get m =
      if s.active? t = some m then (s.forest.get m).link .child n else s.forest.get m := by
    cases ha : s.active? t with
    | none => rfl
    | some b =>
      have hb : b < s.forest.size := Forest.lt_size_of_state (by simp [h.started_of_active ha])
      simp only [Forest.nest, Option.elim, Forest.get_modify_eq, Option.some.injEq]
      by_cases e : b = m
      · subst e
        simp [hb]
      · simp [e]
  show ((s.forest.nest (s.active? t) n).modify n (·.enter .started s.clock)).get m = _
  rw [Forest.get_modify_eq, hnest]
  by_cases e : m = n
  · subst e
    -- The tracer on top is running, so it is not the one that starts.
    have hne : s.active? t ≠ some m := fun ha => by simp [h.started_of_active ha] at hst
    simp [hn, hne]
  · simp [e, Ne.symm e]

theorem get_begun_other (h : s.Sound) (hst : (s.forest.get n).state = .created) {m : NodeRef} (hm : m ≠ n) :
    ((s.begun t n).forest.get m).state = (s.forest.get m).state ∧
      ((s.begun t n).forest.get m).hasStartTime = (s.forest.get m).hasStartTime := by
  rw [get_begun h hst, if_neg hm]
  split <;> exact ⟨rfl, rfl⟩

theorem childRefs_begun (h : s.Sound) (hst : (s.forest.get n).state = .created) (m : NodeRef) :
    ((s.begun t n).forest.get m).childRefs =
      (s.forest.get m).childRefs ++ if s.active? t = some m then [n] else [] := by
  rw [get_begun h hst]
  split
  · rename_i e
    subst e
    have hne : s.active? t ≠ some m := fun ha => by simp [h.started_of_active ha] at hst
    simp [hne, Node.enter, Node.childRefs]
  · split <;> simp [Node.link, Node.childRefs]

theorem nests_begun (h : s.Sound) (hst : (s.forest.get n).state = .created) (p c : NodeRef) :
    (s.begun t n).forest.Nests p c ↔ s.forest.Nests p c ∨ (s.active? t = some p ∧ c = n) := by
  unfold Forest.Nests
  rw [childRefs_begun h hst]
  split <;> simp_all

theorem below_begun (h : s.Sound) (hst : (s.forest.get n).state = .created) {a b : NodeRef}
    (hab : s.forest.Below a b) : (s.begun t n).forest.Below a b := by
  refine Relation.ReflTransGen.mono (fun p c hpc => ?_) _ _ hab
  exact (nests_begun h hst p c).2 (.inl hpc)

/-- The tracer that starts becomes a leaf of the tree under construction, or the root of a new one. -/
theorem begun_addsLeaf (h : s.Sound) (hst : (s.forest.get n).state = .created) {b : NodeRef}
    (ha : s.active? t = some b) : s.forest.AddsLeaf (s.begun t n).forest b n where
  nests p c := by
    rw [nests_begun h hst, ha]
    simp [@eq_comm _ b]
  ne e := by
    simp [← e, h.started_of_active ha] at hst
  childless m := (h.not_nests_of_not_begun (h.fresh n hst) m).1

theorem begun_isNesting (h : s.Sound) (hst : (s.forest.get n).state = .created) :
    (s.begun t n).forest.IsNesting where
  bounded p c hpc := by
    have hs : (s.begun t n).forest.size = s.forest.size := by simp [begun]
    rw [hs]
    rcases (nests_begun h hst p c).1 hpc with hpc | ⟨-, rfl⟩
    · exact h.nesting.bounded p c hpc
    · exact Forest.lt_size_of_state (by simp [hst])
  acyclic := by
    cases ha : s.active? t with
    | none =>
      have hc : ∀ m, ((s.begun t n).forest.get m).childRefs = (s.forest.get m).childRefs := fun m => by
        simp [childRefs_begun h hst, ha]
      rw [Forest.nests_congr hc]
      exact h.nesting.acyclic
    | some b => exact (begun_addsLeaf h hst ha).acyclic h.nesting.acyclic
  parent_unique p q c hp hq := by
    -- The tracer that starts was nested nowhere before.
    have hnot : ∀ m, ¬ s.forest.Nests m n := fun m => (h.not_nests_of_not_begun (h.fresh n hst) m).2
    rcases (nests_begun h hst p c).1 hp with hp | ⟨ha, hc⟩ <;> rcases (nests_begun h hst q c).1 hq with hq | ⟨ha', hc'⟩
    · exact h.nesting.parent_unique p q c hp hq
    · exact absurd (hc' ▸ hp) (hnot p)
    · exact absurd (hc ▸ hq) (hnot q)
    · exact Option.some.inj (ha.symm.trans ha')
  nodup p := by
    rw [childRefs_begun h hst]
    have hnot : n ∉ (s.forest.get p).childRefs := (h.not_nests_of_not_begun (h.fresh n hst) p).2
    split
    · exact List.Nodup.append (h.nesting.nodup p) (by simp) (by simpa using hnot)
    · simpa using h.nesting.nodup p

theorem get_paths_begun (s : Session) (t t' : Thread) (n : NodeRef) :
    (s.begun t n).paths.get t' = if t' = t then ⟨n :: (s.paths.get t).stack⟩ else s.paths.get t' := by
  simp [begun]

theorem mem_stack_begun {t' : Thread} {m : NodeRef} :
    m ∈ ((s.begun t n).paths.get t').stack ↔ (m = n ∧ t' = t) ∨ m ∈ (s.paths.get t').stack := by
  rw [get_paths_begun]
  split
  · rename_i e
    simp [e]
  · rename_i e
    simp [e]

theorem over_begun {t' : Thread} {c b : NodeRef} : ((s.begun t n).paths.get t').Over c b ↔
    (t' = t ∧ c = n ∧ s.active? t = some b) ∨ (s.paths.get t').Over c b := by
  rw [get_paths_begun]
  split
  · rename_i e
    subst e
    rw [Path.over_cons]
    simp [active?, Path.top?]
  · rename_i e
    simp [e]

/-- A live path keeps its root. -/
theorem root?_begun {t' : Thread} {r : NodeRef} (hr : (s.paths.get t').root? = some r) :
    ((s.begun t n).paths.get t').root? = some r := by
  rw [get_paths_begun]
  split
  · rename_i e
    subst e
    cases hp : (s.paths.get t').stack with
    | nil => simp [Path.root?, hp] at hr
    | cons b below => simpa [Path.root?, hp] using hr
  · exact hr

/-- A start changes neither owners nor kinds. -/
theorem get_begun_same {α : Type} {p : Node → α} (hl : ∀ m c, p (m.link .child c) = p m)
    (he : ∀ m now, p (m.enter .started now) = p m) (s : Session) (t : Thread) (n m : NodeRef) :
    p ((s.begun t n).forest.get m) = p (s.forest.get m) :=
  (Forest.get_modify_same (fun m => he m _) _ n m).trans (Forest.get_nest_same hl s.forest _ n m)

theorem begun_pathsFit (h : s.Sound) (ho : (s.forest.get n).owner = t) (hst : (s.forest.get n).state = .created)
    (hk : (s.active? t).isSome ∨ (s.forest.get n).kind.isEntrypoint = true) : (s.begun t n).PathsFit := by
  have hnot : ∀ t', n ∉ (s.paths.get t').stack := fun t' hn => by
    simp [h.started_of_mem hn] at hst
  have howner := get_begun_same (p := Node.owner) (fun _ _ => rfl) (fun _ _ => rfl) s t n
  have hkind := get_begun_same (p := Node.kind) (fun _ _ => rfl) (fun _ _ => rfl) s t n
  refine ⟨fun t' hc => ?_, fun t' => ?_, fun t' m => ?_, fun t' m hm => ?_, fun t' c b hcb => ?_⟩
  · rw [get_paths_begun]
    split
    · simp
    · rename_i e
      refine h.fits.stored t' ?_
      simpa [begun, ThreadPaths.contains_set, e] using hc
  · rw [get_paths_begun]
    split
    · exact List.nodup_cons.2 ⟨hnot t, h.fits.nodup t⟩
    · exact h.fits.nodup t'
  · have hsize : (s.begun t n).forest.size = s.forest.size := by simp [begun]
    rw [mem_stack_begun, howner, hsize, h.fits.mem_iff t' m, get_begun h hst]
    by_cases e : m = n
    · subst e
      simp [Forest.lt_size_of_state (f := s.forest) (n := m) (by simp [hst]), hst, ho, Node.enter, @eq_comm _ t]
    · simp only [e, false_and, false_or, if_false]
      split <;> rfl
  · rw [hkind]
    rw [get_paths_begun] at hm
    split at hm
    · cases hs : (s.paths.get t).stack with
      | nil =>
        have ha : s.active? t = none := by simp [active?, Path.top?, hs]
        obtain rfl : m = n := by simpa [Path.root?, hs, eq_comm] using hm
        simpa [ha] using hk
      | cons b below =>
        refine h.fits.grounded t m ?_
        simpa [Path.root?, hs] using hm
    · exact h.fits.grounded t' m hm
  · rcases over_begun.1 hcb with ⟨-, rfl, ha⟩ | hover
    · have hne : b ≠ c := fun e => hnot t (e ▸ List.mem_of_mem_head? ha)
      rw [get_begun h hst, if_neg hne, if_pos ha]
      simp [Node.link]
    · have hne : b ≠ n := fun e => hnot t' (e ▸ hover.right_mem)
      have hna : s.active? t ≠ some b := fun ha => by
        have ht : t' = t := (h.owner_of_mem hover.right_mem).symm.trans (h.owner_of_active ha)
        rw [ht] at hover
        exact Path.not_over_top (h.fits.nodup t) ha hover
      rw [get_begun h hst, if_neg hne, if_neg hna]
      exact h.fits.linked t' c b hover

theorem begun_joined (h : s.Sound) (ho : (s.forest.get n).owner = t) (hst : (s.forest.get n).state = .created)
    {p c : NodeRef} (hpc : (s.begun t n).forest.Nests p c) : (s.begun t n).Joined p c := by
  have howner := get_begun_same (p := Node.owner) (fun _ _ => rfl) (fun _ _ => rfl) s t n
  -- Whatever began before is not the tracer that begins now.
  have hne : ∀ m, (s.forest.get m).hasStartTime = true → m ≠ n := fun m hm e => by
    simp [e, h.fresh n hst] at hm
  rcases (nests_begun h hst p c).1 hpc with hpc | ⟨ha, rfl⟩
  · obtain ⟨hoc, hp, hc, hover⟩ := h.joined p c hpc
    obtain ⟨hstate, htime⟩ := get_begun_other (t := t) h hst (hne c hc)
    refine ⟨by rw [howner, howner, hoc], by rw [(get_begun_other h hst (hne p hp)).2, hp], by rw [htime, hc],
      fun hrun => ?_⟩
    rw [howner]
    rw [hstate] at hrun
    exact over_begun.2 (.inr (hover hrun))
  · have hb : (s.forest.get p).hasStartTime = true := h.begun p (h.started_of_active ha)
    refine ⟨by rw [howner, howner, ho, h.owner_of_active ha], by rw [(get_begun_other h hst (hne p hb)).2, hb], ?_,
      fun _ => ?_⟩
    · rw [get_begun h hst, if_pos rfl]
      simp
    · rw [howner, ho]
      exact over_begun.2 (.inl ⟨rfl, rfl, ha⟩)

theorem Sound.begin (h : s.Sound) (ho : (s.forest.get n).owner = t) (hst : (s.forest.get n).state = .created)
    (hk : (s.active? t).isSome ∨ (s.forest.get n).kind.isEntrypoint = true) : (s.begun t n).Sound := by
  have hself : (s.begun t n).forest.get n = (s.forest.get n).enter .started s.clock := by
    rw [get_begun h hst, if_pos rfl]
  refine ⟨begun_pathsFit h ho hst hk, fun p c => begun_joined h ho hst, fun m hm => ?_, fun m hm => ?_,
    begun_isNesting h hst, fun r hr => ?_⟩
  · by_cases e : m = n
    · rw [e, hself] at hm
      cases hm
    · obtain ⟨hstate, htime⟩ := get_begun_other (t := t) h hst e
      rw [hstate] at hm
      rw [htime]
      exact h.fresh m hm
  · by_cases e : m = n
    · rw [e, hself]
      simp
    · obtain ⟨hstate, htime⟩ := get_begun_other (t := t) h hst e
      rw [hstate] at hm
      rw [htime]
      exact h.begun m hm
  · obtain ⟨hb, hr⟩ := h.archived r hr
    have hne : r ≠ n := fun e => by simp [e, h.fresh n hst] at hb
    obtain ⟨hstate, htime⟩ := get_begun_other (t := t) h hst hne
    rw [hstate, htime]
    exact ⟨hb, hr⟩

/-! ## Ending the top -/

variable {rest : List NodeRef}

theorem get_unwound (hn : n < s.forest.size) (m : NodeRef) :
    (s.unwound t n rest).forest.get m = if m = n then (s.forest.get n).enter .ended s.clock else s.forest.get m := by
  show (s.forest.modify n _).get m = _
  rw [Forest.get_modify_eq]
  by_cases e : m = n
  · subst e
    simp [hn]
  · simp [e, Ne.symm e]

/-- The end of a tracer changes only its state. -/
theorem get_unwound_same {α : Type} {p : Node → α} (he : ∀ m now, p (m.enter .ended now) = p m) (s : Session)
    (t : Thread) (n : NodeRef) (rest : List NodeRef) (m : NodeRef) :
    p ((s.unwound t n rest).forest.get m) = p (s.forest.get m) :=
  Forest.get_modify_same (fun m => he m _) s.forest n m

theorem get_paths_unwound (s : Session) (t t' : Thread) (n : NodeRef) (rest : List NodeRef) :
    (s.unwound t n rest).paths.get t' = if t' = t then ⟨rest⟩ else s.paths.get t' := by
  simp [unwound]

theorem over_of_unwound (hr : (s.paths.get t).stack = n :: rest) {t' : Thread} {c b : NodeRef}
    (hcb : ((s.unwound t n rest).paths.get t').Over c b) : (s.paths.get t').Over c b := by
  rw [get_paths_unwound] at hcb
  split at hcb
  · rename_i e
    rw [e, show s.paths.get t = ⟨n :: rest⟩ from congrArg Path.mk hr]
    exact Path.over_cons.2 (.inr hcb)
  · exact hcb

theorem over_unwound (hr : (s.paths.get t).stack = n :: rest) {t' : Thread} {c b : NodeRef} (hc : c ≠ n)
    (hcb : (s.paths.get t').Over c b) : ((s.unwound t n rest).paths.get t').Over c b := by
  rw [get_paths_unwound]
  split
  · rename_i e
    rw [e, show s.paths.get t = ⟨n :: rest⟩ from congrArg Path.mk hr, Path.over_cons] at hcb
    exact hcb.resolve_left fun h => hc h.1
  · exact hcb

theorem mem_stack_unwound (h : s.Sound) (hr : (s.paths.get t).stack = n :: rest) {t' : Thread} {m : NodeRef} :
    m ∈ ((s.unwound t n rest).paths.get t').stack ↔ m ≠ n ∧ m ∈ (s.paths.get t').stack := by
  have hn : n ∈ (s.paths.get t).stack := by simp [hr]
  rw [get_paths_unwound]
  split
  · rename_i e
    have hnot : n ∉ rest := (List.nodup_cons.1 (hr ▸ h.fits.nodup t)).1
    rw [e, hr]
    by_cases hm : m = n
    · simp [hm, hnot]
    · simp [hm]
  · rename_i e
    refine ⟨fun hm => ⟨fun hmn => e ?_, hm⟩, And.right⟩
    rw [← h.owner_of_mem hm, hmn, h.owner_of_mem hn]

theorem unwound_pathsFit (h : s.Sound) (hr : (s.paths.get t).stack = n :: rest) : (s.unwound t n rest).PathsFit := by
  have hn : n < s.forest.size := ((h.fits.mem_iff t n).1 (by simp [hr])).1
  refine ⟨fun t' hc => ?_, fun t' => ?_, fun t' m => ?_, fun t' m hm => ?_, fun t' c b hcb => ?_⟩
  · rw [get_paths_unwound]
    by_cases e : t' = t
    · simpa [unwound, ThreadPaths.contains_set, e] using hc
    · rw [if_neg e]
      refine h.fits.stored t' ?_
      simpa [unwound, finish, ThreadPaths.contains_set, e] using hc
  · rw [get_paths_unwound]
    split
    · exact (List.nodup_cons.1 (hr ▸ h.fits.nodup t)).2
    · exact h.fits.nodup t'
  · have hsize : (s.unwound t n rest).forest.size = s.forest.size := by simp [unwound, finish]
    rw [mem_stack_unwound h hr, h.fits.mem_iff t' m, hsize, get_unwound hn]
    by_cases e : m = n
    · subst e
      simp [Node.enter]
    · simp [e]
  · rw [get_unwound_same (p := Node.kind) fun _ _ => rfl]
    rw [get_paths_unwound] at hm
    split at hm
    · refine h.fits.grounded t m ?_
      have hne : rest ≠ [] := fun e => by simp [e, Path.root?] at hm
      obtain ⟨b, below, rfl⟩ := List.exists_cons_of_ne_nil hne
      simpa [Path.root?, hr] using hm
    · exact h.fits.grounded t' m hm
  · rw [get_unwound_same (p := Node.children) fun _ _ => rfl]
    exact h.fits.linked t' c b (over_of_unwound hr hcb)

theorem Sound.unwind (h : s.Sound) (hr : (s.paths.get t).stack = n :: rest) : (s.unwound t n rest).Sound := by
  have hmem : n ∈ (s.paths.get t).stack := by simp [hr]
  have hn : n < s.forest.size := ((h.fits.mem_iff t n).1 hmem).1
  have hbegun : (s.forest.get n).hasStartTime = true := h.begun n (h.started_of_mem hmem)
  have howner := get_unwound_same (p := Node.owner) (fun _ _ => rfl) s t n rest
  have htime := get_unwound_same (p := Node.hasStartTime) (fun _ _ => by simp) s t n rest
  have hrefs := get_unwound_same (p := Node.childRefs) (fun _ _ => rfl) s t n rest
  have hstate : ∀ m, ((s.unwound t n rest).forest.get m).state =
      if m = n then .ended else (s.forest.get m).state := fun m => by
    rw [get_unwound hn]
    split <;> rfl
  refine ⟨unwound_pathsFit h hr, fun p c hpc => ?_, fun m hm => ?_, fun m hm => ?_,
    h.nesting.congr (by simp [unwound, finish]) hrefs, fun r hr' => ?_⟩
  · rw [Forest.nests_congr hrefs] at hpc
    obtain ⟨ho, hp, hc, hover⟩ := h.joined p c hpc
    refine ⟨by rw [howner, howner, ho], by rw [htime, hp], by rw [htime, hc], fun hm => ?_⟩
    rw [hstate] at hm
    split at hm
    · cases hm
    · rename_i e
      rw [howner]
      exact over_unwound hr e (hover hm)
  · rw [hstate] at hm
    split at hm
    · cases hm
    · rw [htime]
      exact h.fresh m hm
  · rw [hstate] at hm
    split at hm
    · cases hm
    · rw [htime]
      exact h.begun m hm
  · obtain ⟨hb, hst⟩ := h.archived r hr'
    rw [htime, hstate, hst]
    exact ⟨hb, by simp⟩

theorem Sound.of_same (h : s.Sound) {s' : Session} (hf : s'.forest = s.forest) (hp : s'.paths = s.paths)
    (ha : ∀ r ∈ s'.archive.roots, (s.forest.get r).hasStartTime = true ∧ (s.forest.get r).state = .ended) :
    s'.Sound := by
  obtain ⟨⟨hstored, hnodup, hmem, hgrounded, hlinked⟩, hjoined, hfresh, hbegun, hnesting, -⟩ := h
  rw [← hf] at hmem hgrounded hlinked hfresh hbegun hnesting ha
  rw [← hp] at hstored hnodup hmem hgrounded hlinked
  refine ⟨⟨hstored, hnodup, hmem, hgrounded, hlinked⟩, fun p c hpc => ?_, hfresh, hbegun, hnesting, ha⟩
  rw [hf] at hpc
  obtain ⟨ho, hpt, hct, hover⟩ := hjoined p c hpc
  rw [← hf] at ho hpt hct hover
  rw [← hp] at hover
  exact ⟨ho, hpt, hct, hover⟩

theorem Sound.complete (h : s.Sound) (hr : (s.paths.get t).stack = [n]) :
    ((s.unwound t n []).completePath n).Sound := by
  obtain ⟨hf, hp, -, -, ha⟩ := completePath_same (s.unwound t n []) n
  have hu := h.unwind hr
  have hmem : n ∈ (s.paths.get t).stack := by simp [hr]
  refine hu.of_same hf hp fun r hr' => ?_
  rw [ha] at hr'
  split at hr'
  · rcases List.mem_append.1 hr' with hr' | hr'
    · exact hu.archived r hr'
    · obtain rfl := List.mem_singleton.1 hr'
      rw [get_unwound ((h.fits.mem_iff t r).1 hmem).1, if_pos rfl]
      exact ⟨by simp [h.begun r (h.started_of_mem hmem)], rfl⟩
  · exact hu.archived r hr'

end Session

/-! ## Every run -/

theorem Effect.sound {t : Thread} {s s' : Session} {ms : List Mark} (he : Effect t s ms s') (h : s.Sound) :
    s'.Sound := by
  cases he.shift h with
  | steady _ k => exact k.sound h
  | begun n _ ho hst hk => exact h.begin ho hst hk
  | unwound n rest hr _ => exact h.unwind hr
  | completed n hr => exact h.complete hr
  | emptied => exact h.of_same rfl rfl (by simp)

theorem Session.IsNew.sound {s : Session} (h : s.IsNew) : s.Sound := by
  have hnode := h.get_forest
  have hpath : ∀ t, s.paths.get t = {} := fun t => by
    rw [h.paths]
    rfl
  have hnests : ∀ p c, ¬ s.forest.Nests p c := fun p c hpc => by
    unfold Forest.Nests at hpc
    rw [hnode] at hpc
    cases hpc
  refine ⟨⟨fun t ht => ?_, fun t => ?_, fun t n => ?_, fun t n hn => ?_, fun t c b hcb => ?_⟩,
    fun p c hpc => absurd hpc (hnests p c), fun n hn => ?_, fun n hn => ?_,
    ⟨fun p c hpc => absurd hpc (hnests p c), fun n hn => ?_, fun p _ c hpc => absurd hpc (hnests p c), fun p => ?_⟩,
    fun r hr => ?_⟩
  · rw [h.paths] at ht
    cases ht
  · rw [hpath]
    exact List.nodup_nil
  · rw [hpath, hnode]
    simp [Node.blank]
  · rw [hpath] at hn
    cases hn
  · rw [hpath] at hcb
    exact absurd hcb.left_mem (by simp)
  · rw [hnode] at hn
    cases hn
  · rw [hnode] at hn
    cases hn
  · obtain ⟨m, -, hmn⟩ := Relation.TransGen.tail'_iff.1 hn
    exact hnests m n hmn
  · rw [hnode]
    exact List.nodup_nil
  · rw [h.archive] at hr
    cases hr

theorem Run.sound_of {s₀ s : Session} {log : List Step} (h : Run s₀ s log) (h0 : s₀.Sound) : s.Sound :=
  h.inv (fun _ _ _ _ he hs => he.sound hs) h0

theorem Run.sound {s₀ s : Session} {log : List Step} (h : Run s₀ s log) (h0 : s₀.IsNew) : s.Sound :=
  h.sound_of h0.sound

namespace Application

theorem Reachable.sound {app : Application} (h : app.Reachable) {r : SessionRef} (hr : r < app.sessions.size) :
    (app.get r).Sound := by
  obtain ⟨s₀, log, h0, hrun⟩ := h.run r hr
  exact hrun.sound h0

/-- The tracers on the path of a thread in a session, innermost first. -/
def path (app : Application) (t : Thread) (r : SessionRef) : List (SessionRef × NodeRef) :=
  ((app.get r).paths.get t).stack.map fun n => (r, n)

/-- How the paths of an application agree with the nodes of its sessions. -/
structure PathsFit (app : Application) : Prop where
  session : ∀ r < app.sessions.size, (app.get r).PathsFit
  /-- A running tracer is on one path only, that of its thread and its session. -/
  only : ∀ r < app.sessions.size, ∀ n, ((app.get r).forest.get n).state = .started →
    ∀ t r', (r, n) ∈ app.path t r' ↔ t = ((app.get r).forest.get n).owner ∧ r' = r

/-- Whatever was asked of the sessions of an application, in which order and on whichever threads,
each path is a chain of nested running tracers of its thread, and every running tracer is on it. -/
theorem Reachable.pathsFit {app : Application} (h : app.Reachable) : app.PathsFit where
  session r hr := (h.sound hr).fits
  only r hr n hst t r' := by
    simp only [path, List.mem_map, Prod.mk.injEq]
    constructor
    · rintro ⟨m, hm, rfl, rfl⟩
      exact ⟨((h.sound hr).owner_of_mem hm).symm, rfl⟩
    · rintro ⟨rfl, rfl⟩
      exact ⟨n, (h.sound hr).mem_of_started hst, rfl, rfl⟩

/-- A tracer runs inside another one that was let go, and a third one runs on a thread of its own. -/
def nestedProgram : List (SessionRef × Thread × Command) :=
  let service := Details.customService ⟨"method", "service"⟩
  [(0, ⟨"a"⟩, .create (.ofNat 1) service), (0, ⟨"a"⟩, .start 0),
    (0, ⟨"a"⟩, .create (.ofNat 2) service), (0, ⟨"a"⟩, .start 1), (0, ⟨"a"⟩, .drop 0),
    (0, ⟨"b"⟩, .create (.ofNat 3) service), (0, ⟨"a"⟩, .start 2), (0, ⟨"b"⟩, .start 2)]

theorem pathsFit_nestedProgram : (({} : Application).played nestedProgram).PathsFit ∧
    (({} : Application).played nestedProgram).path ⟨"a"⟩ 0 = [(0, 1), (0, 0)] :=
  ⟨Reachable.pathsFit (Reachable.init.played nestedProgram (by decide)), by decide⟩

end Application

end CallPath
