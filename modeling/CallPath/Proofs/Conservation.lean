import CallPath.Proofs.Paths
/-!
# No trace is lost

A tracer that was started is in the tree of one live path, or in one archived tree, or in one tree
that was drained, and it is there once; a tracer that was not started is in none of them
(`Run.conserves`). The archive gives the roots out in the order in which their paths were
completed.

What a run did is read off its log. `Session.Tally` compares it with the session, effect by effect.
-/

namespace CallPath

/-! ## What a log tells -/

namespace Step

/-- The tracer that the command started. -/
def begun (x : Step) : List NodeRef :=
  match x.command, x.reply with
  | .start n, .done (.ok _) => [n]
  | _, _ => []

/-- The root of the path that the command completed: its thread had a path before and has none
after it. -/
def completed (x : Step) : List NodeRef :=
  Session.completions x.thread x.before x.after

/-- The roots that the command took out of the archive. -/
def removed (x : Step) : List NodeRef :=
  match x.command with
  | .drain | .clearArchive => x.before.archive.roots
  | _ => []

/-- The roots that the command gave out. -/
def drained (x : Step) : List NodeRef :=
  match x.command, x.reply with
  | .drain, .nodes roots => roots
  | _, _ => []

end Step

/-! ## The roots of live paths -/

/-- No key is bound twice. -/
def Table.Keyed {κ ν : Type} (t : Table κ ν) : Prop :=
  (t.bindings.map Prod.fst).Nodup

namespace Table

variable {κ ν : Type} [DecidableEq κ]

theorem map_fst_insertIn (k : κ) (v : ν) (bs : List (κ × ν)) : (insertIn k v bs).map Prod.fst =
    if k ∈ bs.map Prod.fst then bs.map Prod.fst else bs.map Prod.fst ++ [k] := by
  induction bs with
  | nil => simp [insertIn]
  | cons b bs ih =>
    unfold insertIn
    split
    · rename_i h
      simp [h]
    · rename_i h
      rw [List.map_cons, ih]
      by_cases hk : k ∈ bs.map Prod.fst <;> simp [hk, h]

theorem Keyed.insert {t : Table κ ν} (h : t.Keyed) (k : κ) (v : ν) : (t.insert k v).Keyed := by
  unfold Keyed Table.insert
  rw [map_fst_insertIn]
  split
  · exact h
  · rename_i hk
    exact List.Nodup.append h (by simp) (by simpa using hk)

theorem Keyed.erase {t : Table κ ν} (h : t.Keyed) (k : κ) : (t.erase k).Keyed :=
  h.sublist (List.filter_sublist.map _)

theorem Keyed.mem_bindings_iff {t : Table κ ν} (h : t.Keyed) (k : κ) (v : ν) :
    (k, v) ∈ t.bindings ↔ t.get? k = some v := by
  obtain ⟨bs⟩ := t
  unfold Keyed at h
  unfold get?
  induction bs with
  | nil => simp [findIn]
  | cons b bs ih =>
    obtain ⟨k', v'⟩ := b
    have hnot := (List.nodup_cons.1 h).1
    by_cases e : k = k'
    · subst e
      have hk : (k, v) ∉ bs := fun hb => hnot (List.mem_map.2 ⟨_, hb, rfl⟩)
      simp [findIn, hk, eq_comm]
    · simpa [findIn, e] using ih (List.nodup_cons.1 h).2

end Table

namespace Session

/-- The bottom of every live path. -/
def liveRoots (s : Session) : List NodeRef :=
  s.paths.table.values.filterMap Path.root?

variable {s : Session} {t : Thread} {n : NodeRef}

theorem mem_liveRoots (hk : s.paths.table.Keyed) : n ∈ s.liveRoots ↔ ∃ t, (s.paths.get t).root? = some n := by
  simp only [liveRoots, Table.values, List.mem_filterMap, List.mem_map, Prod.exists]
  constructor
  · rintro ⟨p, ⟨t, _, hp, rfl⟩, hr⟩
    refine ⟨t, ?_⟩
    rw [ThreadPaths.get, (hk.mem_bindings_iff t _).1 hp]
    exact hr
  · rintro ⟨t, hr⟩
    cases hp : s.paths.table.get? t with
    | none => simp [ThreadPaths.get, hp, Path.root?] at hr
    | some p =>
      rw [ThreadPaths.get, hp] at hr
      exact ⟨p, ⟨t, p, (hk.mem_bindings_iff t p).2 hp, rfl⟩, hr⟩

theorem Sound.liveRoots_nodup (h : s.Sound) (hk : s.paths.table.Keyed) : s.liveRoots.Nodup := by
  unfold liveRoots Table.values List.Nodup
  rw [List.filterMap_map, List.pairwise_filterMap]
  refine (List.pairwise_map.1 hk).imp_of_mem ?_
  -- Paths of different threads have nothing in common.
  rintro ⟨t, p⟩ ⟨t', p'⟩ hp hp' hne r hr r' hr' rfl
  have owner : ∀ {u q}, (u, q) ∈ s.paths.table.bindings → Path.root? q = some r →
      (s.forest.get r).owner = u := fun {u q} hq hroot => by
    have hget : s.paths.get u = q := by simp [ThreadPaths.get, (hk.mem_bindings_iff u q).1 hq]
    exact h.owner_of_mem (t := u) (by rw [hget]; exact List.mem_of_getLast? hroot)
  exact hne ((owner hp hr).symm.trans (owner hp' hr'))

theorem started_of_root (h : s.Sound) (hr : (s.paths.get t).root? = some n) :
    (s.forest.get n).state = .started :=
  h.started_of_mem (List.mem_of_getLast? hr)

end Session

/-- Nothing is below the bottom. -/
theorem Path.not_over_root {p : Path} {c b : NodeRef} (hn : p.stack.Nodup) (hc : p.root? = some c) : ¬ p.Over c b := by
  rintro ⟨above, below, hs⟩
  have hs' : p.stack = (above ++ [c]) ++ b :: below := by simp [← hs]
  rw [Path.root?, hs', List.getLast?_append_of_ne_nil _ (by simp)] at hc
  rw [hs'] at hn
  exact (List.nodup_append'.1 hn).2.2 (by simp) (List.mem_of_getLast? hc)

/-! ## The invariant -/

namespace Session

/-- How a session agrees with what its log tells: the tracers that began, the roots of completed
paths and the roots that were drained, each in order. -/
structure Tally (s : Session) (begun completed drained : List NodeRef) : Prop where
  sound : s.Sound
  keyed : s.paths.table.Keyed
  retains : s.settings.retainCompletedPaths = true
  begun_iff : ∀ n, n ∈ begun ↔ (s.forest.get n).hasStartTime = true
  begun_nodup : begun.Nodup
  archive : drained ++ s.archive.roots = completed
  completed_nodup : completed.Nodup
  closed : ∀ r ∈ completed, r ∈ begun ∧ (s.forest.get r).state = .ended ∧ s.forest.IsRoot r
  covered : ∀ n ∈ begun, (∃ r ∈ completed, s.forest.Below r n) ∨
    ∃ t, ∃ r ∈ (s.paths.get t).root?, s.forest.Below r n

namespace Tally

variable {s s' : Session} {t : Thread} {n : NodeRef} {begun completed drained : List NodeRef}

theorem steady (h : s.Tally begun completed drained) (k : s.Steady s') : s'.Tally begun completed drained := by
  refine ⟨k.sound h.sound, ?_, ?_, fun n => ?_, h.begun_nodup, ?_, h.completed_nodup, fun r hr => ?_, ?_⟩
  · rw [k.paths]
    exact h.keyed
  · rw [k.settings]
    exact h.retains
  · rw [k.hasStartTime]
    exact h.begun_iff n
  · rw [k.archive]
    exact h.archive
  · obtain ⟨hb, hst, hroot⟩ := h.closed r hr
    refine ⟨hb, ?_, (Forest.isRoot_congr k.childRefs r).2 hroot⟩
    rw [(k.begun r ((h.begun_iff r).1 hb)).2.2, hst]
  · rw [Forest.below_congr k.childRefs, k.paths]
    exact h.covered

/-- The root of a live path is nested in nothing. -/
theorem isRoot_of_live (h : s.Sound) (hr : (s.paths.get t).root? = some n) : s.forest.IsRoot n := by
  intro p hp
  have hover := (h.joined p n hp).above (started_of_root h hr)
  rw [h.owner_of_mem (List.mem_of_getLast? hr)] at hover
  exact Path.not_over_root (h.fits.nodup t) hr hover

theorem keyed_set {ps : ThreadPaths} (hk : ps.table.Keyed) (t : Thread) (p : Path) : (ps.set t p).table.Keyed := by
  unfold ThreadPaths.set
  dsimp only
  split
  · exact hk.erase t
  · exact hk.insert t p

/-- What is above a tracer before a start is still above it. -/
theorem covered_begun (h : s.Tally begun completed drained) (hst : (s.forest.get n).state = .created) {m : NodeRef}
    (hm : m ∈ begun) : (∃ r ∈ completed, (s.begun t n).forest.Below r m) ∨
      ∃ t', ∃ r ∈ ((s.begun t n).paths.get t').root?, (s.begun t n).forest.Below r m := by
  rcases h.covered m hm with ⟨r, hr, hb⟩ | ⟨t', r, hr, hb⟩
  · exact .inl ⟨r, hr, below_begun h.sound hst hb⟩
  · exact .inr ⟨t', r, root?_begun hr, below_begun h.sound hst hb⟩

theorem begin (h : s.Tally begun completed drained) (ho : (s.forest.get n).owner = t)
    (hst : (s.forest.get n).state = .created)
    (hk : (s.active? t).isSome ∨ (s.forest.get n).kind.isEntrypoint = true) :
    (s.begun t n).Tally (begun ++ [n]) completed drained := by
  have hs := h.sound
  have hnot : n ∉ begun := fun hn => by
    have hfresh := hs.fresh n hst
    simp [(h.begun_iff n).1 hn] at hfresh
  refine ⟨hs.begin ho hst hk, keyed_set h.keyed _ _, h.retains, fun m => ?_, ?_, h.archive, h.completed_nodup,
    fun r hr => ?_, fun m hm => ?_⟩
  · by_cases e : m = n
    · subst e
      simp [get_begun hs hst]
    · rw [(get_begun_other hs hst e).2, ← h.begun_iff m]
      simp [e]
  · exact List.Nodup.append h.begun_nodup (by simp) (by simpa using hnot)
  · obtain ⟨hb, hended, hroot⟩ := h.closed r hr
    have hne : r ≠ n := fun e => hnot (e ▸ hb)
    refine ⟨by simp [hb], by rw [(get_begun_other hs hst hne).1, hended], fun p hp => ?_⟩
    rcases (nests_begun hs hst p r).1 hp with hp | ⟨-, e⟩
    · exact hroot p hp
    · exact hne e
  · rcases List.mem_append.1 hm with hm | hm
    · exact h.covered_begun hst hm
    · obtain rfl := List.mem_singleton.1 hm
      -- It is the root of a new path, or below whatever the tracer on top is below.
      cases ha : s.active? t with
      | none =>
        have hp : (s.paths.get t).stack = [] := by simpa [active?, Path.top?] using ha
        exact .inr ⟨t, m, by simp [get_paths_begun, hp, Path.root?], .refl⟩
      | some b =>
        have hbm : (s.begun t m).forest.Nests b m := (nests_begun hs hst b m).2 (.inr ⟨ha, rfl⟩)
        have hb : b ∈ begun := (h.begun_iff b).2 (hs.begun b (hs.started_of_active ha))
        rcases h.covered_begun hst hb with ⟨r, hr, hrb⟩ | ⟨t', r, hr, hrb⟩
        · exact .inl ⟨r, hr, hrb.tail hbm⟩
        · exact .inr ⟨t', r, hr, hrb.tail hbm⟩

/-- What the end of the top leaves in place, whatever was below it. -/
theorem unwound_same (h : s.Tally begun completed drained) {rest : List NodeRef}
    (hr : (s.paths.get t).stack = n :: rest) :
    (∀ m, ((s.unwound t n rest).forest.get m).childRefs = (s.forest.get m).childRefs) ∧
      (∀ m, m ∈ begun ↔ ((s.unwound t n rest).forest.get m).hasStartTime = true) ∧
      ∀ r ∈ completed, ((s.unwound t n rest).forest.get r).state = .ended := by
  have hn : n < s.forest.size := ((h.sound.fits.mem_iff t n).1 (by simp [hr])).1
  refine ⟨get_unwound_same (fun _ _ => rfl) s t n rest, fun m => ?_, fun r hr => ?_⟩
  · rw [get_unwound_same (p := Node.hasStartTime) fun _ _ => by simp]
    exact h.begun_iff m
  · rw [get_unwound hn]
    split
    · rfl
    · exact (h.closed r hr).2.1

theorem unwind (h : s.Tally begun completed drained) {rest : List NodeRef}
    (hr : (s.paths.get t).stack = n :: rest) (hne : rest ≠ []) :
    (s.unwound t n rest).Tally begun completed drained := by
  obtain ⟨hrefs, hbegun, hended⟩ := h.unwound_same hr
  have hroot : ∀ t', ((s.unwound t n rest).paths.get t').root? = (s.paths.get t').root? := fun t' => by
    rw [get_paths_unwound]
    split
    · rename_i e
      obtain ⟨b, below, rfl⟩ := List.exists_cons_of_ne_nil hne
      simp [e, Path.root?, hr]
    · rfl
  refine ⟨h.sound.unwind hr, keyed_set h.keyed _ _, h.retains, hbegun, h.begun_nodup, h.archive, h.completed_nodup,
    fun r hr => ⟨(h.closed r hr).1, hended r hr, (Forest.isRoot_congr hrefs r).2 (h.closed r hr).2.2⟩, fun m hm => ?_⟩
  rw [Forest.below_congr hrefs]
  simp only [hroot]
  exact h.covered m hm

theorem complete (h : s.Tally begun completed drained) (hr : (s.paths.get t).stack = [n]) :
    ((s.unwound t n []).completePath n).Tally begun (completed ++ [n]) drained := by
  obtain ⟨hrefs, hbegun, hended⟩ := h.unwound_same hr
  obtain ⟨hf, hp, hset, -, ha⟩ := completePath_same (s.unwound t n []) n
  have hroot : (s.paths.get t).root? = some n := by simp [Path.root?, hr]
  have hlt : n < s.forest.size := ((h.sound.fits.mem_iff t n).1 (by simp [hr])).1
  have hst : (s.forest.get n).state = .started := started_of_root h.sound hroot
  have hn : n ∉ completed := fun hn => by
    simp [(h.closed n hn).2.1] at hst
  refine ⟨h.sound.complete hr, ?_, ?_, fun m => ?_, h.begun_nodup, ?_, ?_, fun r hr' => ?_, fun m hm => ?_⟩
  · rw [hp]
    exact keyed_set h.keyed _ _
  · rw [hset]
    exact h.retains
  · rw [hf]
    exact hbegun m
  · have hret : (s.unwound t n []).settings.retainCompletedPaths = true := h.retains
    rw [ha, if_pos hret, ← h.archive, List.append_assoc]
    rfl
  · exact List.Nodup.append h.completed_nodup (by simp) (by simpa using hn)
  · rw [hf, Forest.isRoot_congr hrefs]
    rcases List.mem_append.1 hr' with hr' | hr'
    · exact ⟨(h.closed r hr').1, hended r hr', (h.closed r hr').2.2⟩
    · obtain rfl := List.mem_singleton.1 hr'
      refine ⟨(h.begun_iff r).2 (h.sound.begun r hst), ?_, isRoot_of_live h.sound hroot⟩
      rw [get_unwound hlt, if_pos rfl]
      rfl
  · rw [hf, hp, Forest.below_congr hrefs]
    rcases h.covered m hm with ⟨r, hr', hb⟩ | ⟨t', r, hr', hb⟩
    · exact .inl ⟨r, by simp [hr'], hb⟩
    · by_cases e : t' = t
      · -- What was below the root of the path is now below a completed root.
        obtain rfl : n = r := by simpa [e, hroot] using hr'
        exact .inl ⟨n, by simp, hb⟩
      · exact .inr ⟨t', r, by rw [get_paths_unwound, if_neg e]; exact hr', hb⟩

theorem empty (h : s.Tally begun completed drained) :
    ({ s with archive := {} } : Session).Tally begun completed (drained ++ s.archive.roots) := by
  refine ⟨h.sound.of_same rfl rfl (by simp), h.keyed, h.retains, h.begun_iff, h.begun_nodup, ?_, h.completed_nodup,
    h.closed, h.covered⟩
  rw [← h.archive]
  simp

end Tally

end Session

/-! ## Marks and logs -/

namespace Mark

/-- The tracer that began. -/
def begins : Mark → List NodeRef
  | begun n => [n]
  | _ => []

/-- The root whose path was completed. -/
def completes : Mark → List NodeRef
  | completed root => [root]
  | _ => []

/-- The roots that were taken. -/
def takes : Mark → List NodeRef
  | taken roots => roots
  | _ => []

end Mark

theorem Effect.tally {t : Thread} {s s' : Session} {ms : List Mark} (he : Effect t s ms s')
    {begun completed drained : List NodeRef} (h : s.Tally begun completed drained) :
    s'.Tally (begun ++ ms.flatMap Mark.begins) (completed ++ ms.flatMap Mark.completes)
      (drained ++ ms.flatMap Mark.takes) := by
  cases he.shift h.sound with
  | steady hms k =>
    rcases hms with rfl | ⟨id, rfl⟩ <;> simpa [Mark.begins, Mark.completes, Mark.takes] using h.steady k
  | begun n hn ho hst hk => simpa [Mark.begins, Mark.completes, Mark.takes] using h.begin ho hst hk
  | unwound n rest hr hne => simpa using h.unwind hr hne
  | completed n hr => simpa [Mark.begins, Mark.completes, Mark.takes] using h.complete hr
  | emptied => simpa [Mark.begins, Mark.completes, Mark.takes] using h.empty

theorem Effects.tally {t : Thread} {s s' : Session} {ms : List Mark} (he : Effects t s ms s')
    {begun completed drained : List NodeRef} (h : s.Tally begun completed drained) :
    s'.Tally (begun ++ ms.flatMap Mark.begins) (completed ++ ms.flatMap Mark.completes)
      (drained ++ ms.flatMap Mark.takes) := by
  induction he generalizing begun completed drained with
  | nil => simpa using h
  | cons he _ ih => simpa [List.flatMap_append, List.append_assoc] using ih (he.tally h)

/-- Where nothing begins, the path of the thread keeps its root, or it is completed. -/
def KeepsRoot (t : Thread) (s s' : Session) (ms : List Mark) : Prop :=
  ((s'.paths.get t).root? = (s.paths.get t).root? ∧ ms.flatMap Mark.completes = []) ∨
    ∃ r, (s.paths.get t).root? = some r ∧ (s'.paths.get t).root? = none ∧ ms.flatMap Mark.completes = [r]

theorem Effect.keepsRoot {t : Thread} {s s' : Session} {ms : List Mark} (he : Effect t s ms s')
    (hb : ms.flatMap Mark.begins = []) : KeepsRoot t s s' ms := by
  cases he with
  | begun n _ _ _ _ => cases hb
  | unwound n rest _ _ _ hr hne =>
    refine .inl ⟨?_, rfl⟩
    obtain ⟨b, below, rfl⟩ := List.exists_cons_of_ne_nil hne
    simp [Session.get_paths_unwound, Path.root?, hr]
  | completed n _ _ _ hr =>
    refine .inr ⟨n, by simp [Path.root?, hr], ?_, rfl⟩
    rw [(Session.completePath_same _ n).2.1, Session.get_paths_unwound, if_pos rfl]
    rfl
  | _ => exact .inl ⟨rfl, rfl⟩

theorem Effects.keepsRoot {t : Thread} {s s' : Session} {ms : List Mark} (h : Effects t s ms s')
    (hb : ms.flatMap Mark.begins = []) : KeepsRoot t s s' ms := by
  induction h with
  | nil => exact .inl ⟨rfl, rfl⟩
  | cons he _ ih =>
    rw [List.flatMap_append, List.append_eq_nil_iff] at hb
    unfold KeepsRoot
    rw [List.flatMap_append]
    rcases he.keepsRoot hb.1 with ⟨e, hc⟩ | ⟨r, hr, e, hc⟩ <;> rcases ih hb.2 with ⟨e', hc'⟩ | ⟨r', hr', e', hc'⟩
    · exact .inl ⟨e'.trans e, by rw [hc, hc']; rfl⟩
    · exact .inr ⟨r', e ▸ hr', e', by rw [hc, hc']; rfl⟩
    · exact .inr ⟨r, hr, e'.trans e, by rw [hc, hc']; rfl⟩
    · rw [e] at hr'
      cases hr'

theorem KeepsRoot.completions_eq {t : Thread} {s s' : Session} {ms : List Mark} (h : KeepsRoot t s s' ms) :
    Session.completions t s s' = ms.flatMap Mark.completes := by
  rcases h with ⟨e, hc⟩ | ⟨r, hr, e, hc⟩
  · rw [Session.completions_of_root_eq e, hc]
  · rw [hc]
    simp [Session.completions, hr, e]

namespace Step

variable {x : Step}

theorem flatMap_completed (roots : List NodeRef) : (roots.map Mark.completed).flatMap Mark.begins = [] ∧
    (roots.map Mark.completed).flatMap Mark.completes = roots ∧
      (roots.map Mark.completed).flatMap Mark.takes = [] := by
  induction roots with
  | nil => exact ⟨rfl, rfl, rfl⟩
  | cons r roots ih => simpa [Mark.begins, Mark.completes, Mark.takes] using ih

theorem begins_marks (x : Step) : x.marks.flatMap Mark.begins = x.begun := by
  obtain ⟨s, t, c⟩ := x
  cases c with
  | start n =>
    unfold marks begun
    dsimp only
    split <;> simp_all [Mark.begins]
  | trace id op o =>
    unfold marks begun
    dsimp only
    split <;> rfl
  | endTracer n => exact (flatMap_completed _).1
  | leave n outcome => exact (flatMap_completed _).1
  | _ => rfl

theorem takes_marks (x : Step) : x.marks.flatMap Mark.takes = x.removed := by
  obtain ⟨s, t, c⟩ := x
  cases c with
  | start n =>
    unfold marks removed
    dsimp only
    split <;> simp_all [Mark.takes]
  | trace id op o =>
    unfold marks removed
    dsimp only
    split <;> rfl
  | endTracer n => exact (flatMap_completed _).2.2
  | leave n outcome => exact (flatMap_completed _).2.2
  | drain => exact List.append_nil _
  | clearArchive => exact List.append_nil _
  | _ => rfl

theorem removed_eq_drained (h : x.command ≠ .clearArchive) : x.removed = x.drained := by
  obtain ⟨s, t, c⟩ := x
  cases c with
  | clearArchive => exact absurd rfl h
  | _ => rfl

theorem completes_marks (h : x.before.Admits x.command) : x.marks.flatMap Mark.completes = x.completed := by
  -- A start does not complete a path: afterwards its thread has one.
  by_cases hb : x.marks.flatMap Mark.begins = []
  · exact ((effects h).keepsRoot hb).completions_eq.symm
  · obtain ⟨s, t, c⟩ := x
    rw [begins_marks] at hb
    cases c with
    | start n =>
      rcases s.start_cases t n with ⟨e, hs⟩ | ⟨-, -, -, hs⟩
      · simp [begun, reply, Session.perform, hs] at hb
      · have hroot : ((s.begun t n).paths.get t).root? ≠ none := by
          simp [Session.get_paths_begun, Path.root?]
        simp only [marks, completed, reply, after, Session.perform, hs, Prod.map, id]
        unfold Session.completions
        split
        · rename_i e
          exact absurd e hroot
        · rfl
    | _ => exact absurd rfl hb

end Step

theorem Run.tally_removed {s₀ s : Session} {log : List Step} (h : Run s₀ s log) (h0 : s₀.IsNew)
    (hr : s₀.settings.retainCompletedPaths = true) :
    s.Tally (log.flatMap Step.begun) (log.flatMap Step.completed) (log.flatMap Step.removed) := by
  induction h with
  | nil =>
    refine ⟨h0.sound, ?_, hr, fun n => ?_, List.nodup_nil, ?_, List.nodup_nil, by simp, by simp⟩
    · rw [h0.paths]
      exact List.nodup_nil
    · rw [h0.get_forest]
      simp [Node.blank, Node.hasStartTime]
    · rw [h0.archive]
      rfl
  | @step s log t c _ ha ih =>
    have htally := (Step.effects (x := ⟨s, t, c⟩) ha).tally ih
    rw [Step.begins_marks, Step.completes_marks ha, Step.takes_marks] at htally
    simp only [List.flatMap_append, List.flatMap_singleton]
    exact htally

theorem Run.tally {s₀ s : Session} {log : List Step} (h : Run s₀ s log) (h0 : s₀.IsNew)
    (hr : s₀.settings.retainCompletedPaths = true) (hc : ∀ x ∈ log, x.command ≠ .clearArchive) :
    s.Tally (log.flatMap Step.begun) (log.flatMap Step.completed) (log.flatMap Step.drained) := by
  have hremoved : log.flatMap Step.removed = log.flatMap Step.drained :=
    List.flatMap_congr fun x hx => Step.removed_eq_drained (hc x hx)
  rw [← hremoved]
  exact h.tally_removed h0 hr

/-! ## Conservation -/

namespace Session

/-- Where the tracers of a session are, with what its log tells. -/
structure Conserves (s : Session) (log : List Step) : Prop where
  nesting : s.forest.IsNesting
  /-- The trees of the live paths, of the archive and of what was drained consist of the tracers
  that were started. -/
  trees : ((s.liveRoots ++ s.archive.roots ++ log.flatMap Step.drained).flatMap s.forest.preorder).Perm
    (log.flatMap Step.begun)
  begun_nodup : (log.flatMap Step.begun).Nodup
  /-- A tree that was completed has ended throughout, and was traced on one thread. -/
  ended : ∀ r ∈ s.archive.roots ++ log.flatMap Step.drained, ∀ n ∈ s.forest.preorder r,
    n < s.forest.size ∧ (s.forest.get n).state = .ended ∧ (s.forest.get n).owner = (s.forest.get r).owner
  /-- The drained batches and then the archive are the completed roots, in order. -/
  batches : log.flatMap Step.drained ++ s.archive.roots = log.flatMap Step.completed
  completed_nodup : (log.flatMap Step.completed).Nodup

namespace Tally

variable {s : Session} {begun completed drained : List NodeRef} (h : s.Tally begun completed drained)

include h

theorem mem_completed {r : NodeRef} (hr : r ∈ s.archive.roots ++ drained) : r ∈ completed := by
  rw [← h.archive]
  exact List.perm_append_comm.subset hr

theorem roots_nodup : (s.liveRoots ++ s.archive.roots ++ drained).Nodup := by
  rw [List.append_assoc]
  refine List.nodup_append'.2 ⟨h.sound.liveRoots_nodup h.keyed, ?_, fun r hl hc => ?_⟩
  · have hp : (s.archive.roots ++ drained).Perm completed := h.archive ▸ List.perm_append_comm
    exact hp.nodup_iff.2 h.completed_nodup
  · -- The root of a live path is running, and that of a completed one has ended.
    obtain ⟨t, hr⟩ := (mem_liveRoots h.keyed).1 hl
    have hst := started_of_root h.sound hr
    rw [(h.closed r (h.mem_completed hc)).2.1] at hst
    cases hst

theorem root_of_mem {r : NodeRef} (hr : r ∈ s.liveRoots ++ s.archive.roots ++ drained) :
    r ∈ begun ∧ s.forest.IsRoot r := by
  rw [List.append_assoc] at hr
  rcases List.mem_append.1 hr with hr | hr
  · obtain ⟨t, hr⟩ := (mem_liveRoots h.keyed).1 hr
    exact ⟨(h.begun_iff r).2 (h.sound.begun r (started_of_root h.sound hr)), isRoot_of_live h.sound hr⟩
  · obtain ⟨hb, -, hroot⟩ := h.closed r (h.mem_completed hr)
    exact ⟨hb, hroot⟩

theorem begun_of_below {r n : NodeRef} (hb : s.forest.Below r n) (hr : r ∈ begun) : n ∈ begun := by
  rw [h.begun_iff] at hr ⊢
  cases hb.cases_tail with
  | inl e => rw [e, hr]
  | inr hp => exact (h.sound.joined _ _ hp.choose_spec.2).inner

theorem mem_trees_iff (n : NodeRef) :
    n ∈ (s.liveRoots ++ s.archive.roots ++ drained).flatMap s.forest.preorder ↔ n ∈ begun := by
  simp only [List.mem_flatMap, h.sound.nesting.mem_preorder_iff]
  constructor
  · rintro ⟨r, hr, hb⟩
    exact h.begun_of_below hb (h.root_of_mem hr).1
  · intro hn
    rcases h.covered n hn with ⟨r, hr, hb⟩ | ⟨t, r, hr, hb⟩
    · refine ⟨r, ?_, hb⟩
      rw [← h.archive] at hr
      rw [List.append_assoc]
      exact List.mem_append_right _ (List.perm_append_comm.subset hr)
    · refine ⟨r, ?_, hb⟩
      rw [List.append_assoc]
      exact List.mem_append_left _ ((mem_liveRoots h.keyed).2 ⟨t, hr⟩)

end Tally

theorem Tally.conserved {s : Session} {log : List Step}
    (h : s.Tally (log.flatMap Step.begun) (log.flatMap Step.completed) (log.flatMap Step.drained)) :
    s.Conserves log where
  nesting := h.sound.nesting
  trees := by
    have hn := h.sound.nesting.nodup_flatMap_preorder h.roots_nodup fun r hr => (h.root_of_mem hr).2
    exact (List.perm_ext_iff_of_nodup hn h.begun_nodup).2 h.mem_trees_iff
  begun_nodup := h.begun_nodup
  ended r hr n hn := by
    have hb := Forest.below_of_mem_preorder hn
    obtain ⟨hbegun, hst, -⟩ := h.closed r (h.mem_completed hr)
    refine ⟨?_, h.sound.ended_of_below hb hst, h.sound.owner_of_below hb⟩
    by_contra hlt
    have htime := (h.begun_iff n).1 (h.begun_of_below hb hbegun)
    rw [Forest.get_of_size_le (Nat.le_of_not_lt hlt)] at htime
    cases htime
  batches := h.archive
  completed_nodup := h.completed_nodup

end Session

/-- However a session that retains its completed paths was used, and whenever its archive was
drained, no tracer that was started is lost and none is there twice. -/
theorem Run.conserves {s₀ s : Session} {log : List Step} (h : Run s₀ s log) (h0 : s₀.IsNew)
    (hr : s₀.settings.retainCompletedPaths = true) (hc : ∀ x ∈ log, x.command ≠ .clearArchive) :
    s.Conserves log :=
  (h.tally h0 hr hc).conserved

/-- Two paths are completed, with a drain in between; a tracer was ended without a start, and
another path is still live. -/
def drainedProgram : List (Thread × Command) :=
  let service := Details.customService ⟨"method", "service"⟩
  [(⟨"a"⟩, .create (.ofNat 1) service), (⟨"a"⟩, .create (.ofNat 2) service),
    (⟨"a"⟩, .create (.ofNat 3) service), (⟨"a"⟩, .start 0), (⟨"a"⟩, .start 1), (⟨"a"⟩, .endTracer 1),
    (⟨"a"⟩, .endTracer 0), (⟨"a"⟩, .endTracer 2), (⟨"b"⟩, .drain), (⟨"b"⟩, .create (.ofNat 4) service),
    (⟨"b"⟩, .start 3), (⟨"b"⟩, .endTracer 3), (⟨"a"⟩, .create (.ofNat 5) service), (⟨"a"⟩, .start 4)]

theorem conserves_drainedProgram :
    let s₀ : Session := { name := "session" }
    (s₀.played drainedProgram).Conserves (s₀.play drainedProgram) ∧
      (s₀.play drainedProgram).flatMap Step.drained = [0] ∧ (s₀.played drainedProgram).archive.roots = [3] ∧
      (s₀.played drainedProgram).liveRoots = [4] := by
  have hnew : Session.IsNew { name := "session" } := ⟨rfl, rfl, rfl, rfl, by rintro r ⟨⟩⟩
  have hstart : Run { name := "session" } { name := "session" } [] := .nil
  have hrun := hstart.played drainedProgram (by decide)
  refine ⟨Run.conserves hrun hnew rfl ?_, by decide, by decide, by decide⟩
  simp [drainedProgram, Session.play]

end CallPath
