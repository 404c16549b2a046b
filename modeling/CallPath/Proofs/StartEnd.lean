import CallPath.Proofs.Paths
/-!
# Start and end are decided by the path

Two checks stand before the end of a running tracer: no child may be running, and the tracer must
be on top of its path. The children come from the node and the top from the path, but in a sound
session they agree, so that the first check answers whenever the second one would
(`Reachable.decidedByPath`).
-/

namespace CallPath

/-- Below the top there is always something over a tracer. -/
theorem Path.top_or_over {p : Path} {n : NodeRef} (hn : n ∈ p.stack) : p.top? = some n ∨
    ∃ above c below, p.stack = above ++ c :: n :: below ∧ p.Over c n := by
  obtain ⟨stack⟩ := p
  obtain ⟨above, below, rfl⟩ := List.append_of_mem hn
  rcases List.eq_nil_or_concat above with rfl | ⟨above, c, rfl⟩
  · exact .inl rfl
  · exact .inr ⟨above, c, below, by simp, above, below, by simp⟩

namespace Session

variable {s : Session} {t : Thread} {n : NodeRef}

/-! ## The children that run -/

/-- A child that runs is over its parent, on the path of their common owner. -/
theorem Sound.over_of_running (h : s.Sound) {c : NodeRef} (hc : c ∈ (s.forest.get n).childRefs)
    (hst : (s.forest.get c).state = .started) : (s.paths.get (s.forest.get n).owner).Over c n := by
  have hj := h.joined n c hc
  rw [← hj.owner]
  exact hj.above hst

theorem Sound.unendedChildren_of_top (h : s.Sound) (ht : s.active? (s.forest.get n).owner = some n) :
    s.forest.unendedChildren n = [] := by
  have hnone : ∀ c ∈ (s.forest.get n).childRefs, (s.forest.get c).state ≠ .started := fun c hc hst =>
    Path.not_over_top (h.fits.nodup _) ht (h.over_of_running hc hst)
  simpa [Forest.unendedChildren] using hnone

theorem Sound.nests_of_over (h : s.Sound) {c : NodeRef} (hc : (s.paths.get t).Over c n) : s.forest.Nests n c := by
  have hlast := List.mem_of_getLast? (h.fits.linked t c n hc)
  exact List.mem_map.2 ⟨_, List.mem_filter.2 ⟨hlast, by simp⟩, rfl⟩

theorem Sound.unendedChildren_of_over (h : s.Sound) {c : NodeRef} (hc : (s.paths.get t).Over c n) :
    s.forest.unendedChildren n = [s.forest.label c] := by
  have hmem : c ∈ (s.forest.get n).childRefs := h.nests_of_over hc
  -- Any other child that runs would be directly on top of `n` as well.
  have hrun : ∀ d ∈ (s.forest.get n).childRefs, decide ((s.forest.get d).state = .started) = decide (d = c) := by
    intro d hd
    rw [decide_eq_decide]
    constructor
    · intro hst
      have hover := h.over_of_running hd hst
      rw [h.owner_of_mem hc.right_mem] at hover
      exact hover.left_unique (h.fits.nodup t) hc
    · rintro rfl
      exact h.started_of_mem hc.left_mem
  unfold Forest.unendedChildren
  rw [List.filter_congr hrun, List.filter_eq, List.count_eq_one_of_mem (h.nesting.nodup n) hmem]
  rfl

/-! ## What the end of a running tracer answers -/

theorem endTracer_of_started (ho : (s.forest.get n).owner = t) (hst : (s.forest.get n).state = .started) :
    (s.endTracer t n).1 =
      if s.forest.unendedChildren n ≠ [] then
        .error (.unendedChildren (s.forest.label n) (s.forest.unendedChildren n))
      else ((s.paths.get t).pop s.forest n).map fun _ => () := by
  unfold endTracer
  simp only [(Node.requireThread_eq_ok (u := ())).2 ho, hst]
  split
  · rfl
  · cases (s.paths.get t).pop s.forest n <;> rfl

theorem Sound.endTracer_of_top (h : s.Sound) (hst : (s.forest.get n).state = .started)
    (ht : s.active? (s.forest.get n).owner = some n) : (s.endTracer (s.forest.get n).owner n).1 = .ok () := by
  obtain ⟨rest, hr⟩ := List.head?_eq_some_iff.1 ht
  rw [endTracer_of_started rfl hst, h.unendedChildren_of_top ht]
  rw [(Path.pop_eq_ok (r := (_, _))).2 ⟨rest, hr, rfl⟩]
  rfl

theorem Sound.endTracer_of_over (h : s.Sound) {c : NodeRef} (hc : (s.paths.get t).Over c n) :
    (s.endTracer t n).1 = .error (.unendedChildren (s.forest.label n) [s.forest.label c]) := by
  have hn := hc.right_mem
  rw [endTracer_of_started (h.owner_of_mem hn) (h.started_of_mem hn), h.unendedChildren_of_over hc]
  rfl

theorem endTracer_of_ended (ho : (s.forest.get n).owner = t) (hst : (s.forest.get n).state = .ended) :
    s.endTracer t n = (.ok (), s) := by
  unfold endTracer
  simp only [(Node.requireThread_eq_ok (u := ())).2 ho, hst]
  rfl

theorem endTracer_of_foreign (ho : (s.forest.get n).owner ≠ t) :
    (s.endTracer t n).1 = .error (.threadAffinity (s.forest.label n) (s.forest.get n).owner t) := by
  have ht : (s.forest.get n).requireThread t = .error (.threadAffinity (s.forest.label n) (s.forest.get n).owner t) :=
    if_neg (Ne.symm ho)
  unfold endTracer
  simp only [ht]
  rfl

/-- The check against the path never answers. -/
theorem Sound.not_outOfOrderEnd (h : s.Sound) (t : Thread) (n : NodeRef) (label top : String) :
    (s.endTracer t n).1 ≠ .error (.outOfOrderEnd label top) := by
  by_cases ho : (s.forest.get n).owner = t
  · cases hst : (s.forest.get n).state with
    | created =>
      rw [endTracer_of_created ho hst]
      nofun
    | ended =>
      rw [endTracer_of_ended ho hst]
      nofun
    | started =>
      subst ho
      rcases Path.top_or_over (h.mem_of_started hst) with ht | ⟨_, c, _, _, hc⟩
      · rw [h.endTracer_of_top hst ht]
        nofun
      · rw [h.endTracer_of_over hc]
        nofun
  · rw [endTracer_of_foreign ho]
    nofun

/-! ## Decided by the path -/

/-- What the path of its thread says about the start and the end of a tracer. -/
structure DecidedByPath (s : Session) (n : NodeRef) : Prop where
  start_iff : (s.start (s.forest.get n).owner n).1 = .ok () ↔ (s.forest.get n).state = .created ∧
    ((s.forest.get n).kind.isEntrypoint = true ∨ (s.paths.get (s.forest.get n).owner).stack ≠ [])
  /-- A tracer that starts comes on top of the path. -/
  start_path : (s.start (s.forest.get n).owner n).1 = .ok () →
    ((s.start (s.forest.get n).owner n).2.paths.get (s.forest.get n).owner).stack =
      n :: (s.paths.get (s.forest.get n).owner).stack
  /-- It becomes the last child of the tracer that was on top. -/
  start_child : (s.start (s.forest.get n).owner n).1 = .ok () → ∀ b ∈ (s.paths.get (s.forest.get n).owner).top?,
    ((s.start (s.forest.get n).owner n).2.forest.get b).children = (s.forest.get b).children ++ [(.child, n)]
  end_iff : (s.forest.get n).state = .started → ((s.endTracer (s.forest.get n).owner n).1 = .ok () ↔
    (s.paths.get (s.forest.get n).owner).top? = some n)
  /-- The end of any other running tracer is refused, and the refusal names the one directly over it. -/
  end_error : (s.forest.get n).state = .started → (s.paths.get (s.forest.get n).owner).top? ≠ some n →
    ∃ above c below, (s.paths.get (s.forest.get n).owner).stack = above ++ c :: n :: below ∧
      (s.endTracer (s.forest.get n).owner n).1 =
        .error (.unendedChildren (s.forest.label n) [s.forest.label c])
  end_ordered : ∀ t label top, (s.endTracer t n).1 ≠ .error (.outOfOrderEnd label top)

theorem active_isSome_iff (s : Session) (t : Thread) : (s.active? t).isSome ↔ (s.paths.get t).stack ≠ [] := by
  simp [active?, Path.top?]

theorem Sound.decided (h : s.Sound) (n : NodeRef) : s.DecidedByPath n := by
  have ready : ∀ {u}, (s.start (s.forest.get n).owner n).1 = .ok u → (s.forest.get n).state = .created ∧
      ((s.active? (s.forest.get n).owner).isSome ∨ (s.forest.get n).kind.isEntrypoint = true) ∧
      s.start (s.forest.get n).owner n = (.ok (), s.begun (s.forest.get n).owner n) := fun hok => by
    rcases s.start_cases (s.forest.get n).owner n with ⟨e, h⟩ | ⟨-, h⟩
    · rw [h] at hok
      cases hok
    · exact h
  refine ⟨⟨fun hok => ?_, fun ⟨hst, hk⟩ => ?_⟩, fun hok => ?_, fun hok b hb => ?_, fun hst => ⟨fun hok => ?_, ?_⟩,
    fun hst ht => ?_, fun t => h.not_outOfOrderEnd t n⟩
  · obtain ⟨hst, hk, -⟩ := ready hok
    rw [active_isSome_iff] at hk
    exact ⟨hst, hk.symm⟩
  · rw [← active_isSome_iff] at hk
    rw [start_of_ready rfl hst hk.symm]
  · obtain ⟨-, -, hs⟩ := ready hok
    rw [hs, get_paths_begun, if_pos rfl]
  · obtain ⟨hst, -, hs⟩ := ready hok
    have hne : b ≠ n := fun e => by
      simp [← e, h.started_of_active hb] at hst
    have ha : s.active? (s.forest.get n).owner = some b := hb
    rw [hs, get_begun h hst, if_neg hne, if_pos ha]
    rfl
  · rcases Path.top_or_over (h.mem_of_started hst) with ht | ⟨_, c, _, _, hc⟩
    · exact ht
    · rw [h.endTracer_of_over hc] at hok
      cases hok
  · exact h.endTracer_of_top hst
  · obtain hn | ⟨above, c, below, hs, hc⟩ := Path.top_or_over (h.mem_of_started hst)
    · exact absurd hn ht
    · exact ⟨above, c, below, hs, h.endTracer_of_over hc⟩

end Session

namespace Application

/-- In every state of an application, the path of its thread alone decides whether a tracer can be
started and whether a running one can be ended. -/
theorem Reachable.decidedByPath {app : Application} (h : app.Reachable) {r : SessionRef}
    (hr : r < app.sessions.size) (n : NodeRef) : (app.get r).DecidedByPath n :=
  (h.sound hr).decided n

theorem decidedByPath_nestedProgram :
    ((({} : Application).played nestedProgram).get 0).DecidedByPath 0 ∧
      (((({} : Application).played nestedProgram).get 0).forest.get 0).state = .started ∧
      (((({} : Application).played nestedProgram).get 0).paths.get ⟨"a"⟩).stack = [1, 0] :=
  ⟨Reachable.decidedByPath (Reachable.init.played nestedProgram (by decide)) (by decide) 0, by decide,
    by decide⟩

end Application

end CallPath
