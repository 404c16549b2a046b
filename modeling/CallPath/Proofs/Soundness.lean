import CallPath.Proofs.Effects
/-!
# Sound sessions

The states of the nodes, their children, the order of the running tracers and the paths of the
threads are stored apart from each other. `Session.PathsFit` says how they agree, and
`Session.Sound` what else has to be kept for that.

Most effects touch nothing of all that (`Session.Steady`). The others start a tracer, end the top
of a path or empty the archive (`Shift`).
-/

namespace CallPath

/-! ## Neighbours on a path -/

namespace Path

/-- `c` is directly on top of `b`. -/
def Over (p : Path) (c b : NodeRef) : Prop :=
  [c, b] <:+: p.stack

theorem over_cons {n c b : NodeRef} {stack : List NodeRef} :
    Over ⟨n :: stack⟩ c b ↔ (c = n ∧ stack.head? = some b) ∨ Over ⟨stack⟩ c b := by
  unfold Over
  rw [List.infix_cons_iff, List.cons_prefix_cons]
  cases stack <;> simp [@eq_comm _ b]

variable {p : Path} {c c' b : NodeRef}

theorem Over.left_mem (h : p.Over c b) : c ∈ p.stack :=
  h.subset (by simp)

theorem Over.right_mem (h : p.Over c b) : b ∈ p.stack :=
  h.subset (by simp)

/-- Nothing runs on top of the top. -/
theorem not_over_top (hn : p.stack.Nodup) (ht : p.top? = some b) : ¬ p.Over c b := by
  obtain ⟨stack⟩ := p
  cases stack with
  | nil => cases ht
  | cons n below =>
    cases ht
    have hnot := (List.nodup_cons.1 hn).1
    intro h
    rcases over_cons.1 h with ⟨-, h⟩ | h
    · exact hnot (List.mem_of_mem_head? h)
    · exact hnot h.right_mem

theorem Over.left_unique (hn : p.stack.Nodup) (h : p.Over c b) (h' : p.Over c' b) : c = c' := by
  obtain ⟨stack⟩ := p
  induction stack with
  | nil => exact absurd h.left_mem (by simp)
  | cons n below ih =>
    have hn' := (List.nodup_cons.1 hn).2
    rcases over_cons.1 h with ⟨hc, hb⟩ | h <;> rcases over_cons.1 h' with ⟨hc', hb'⟩ | h'
    · rw [hc, hc']
    · exact absurd h' (not_over_top hn' hb)
    · exact absurd h (not_over_top hn' hb')
    · exact ih hn' h h'

end Path

theorem ThreadPaths.contains_set (ps : ThreadPaths) (t t' : Thread) (p : Path) :
    (ps.set t p).contains t' = if t' = t then !p.stack.isEmpty else ps.contains t' := by
  obtain ⟨stack⟩ := p
  cases stack <;> by_cases h : t' = t <;> simp [set, contains, h]

/-! ## The invariant -/

namespace Session

/-- How the paths of a session agree with its nodes. -/
structure PathsFit (s : Session) : Prop where
  /-- A path that is stored is not empty. -/
  stored : ∀ t, s.paths.contains t = true → (s.paths.get t).stack ≠ []
  nodup : ∀ t, (s.paths.get t).stack.Nodup
  /-- The running tracers of a thread are on its path, and no others. -/
  mem_iff : ∀ t n, n ∈ (s.paths.get t).stack ↔
    n < s.forest.size ∧ (s.forest.get n).state = .started ∧ (s.forest.get n).owner = t
  grounded : ∀ t, ∀ n ∈ (s.paths.get t).root?, (s.forest.get n).kind.isEntrypoint = true
  /-- Each tracer is the last child of the one that it runs on. -/
  linked : ∀ t c b, (s.paths.get t).Over c b → (s.forest.get b).children.getLast? = some (.child, c)

/-- What the nesting of `c` in `p` implies. -/
structure Joined (s : Session) (p c : NodeRef) : Prop where
  owner : (s.forest.get c).owner = (s.forest.get p).owner
  outer : (s.forest.get p).hasStartTime = true
  inner : (s.forest.get c).hasStartTime = true
  above : (s.forest.get c).state = .started → (s.paths.get (s.forest.get c).owner).Over c p

/-- What every command keeps. -/
structure Sound (s : Session) : Prop where
  fits : s.PathsFit
  joined : ∀ p c, s.forest.Nests p c → s.Joined p c
  fresh : ∀ n, (s.forest.get n).state = .created → (s.forest.get n).hasStartTime = false
  begun : ∀ n, (s.forest.get n).state = .started → (s.forest.get n).hasStartTime = true
  nesting : s.forest.IsNesting
  archived : ∀ r ∈ s.archive.roots, (s.forest.get r).hasStartTime = true ∧ (s.forest.get r).state = .ended

end Session

namespace Session.Sound

variable {s : Session} (h : s.Sound)

include h

theorem mem_of_started {n : NodeRef} (hst : (s.forest.get n).state = .started) :
    n ∈ (s.paths.get (s.forest.get n).owner).stack :=
  (h.fits.mem_iff _ n).2 ⟨Forest.lt_size_of_state (by simp [hst]), hst, rfl⟩

theorem started_of_mem {t : Thread} {n : NodeRef} (hn : n ∈ (s.paths.get t).stack) :
    (s.forest.get n).state = .started :=
  ((h.fits.mem_iff t n).1 hn).2.1

theorem owner_of_mem {t : Thread} {n : NodeRef} (hn : n ∈ (s.paths.get t).stack) : (s.forest.get n).owner = t :=
  ((h.fits.mem_iff t n).1 hn).2.2

theorem started_of_active {t : Thread} {n : NodeRef} (ha : s.active? t = some n) :
    (s.forest.get n).state = .started :=
  h.started_of_mem (List.mem_of_mem_head? ha)

theorem owner_of_active {t : Thread} {n : NodeRef} (ha : s.active? t = some n) : (s.forest.get n).owner = t :=
  h.owner_of_mem (List.mem_of_mem_head? ha)

/-- A tracer that never ran has nothing nested in it and is nested nowhere. -/
theorem not_nests_of_not_begun {n : NodeRef} (hn : (s.forest.get n).hasStartTime = false) (m : NodeRef) :
    ¬ s.forest.Nests n m ∧ ¬ s.forest.Nests m n := by
  refine ⟨fun hnm => ?_, fun hmn => ?_⟩
  · simp [(h.joined n m hnm).outer] at hn
  · simp [(h.joined m n hmn).inner] at hn

/-- Nothing runs inside a tracer that has ended. -/
theorem ended_of_nests {p c : NodeRef} (hpc : s.forest.Nests p c) (hp : (s.forest.get p).state = .ended) :
    (s.forest.get c).state = .ended := by
  have hj := h.joined p c hpc
  cases hc : (s.forest.get c).state with
  | ended => rfl
  | created =>
    have hb := hj.inner
    simp [h.fresh c hc] at hb
  | started =>
    -- The outer tracer would be on the path below it.
    have hst := h.started_of_mem (hj.above hc).right_mem
    simp [hp] at hst

theorem ended_of_below {r n : NodeRef} (hb : s.forest.Below r n) (hr : (s.forest.get r).state = .ended) :
    (s.forest.get n).state = .ended := by
  induction hb with
  | refl => exact hr
  | tail _ hpc ih => exact h.ended_of_nests hpc ih

theorem owner_of_below {r n : NodeRef} (hb : s.forest.Below r n) :
    (s.forest.get n).owner = (s.forest.get r).owner := by
  induction hb with
  | refl => rfl
  | tail _ hpc ih => exact (h.joined _ _ hpc).owner.trans ih

theorem ended_of_archived {n : NodeRef} (hn : n ∈ s.archive.nodes s.forest) : (s.forest.get n).state = .ended := by
  obtain ⟨r, hr, hn⟩ := List.mem_flatMap.1 hn
  exact h.ended_of_below (Forest.below_of_mem_preorder hn) (h.archived r hr).2

end Session.Sound

/-! ## Changes that leave the trees alone -/

/-- The same trees and paths; only nodes that never ran may have come or ended. -/
structure Session.Steady (s s' : Session) : Prop where
  paths : s'.paths = s.paths
  archive : s'.archive = s.archive
  settings : s'.settings = s.settings
  size : s.forest.size ≤ s'.forest.size
  childRefs : ∀ n, (s'.forest.get n).childRefs = (s.forest.get n).childRefs
  hasStartTime : ∀ n, (s'.forest.get n).hasStartTime = (s.forest.get n).hasStartTime
  begun : ∀ n, (s.forest.get n).hasStartTime = true → (s'.forest.get n).owner = (s.forest.get n).owner ∧
    (s'.forest.get n).kind = (s.forest.get n).kind ∧ (s'.forest.get n).state = (s.forest.get n).state
  running : ∀ n, (s.forest.get n).state = .started → (s'.forest.get n).children = (s.forest.get n).children
  idle : ∀ n, (s.forest.get n).hasStartTime = false → (s'.forest.get n).state ≠ .started

namespace Session.Steady

variable {s s' : Session} (k : s.Steady s') (h : s.Sound)

include k h

theorem started_iff (n : NodeRef) : (s'.forest.get n).state = .started ↔ (s.forest.get n).state = .started := by
  cases hb : (s.forest.get n).hasStartTime with
  | true => rw [(k.begun n hb).2.2]
  | false =>
    refine ⟨fun hst => absurd hst (k.idle n hb), fun hst => ?_⟩
    simp [h.begun n hst] at hb

theorem fits : s'.PathsFit where
  stored := by
    rw [k.paths]
    exact h.fits.stored
  nodup := by
    rw [k.paths]
    exact h.fits.nodup
  mem_iff t n := by
    rw [k.paths, h.fits.mem_iff, k.started_iff h]
    constructor <;> rintro ⟨-, hst, ho⟩
    · rw [(k.begun n (h.begun n hst)).1]
      exact ⟨Nat.lt_of_lt_of_le (Forest.lt_size_of_state (by simp [hst])) k.size, hst, ho⟩
    · rw [(k.begun n (h.begun n hst)).1] at ho
      exact ⟨Forest.lt_size_of_state (by simp [hst]), hst, ho⟩
  grounded t n hn := by
    rw [k.paths] at hn
    rw [(k.begun n (h.begun n (h.started_of_mem (List.mem_of_getLast? hn)))).2.1]
    exact h.fits.grounded t n hn
  linked t c b hcb := by
    rw [k.paths] at hcb
    rw [k.running b (h.started_of_mem hcb.right_mem)]
    exact h.fits.linked t c b hcb

theorem sound : s'.Sound where
  fits := k.fits h
  joined p c hpc := by
    rw [Forest.nests_congr k.childRefs] at hpc
    obtain ⟨ho, hp, hc, hover⟩ := h.joined p c hpc
    refine ⟨?_, by rw [k.hasStartTime, hp], by rw [k.hasStartTime, hc], fun hst => ?_⟩
    · rw [(k.begun c hc).1, (k.begun p hp).1, ho]
    · rw [(k.begun c hc).1, k.paths]
      exact hover ((k.started_iff h c).1 hst)
  fresh n hst := by
    rw [k.hasStartTime]
    cases hb : (s.forest.get n).hasStartTime with
    | false => rfl
    | true =>
      rw [(k.begun n hb).2.2] at hst
      simp [h.fresh n hst] at hb
  begun n hst := by
    rw [k.hasStartTime]
    exact h.begun n ((k.started_iff h n).1 hst)
  nesting := h.nesting.congr k.size k.childRefs
  archived r hr := by
    rw [k.archive] at hr
    obtain ⟨hb, hst⟩ := h.archived r hr
    rw [k.hasStartTime, (k.begun r hb).2.2]
    exact ⟨hb, hst⟩

end Session.Steady

/-- What an effect does to trees, paths and archive. -/
inductive Shift (t : Thread) (s : Session) : List Mark → Session → Prop
  | steady {ms : List Mark} {s' : Session} (hms : ms = [] ∨ ∃ id, ms = [.born id]) (h : s.Steady s') :
      Shift t s ms s'
  | begun (n : NodeRef) (hn : n < s.forest.size) (ho : (s.forest.get n).owner = t)
      (hst : (s.forest.get n).state = .created)
      (hk : (s.active? t).isSome ∨ (s.forest.get n).kind.isEntrypoint = true) :
      Shift t s [.begun n] (s.begun t n)
  | unwound (n : NodeRef) (rest : List NodeRef) (hr : (s.paths.get t).stack = n :: rest) (hne : rest ≠ []) :
      Shift t s [] (s.unwound t n rest)
  | completed (n : NodeRef) (hr : (s.paths.get t).stack = [n]) :
      Shift t s [.completed n] ((s.unwound t n []).completePath n)
  | emptied : Shift t s [.taken s.archive.roots] { s with archive := {} }

namespace Session

variable {s s' : Session}

theorem SameShape.steady (hs : s.SameShape s') (hset : s'.settings = s.settings) (h : s.Sound) : s.Steady s' where
  paths := hs.paths
  archive := hs.archive
  settings := hset
  size := Nat.le_of_eq hs.forest.size.symm
  childRefs n := by
    unfold Node.childRefs
    rw [(hs.forest.node n).children]
  hasStartTime n := (hs.forest.node n).hasStartTime
  begun n _ := ⟨(hs.forest.node n).owner, (hs.forest.node n).kind, (hs.forest.node n).state⟩
  running n _ := (hs.forest.node n).children
  idle n hn hst := by
    rw [(hs.forest.node n).state] at hst
    simp [h.begun n hst] at hn

theorem create_steady (t : Thread) (id : TracerId) (details : Details) (h : s.Sound) :
    s.Steady (s.create t id details).2 := by
  -- A new node stands where a blank one was read before.
  have node : ∀ n, (s.create t id details).2.forest.get n = s.forest.get n ∨
      (s.forest.get n = .blank ∧ ∃ receipt, (s.create t id details).2.forest.get n =
        { id, owner := t, details, createdAt := s.clock, receipt, held := true }) := fun n => by
    rw [get_create]
    split
    · rename_i e
      rw [e, Forest.get_of_size_le (Nat.le_refl _)]
      exact .inr ⟨rfl, _, rfl⟩
    · exact .inl rfl
  refine ⟨rfl, rfl, rfl, ?_, fun n => ?_, fun n => ?_, fun n hn => ?_, fun n hst => ?_, fun n hn hst => ?_⟩
  · show _ ≤ (s.forest.add _).2.size
    simp
  · rcases node n with e | ⟨hb, _, e⟩
    · rw [e]
    · rw [e, hb]
      rfl
  · rcases node n with e | ⟨hb, _, e⟩
    · rw [e]
    · rw [e, hb]
      rfl
  · rcases node n with e | ⟨hb, _, e⟩
    · rw [e]
      exact ⟨rfl, rfl, rfl⟩
    · rw [hb] at hn
      cases hn
  · rcases node n with e | ⟨hb, _, e⟩
    · rw [e]
    · rw [hb] at hst
      cases hst
  · rcases node n with e | ⟨hb, _, e⟩
    · rw [e] at hst
      simp [h.begun n hst] at hn
    · rw [e] at hst
      cases hst

/-- A tracer that never ran was ended. -/
theorem ended_steady {n : NodeRef} (h : s.Sound) (hst : (s.forest.get n).state = .created)
    (hf : s'.forest = s.forest.modify n (·.enter .ended s.clock)) (hp : s'.paths = s.paths)
    (ha : s'.archive = s.archive) (hs : s'.settings = s.settings) : s.Steady s' := by
  have node : ∀ m, m = n ∨ s'.forest.get m = s.forest.get m := fun m => by
    rw [hf]
    by_cases e : m = n
    · exact .inl e
    · exact .inr (Forest.get_modify_ne (Ne.symm e))
  have hself : s'.forest.get n = (s.forest.get n).enter .ended s.clock := by
    rw [hf, Forest.get_modify _ _ _ _ (Forest.lt_size_of_state (by simp [hst])), if_pos rfl]
  refine ⟨hp, ha, hs, ?_, fun m => ?_, fun m => ?_, fun m hm => ?_, fun m hm => ?_, fun m hm hst' => ?_⟩
  · rw [hf, Forest.size_modify]
  · rcases node m with rfl | e
    · rw [hself]
      rfl
    · rw [e]
  · rcases node m with rfl | e
    · simp [hself]
    · rw [e]
  · rcases node m with rfl | e
    · simp [h.fresh m hst] at hm
    · rw [e]
      exact ⟨rfl, rfl, rfl⟩
  · rcases node m with rfl | e
    · simp [hst] at hm
    · rw [e]
  · rcases node m with rfl | e
    · rw [hself] at hst'
      cases hst'
    · rw [e] at hst'
      simp [h.begun m hst'] at hm

theorem linked_steady {consumer producer : NodeRef} (h : s.Sound) (hp : producer ∈ s.archive.nodes s.forest) :
    s.Steady { s with forest := s.forest.resolve consumer producer } := by
  have keep : ∀ {α} {p : Node → α}, (∀ m x, p { m with producer := x } = p m) →
      (∀ m k c, p (Node.link m k c) = p m) → ∀ n, p ((s.forest.resolve consumer producer).get n) = p (s.forest.get n) :=
    fun hpr hl n => (Forest.get_modify_same (fun m => hl m _ _) _ producer n).trans
      (Forest.get_modify_same (fun m => hpr m _) s.forest consumer n)
  have start := keep (p := Node.hasStartTime) (fun _ _ => rfl) (fun _ _ _ => rfl)
  have state := keep (p := Node.state) (fun _ _ => rfl) (fun _ _ _ => rfl)
  refine ⟨rfl, rfl, rfl, by simp [Forest.resolve], s.forest.childRefs_resolve _ _, start, fun n _ => ⟨?_, ?_, state n⟩,
    fun n hst => ?_, fun n hn hst => ?_⟩
  · exact keep (p := Node.owner) (fun _ _ => rfl) (fun _ _ _ => rfl) n
  · exact keep (p := Node.kind) (fun _ _ => rfl) (fun _ _ _ => rfl) n
  · -- The producer is archived, and what runs is not.
    have hne : producer ≠ n := fun e => by
      rw [← e, h.ended_of_archived hp] at hst
      cases hst
    unfold Forest.resolve
    rw [Forest.get_modify_ne hne, Forest.get_modify_same (p := Node.children)]
    exact fun _ => rfl
  · rw [state] at hst
    simp [h.begun n hst] at hn

end Session

theorem Effect.shift {t : Thread} {s s' : Session} {ms : List Mark} (he : Effect t s ms s') (h : s.Sound) :
    Shift t s ms s' := by
  -- Nearly all effects leave the shape of the session as it is.
  have still : ∀ {s'}, s.SameShape s' → s'.settings = s.settings → Shift t s [] s' := fun hs hset =>
    .steady (.inl rfl) (hs.steady hset h)
  cases he with
  | refused n e => exact still ⟨.refl _, rfl, rfl⟩ rfl
  | logged e => exact still ⟨.refl _, rfl, rfl⟩ rfl
  | warned message => exact still ⟨.refl _, rfl, rfl⟩ rfl
  | counted l u => exact still ⟨.refl _, rfl, rfl⟩ rfl
  | tuned a _ => exact still ⟨.refl _, rfl, rfl⟩ rfl
  | leaked n _ _ _ => exact still ⟨.refl _, rfl, rfl⟩ rfl
  | tagRead n form _ _ _ _ => exact still ⟨.refl _, rfl, rfl⟩ rfl
  | released n _ => exact still (Session.released_sameShape s n) rfl
  | updated n u d _ _ _ _ hd => exact still (Session.updated_sameShape hd) rfl
  | failed n c m _ _ _ _ _ => exact still (Session.failed_sameShape s n c m) rfl
  | tagged n tag _ _ _ _ => exact still (Session.tagged_sameShape s n tag) rfl
  | attributed n key value _ _ => exact still ⟨.modify ⟨rfl, rfl, rfl, rfl, rfl, rfl⟩, rfl, rfl⟩ rfl
  | created id d _ => exact .steady (.inr ⟨id, rfl⟩) (Session.create_steady t id d h)
  | finished n _ _ hst => exact .steady (.inl rfl) (Session.ended_steady h hst rfl rfl rfl rfl)
  | discarded n _ _ hst => exact .steady (.inl rfl) (Session.ended_steady h hst rfl rfl rfl rfl)
  | linked consumer producer _ hp _ _ => exact .steady (.inl rfl) (Session.linked_steady h hp)
  | begun n hn ho hst hk => exact .begun n hn ho hst hk
  | unwound n rest _ _ _ hr hne => exact .unwound n rest hr hne
  | completed n _ _ _ hr => exact .completed n hr
  | emptied => exact .emptied

end CallPath
