import CallPath.Proofs.Accounts
import Mathlib.Data.List.TakeWhile
/-!
# The calls tell the trace

The nesting of tracers is stored in the nodes and in the paths of the threads, and none of it is told
to the agent: it hears of starts and ends, in the order in which they happen. This order is enough.
A tracer is nested in the innermost one that ran on its thread when its start was called, and the
starts and ends of a thread are bracketed (`Session.Retraced`).

With the accounts of the single tracers, the calls that a recording agent receives, each on the thread
that makes it, tell everything that the nodes of its session hold by themselves (`Run.replayed`).
-/

namespace CallPath

namespace AgentCall

/-- The tracer that was started. -/
def start? : AgentCall → Option TracerId
  | start id => some id
  | _ => none

/-- The tracers that were started, in order. -/
def starts (calls : List AgentCall) : List TracerId :=
  calls.filterMap start?

section

variable (owner : TracerId → Option Thread)

/-- The tracers of a thread that were started and were not ended, the innermost first. -/
def running (calls : List AgentCall) (t : Thread) : List TracerId :=
  ((starts calls).filter fun id => owner id = some t ∧ .ended id ∉ calls).reverse

/-- The innermost tracer that ran on the thread of a tracer when the start of that one was called. -/
def outerOf (calls : List AgentCall) (id : TracerId) : Option TracerId :=
  (owner id).bind fun t => (running owner (calls.takeWhile (· ≠ .start id)) t).head?

/-- The tracers that were started inside another, in order. -/
def innerOf (calls : List AgentCall) (id : TracerId) : List TracerId :=
  (starts calls).filter fun c => outerOf owner calls c = some id

/-- The starts of the tracers of a thread, and the ends of those that were started. -/
def brackets (calls : List AgentCall) (t : Thread) : List AgentCall :=
  calls.filter fun c => (c = .start c.id ∨ c = .ended c.id) ∧ .start c.id ∈ calls ∧ owner c.id = some t

end

/-- The calls are bracketed: each end is the end of the last tracer that was started and did not end
before. The second list has the tracers that did not end at all, the last one first. -/
inductive Bracketed : List AgentCall → List TracerId → Prop
  | nil : Bracketed [] []
  | start {calls : List AgentCall} {ids : List TracerId} (id : TracerId) :
      Bracketed calls ids → Bracketed (calls ++ [.start id]) (id :: ids)
  | ended {calls : List AgentCall} {ids : List TracerId} (id : TracerId) :
      Bracketed calls (id :: ids) → Bracketed (calls ++ [.ended id]) ids

/-! ## One more call -/

variable {owner : TracerId → Option Thread} {calls : List AgentCall} {c : AgentCall} {id : TracerId} {t : Thread}

theorem mem_starts : id ∈ starts calls ↔ .start id ∈ calls := by
  simp only [starts, List.mem_filterMap]
  constructor
  · rintro ⟨c, hc, e⟩
    cases c <;> cases e
    exact hc
  · intro h
    exact ⟨_, h, rfl⟩

theorem starts_snoc (calls : List AgentCall) (c : AgentCall) :
    starts (calls ++ [c]) = starts calls ++ c.start?.toList := by
  cases h : c.start? <;> simp [starts, h]

theorem start_mem_of_running (h : id ∈ running owner calls t) : .start id ∈ calls := by
  rw [← mem_starts]
  exact List.mem_of_mem_filter (List.mem_reverse.1 h)

/-- Where a tracer was not started, it makes no difference that it is ended. -/
def Idle (calls : List AgentCall) (c : AgentCall) : Prop :=
  c.start? = none ∧ ∀ id, c = .ended id → .start id ∉ calls

theorem running_idle (h : Idle calls c) (t : Thread) : running owner (calls ++ [c]) t = running owner calls t := by
  unfold running
  rw [starts_snoc, h.1, Option.toList_none, List.append_nil]
  congr 1
  apply List.filter_congr
  intro id hid
  have hne : .ended id ≠ c := fun e => h.2 id e.symm (mem_starts.1 hid)
  simp [hne]

theorem running_start (ho : owner id = some t) (he : .ended id ∉ calls) (t' : Thread) :
    running owner (calls ++ [.start id]) t' =
      if t' = t then id :: running owner calls t' else running owner calls t' := by
  unfold running
  rw [starts_snoc]
  by_cases ht : t' = t
  · simp [start?, ht, ho, he]
  · simp [start?, ht, ho, Ne.symm ht]

theorem running_ended (t : Thread) :
    running owner (calls ++ [.ended id]) t = (running owner calls t).filter (· ≠ id) := by
  unfold running
  rw [starts_snoc, List.filter_reverse, List.filter_filter]
  simp only [start?, Option.toList_none, List.append_nil, List.mem_append, List.mem_singleton, AgentCall.ended.injEq]
  congr 1
  apply List.filter_congr
  intro id' _
  by_cases e : id' = id <;> simp [e]

theorem outerOf_append (h : .start id ∈ calls) (l : List AgentCall) :
    outerOf owner (calls ++ l) id = outerOf owner calls id := by
  unfold outerOf
  have hlt : (calls.takeWhile (· ≠ .start id)).length ≠ calls.length := by
    intro e
    have hall := List.takeWhile_eq_self_iff.1 ((List.takeWhile_prefix _).eq_of_length e) (.start id) h
    simp at hall
  rw [List.takeWhile_append, if_neg hlt]

theorem outerOf_start (h : .start id ∉ calls) (ho : owner id = some t) :
    outerOf owner (calls ++ [.start id]) id = (running owner calls t).head? := by
  have hall : calls.takeWhile (· ≠ .start id) = calls := by
    rw [List.takeWhile_eq_self_iff]
    intro c hc
    have hne : c ≠ .start id := fun e => h (e ▸ hc)
    simpa using hne
  unfold outerOf
  rw [List.takeWhile_append, hall, if_pos rfl, ho]
  simp

theorem start_mem_of_outerOf {q : TracerId} (h : outerOf owner calls id = some q) : .start q ∈ calls := by
  obtain ⟨t, -, hq⟩ := Option.bind_eq_some_iff.1 h
  exact (List.takeWhile_prefix _).subset (start_mem_of_running (List.mem_of_mem_head? hq))

theorem innerOf_of_start?_eq_none (h : c.start? = none) (q : TracerId) :
    innerOf owner (calls ++ [c]) q = innerOf owner calls q := by
  unfold innerOf
  rw [starts_snoc, h, Option.toList_none, List.append_nil]
  apply List.filter_congr
  intro id hid
  rw [outerOf_append (mem_starts.1 hid)]

theorem innerOf_start (h : .start id ∉ calls) (ho : owner id = some t) (q : TracerId) :
    innerOf owner (calls ++ [.start id]) q =
      innerOf owner calls q ++ if (running owner calls t).head? = some q then [id] else [] := by
  unfold innerOf
  rw [starts_snoc, List.filter_append]
  congr 1
  · apply List.filter_congr
    intro c hc
    rw [outerOf_append (mem_starts.1 hc)]
  · simp [start?, outerOf_start h ho, List.filter_cons]

theorem innerOf_eq_nil {q : TracerId} (h : .start q ∉ calls) : innerOf owner calls q = [] := by
  apply List.filter_eq_nil_iff.2
  intro id _ hq
  exact h (start_mem_of_outerOf (of_decide_eq_true hq))

theorem brackets_of_start?_eq_none (h : c.start? = none) (t : Thread) :
    brackets owner (calls ++ [c]) t = brackets owner calls t ++
      if c = .ended c.id ∧ .start c.id ∈ calls ∧ owner c.id = some t then [c] else [] := by
  have hmem : ∀ id, .start id ∈ calls ++ [c] ↔ .start id ∈ calls := by
    intro id
    have hne : .start id ≠ c := by
      rintro rfl
      cases h
    simp [hne]
  unfold brackets
  simp only [hmem]
  rw [List.filter_append]
  congr 1
  have hne : c ≠ .start c.id := by
    intro e
    rw [e] at h
    cases h
  simp [List.filter_cons, hne]

theorem brackets_start (h : .start id ∉ calls) (he : .ended id ∉ calls) (ho : owner id = some t) (t' : Thread) :
    brackets owner (calls ++ [.start id]) t' = brackets owner calls t' ++ if t' = t then [.start id] else [] := by
  unfold brackets
  rw [List.filter_append]
  congr 1
  · apply List.filter_congr
    intro c hc
    -- So far there is neither a start nor an end of this tracer.
    have hother : (c = .start c.id ∨ c = .ended c.id) → c.id ≠ id := by
      rintro (e | e) rfl
      · exact h (e ▸ hc)
      · exact he (e ▸ hc)
    apply decide_eq_decide.2
    refine and_congr_right fun hb => and_congr_left' ?_
    simp [hother hb]
  · by_cases ht : t' = t
    · simp [AgentCall.id, ho, ht]
    · simp [AgentCall.id, ho, ht, Ne.symm ht]

end AgentCall

/-! ## The nesting of a session -/

open AgentCall

/-- What the owners of ids are taken to be fits the nodes. -/
def Forest.OwnedBy (f : Forest) (owner : TracerId → Option Thread) : Prop :=
  ∀ n < f.size, owner (f.idOf n) = some (f.get n).owner

/-- The paths and the nested tracers of a session are those that its agent could tell. -/
structure Session.Retraced (s : Session) (owner : TracerId → Option Thread) : Prop where
  path : ∀ t, running owner s.agent.calls t = (s.paths.get t).stack.map s.forest.idOf
  inner : ∀ p < s.forest.size, (s.forest.get p).childRefs.map s.forest.idOf =
    innerOf owner s.agent.calls (s.forest.idOf p)
  bracketed : ∀ t, Bracketed (brackets owner s.agent.calls t) (running owner s.agent.calls t)

namespace Session

variable {s s' : Session} {owner : TracerId → Option Thread} {t : Thread} {n : NodeRef}

theorem InStep.not_told_of_created (hi : s.InStep) (hf : s.agent.isFound = true) (hn : n < s.forest.size)
    (hst : (s.forest.get n).state = .created) :
    .start (s.forest.idOf n) ∉ s.agent.calls ∧ .ended (s.forest.idOf n) ∉ s.agent.calls := by
  have h := hi.stateAfter hf hn
  rw [hst] at h
  unfold AgentCall.stateAfter at h
  split at h
  · cases h
  · split at h
    · cases h
    · constructor <;> assumption

theorem InStep.start_mem_of_started (hi : s.InStep) (hf : s.agent.isFound = true) (hn : n < s.forest.size)
    (hst : (s.forest.get n).state = .started) : .start (s.forest.idOf n) ∈ s.agent.calls := by
  have h := hi.stateAfter hf hn
  rw [hst] at h
  unfold AgentCall.stateAfter at h
  split at h
  · cases h
  · split at h
    · assumption
    · cases h

theorem Sound.lt_of_mem (hs : s.Sound) (h : n ∈ (s.paths.get t).stack) : n < s.forest.size :=
  ((hs.fits.mem_iff t n).1 h).1

/-- The agent heard nothing of starts and of the ends of started tracers, and nothing of them was done. -/
theorem Retraced.keep (h : s.Retraced owner)
    (hcalls : s'.agent.calls = s.agent.calls ∨
      ∃ c, Idle s.agent.calls c ∧ s'.agent.calls = s.agent.calls ++ [c])
    (hsize : s'.forest.size = s.forest.size) (hpaths : s'.paths = s.paths)
    (hrefs : ∀ p, (s'.forest.get p).childRefs = (s.forest.get p).childRefs)
    (hid : ∀ p, s'.forest.idOf p = s.forest.idOf p) : s'.Retraced owner := by
  have hrunning : ∀ t, running owner s'.agent.calls t = running owner s.agent.calls t := by
    intro t
    rcases hcalls with e | ⟨c, hc, e⟩
    · rw [e]
    · rw [e, running_idle hc]
  refine ⟨?_, ?_, ?_⟩
  · intro t
    rw [hrunning, hpaths, funext hid]
    exact h.path t
  · intro p hp
    rw [hrefs, hid, funext hid, h.inner p (hsize ▸ hp)]
    rcases hcalls with e | ⟨c, hc, e⟩
    · rw [e]
    · rw [e, innerOf_of_start?_eq_none hc.1]
  · intro t
    rw [hrunning]
    rcases hcalls with e | ⟨c, hc, e⟩
    · rw [e]
      exact h.bracketed t
    · have hnone : ¬ (c = .ended c.id ∧ .start c.id ∈ s.agent.calls ∧ owner c.id = some t) := fun hb =>
        hc.2 _ hb.1 hb.2.1
      rw [e, brackets_of_start?_eq_none hc.1, if_neg hnone, List.append_nil]
      exact h.bracketed t

theorem Retraced.begin (h : s.Retraced owner) (hs : s.Sound) (hi : s.InStep) (hf : s.agent.isFound = true)
    (hown : s.forest.OwnedBy owner) (hn : n < s.forest.size) (ho : (s.forest.get n).owner = t)
    (hst : (s.forest.get n).state = .created) : (s.begun t n).Retraced owner := by
  have hcalls : (s.begun t n).agent.calls = s.agent.calls ++ [.start (s.forest.idOf n)] :=
    Agent.calls_hear hf (.start (s.forest.idOf n))
  have hid : (s.begun t n).forest.idOf = s.forest.idOf :=
    funext (get_begun_same (p := Node.id) (fun _ _ => rfl) (fun _ _ => rfl) s t n)
  have howner : owner (s.forest.idOf n) = some t := ho ▸ hown n hn
  obtain ⟨hstart, hended⟩ := hi.not_told_of_created hf hn hst
  have hrunning := running_start howner hended
  refine ⟨?_, ?_, ?_⟩
  · intro t'
    rw [hcalls, hrunning, h.path, get_paths_begun, hid]
    split
    · rename_i e
      rw [e]
      rfl
    · rfl
  · intro p hp
    have hp' : p < s.forest.size := by simpa [begun] using hp
    rw [hcalls, innerOf_start hstart howner, h.path, childRefs_begun hs hst, hid, List.map_append, h.inner p hp']
    -- The tracer below is on top of the path, and is known by its id.
    have htop : ((s.paths.get t).stack.map s.forest.idOf).head? = some (s.forest.idOf p) ↔ s.active? t = some p := by
      rw [List.head?_map, Option.map_eq_some_iff]
      constructor
      · rintro ⟨m, hm, e⟩
        have hlt := hs.lt_of_mem (List.mem_of_mem_head? hm)
        rw [← hi.distinct m p hlt hp' e]
        exact hm
      · intro hm
        exact ⟨p, hm, rfl⟩
    congr 1
    by_cases ha : s.active? t = some p
    · rw [if_pos ha, if_pos (htop.2 ha)]
      rfl
    · rw [if_neg ha, if_neg fun h => ha (htop.1 h)]
      rfl
  · intro t'
    rw [hcalls, hrunning, brackets_start hstart hended howner]
    split
    · exact (h.bracketed t').start _
    · rw [List.append_nil]
      exact h.bracketed t'

theorem calls_unwound (hf : s.agent.isFound = true) (rest : List NodeRef) :
    (s.unwound t n rest).agent.calls = s.agent.calls ++ [.ended (s.forest.idOf n)] :=
  Agent.calls_hear hf (.ended (s.forest.idOf n))

/-- The end of the innermost tracer leaves the others of its thread running. -/
theorem Retraced.running_unwound (h : s.Retraced owner) (hs : s.Sound) (hi : s.InStep) (hf : s.agent.isFound = true)
    {rest : List NodeRef} (hr : (s.paths.get t).stack = n :: rest) (t' : Thread) :
    running owner (s.unwound t n rest).agent.calls t' =
      ((s.unwound t n rest).paths.get t').stack.map s.forest.idOf := by
  have hn : n ∈ (s.paths.get t).stack := by simp [hr]
  rw [calls_unwound hf, running_ended, h.path, List.filter_map]
  congr 1
  -- No other tracer has this id.
  have hfilter : ∀ m ∈ (s.paths.get t').stack, (decide (s.forest.idOf m ≠ s.forest.idOf n)) = decide (m ≠ n) := by
    intro m hm
    apply decide_eq_decide.2
    constructor
    · rintro hne rfl
      exact hne rfl
    · intro hne e
      exact hne (hi.distinct m n (hs.lt_of_mem hm) (hs.lt_of_mem hn) e)
  show (s.paths.get t').stack.filter (fun m => decide (s.forest.idOf m ≠ s.forest.idOf n)) = _
  rw [List.filter_congr hfilter, get_paths_unwound]
  split
  · rename_i e
    have hnot : n ∉ rest := (List.nodup_cons.1 (hr ▸ hs.fits.nodup t)).1
    rw [e, hr, List.filter_cons_of_neg (by simp), List.filter_eq_self.2]
    intro m hm
    have hne : m ≠ n := fun e => hnot (e ▸ hm)
    simpa using hne
  · rename_i e
    rw [List.filter_eq_self.2]
    intro m hm
    have hne : m ≠ n := fun hmn => e (by rw [← hs.owner_of_mem hm, hmn, hs.owner_of_mem hn])
    simpa using hne

theorem Retraced.unwind (h : s.Retraced owner) (hs : s.Sound) (hi : s.InStep) (hf : s.agent.isFound = true)
    (hown : s.forest.OwnedBy owner) {rest : List NodeRef} (hr : (s.paths.get t).stack = n :: rest) :
    (s.unwound t n rest).Retraced owner := by
  have hn : n ∈ (s.paths.get t).stack := by simp [hr]
  have hlt := hs.lt_of_mem hn
  have hid : (s.unwound t n rest).forest.idOf = s.forest.idOf :=
    funext (get_unwound_same (p := Node.id) (fun _ _ => rfl) s t n rest)
  have howner : owner (s.forest.idOf n) = some t := hs.owner_of_mem hn ▸ hown n hlt
  have hstart := hi.start_mem_of_started hf hlt (hs.started_of_mem hn)
  have hpath := h.running_unwound hs hi hf hr
  refine ⟨fun t' => by rw [hid]; exact hpath t', ?_, ?_⟩
  · intro p hp
    have hp' : p < s.forest.size := by simpa [unwound, finish] using hp
    rw [calls_unwound hf, innerOf_of_start?_eq_none rfl, get_unwound_same (p := Node.childRefs) (fun _ _ => rfl), hid]
    exact h.inner p hp'
  · intro t'
    have hb := h.bracketed t'
    rw [hpath, get_paths_unwound, calls_unwound hf, brackets_of_start?_eq_none rfl]
    by_cases ht : t' = t
    · subst ht
      rw [h.path, hr] at hb
      rw [if_pos rfl, if_pos ⟨rfl, hstart, howner⟩]
      exact hb.ended _
    · have hne : ¬ owner (s.forest.idOf n) = some t' := by
        rw [howner]
        simpa using Ne.symm ht
      rw [if_neg ht, if_neg fun hb => hne hb.2.2, List.append_nil, ← h.path]
      exact hb

theorem Retraced.created (h : s.Retraced owner) (hs : s.Sound) (hi : s.InStep) (hf : s.agent.isFound = true)
    {id : TracerId} (d : Details) (hid : id ∉ s.forest.ids) : (s.create t id d).2.Retraced owner := by
  have hcalls : (s.create t id d).2.agent.calls = s.agent.calls ++ [.create id d] :=
    Agent.calls_hear hf (.create id d)
  have hidle : Idle s.agent.calls (.create id d) := ⟨rfl, nofun⟩
  have hold : ∀ m < s.forest.size, (s.create t id d).2.forest.idOf m = s.forest.idOf m := by
    intro m hm
    unfold Forest.idOf
    rw [get_create, if_neg (Nat.ne_of_lt hm)]
  refine ⟨?_, ?_, ?_⟩
  · intro t'
    rw [hcalls, running_idle hidle, h.path]
    exact List.map_congr_left fun m hm => (hold m (hs.lt_of_mem hm)).symm
  · intro p hp
    rw [hcalls, innerOf_of_start?_eq_none rfl]
    rcases Nat.lt_succ_iff_lt_or_eq.1 (size_create s t id d ▸ hp) with hp | rfl
    · rw [hold p hp, ← h.inner p hp, get_create, if_neg (Nat.ne_of_lt hp)]
      exact List.map_congr_left fun m hm => hold m (hs.nesting.bounded p m hm)
    · -- The agent has not heard of the new tracer before.
      have hnot : .start id ∉ s.agent.calls := by
        intro hmem
        have hnil := hi.silent hid
        rw [List.filter_eq_nil_iff] at hnil
        exact hnil _ hmem (by simp [AgentCall.id])
      unfold Forest.idOf
      rw [get_created, innerOf_eq_nil hnot]
      rfl
  · intro t'
    rw [hcalls, running_idle hidle, brackets_of_start?_eq_none rfl, if_neg (by simp), List.append_nil]
    exact h.bracketed t'

end Session

theorem Effect.retraced {t : Thread} {s s' : Session} {ms : List Mark} {owner : TracerId → Option Thread}
    (he : Effect t s ms s') (hs : s.Sound) (hi : s.InStep) (hf : s.agent.isFound = true)
    (hown : s.forest.OwnedBy owner) (h : s.Retraced owner) : s'.Retraced owner := by
  -- Most changes are of one node, and keep what is nested in it.
  have modified : ∀ {n : NodeRef} {g : Node → Node}, s'.forest = s.forest.modify n g → s'.paths = s.paths →
      (∀ m : Node, (g m).childRefs = m.childRefs ∧ (g m).id = m.id) →
      (s'.agent.calls = s.agent.calls ∨ ∃ c, Idle s.agent.calls c ∧ s'.agent.calls = s.agent.calls ++ [c]) →
      s'.Retraced owner := by
    intro n g hforest hpaths hg hcalls
    refine h.keep hcalls (by rw [hforest, Forest.size_modify]) hpaths ?_ ?_
    · rw [hforest]
      exact Forest.get_modify_same (fun m => (hg m).1) s.forest n
    · rw [hforest]
      exact Forest.get_modify_same (p := Node.id) (fun m => (hg m).2) s.forest n
  have told : ∀ c, Idle s.agent.calls c → s'.agent = s.agent.hear c →
      s'.agent.calls = s.agent.calls ∨ ∃ c, Idle s.agent.calls c ∧ s'.agent.calls = s.agent.calls ++ [c] :=
    fun c hc e => .inr ⟨c, hc, by rw [e, Agent.calls_hear hf]⟩
  have unstarted : ∀ {n : NodeRef}, n < s.forest.size → (s.forest.get n).state = .created →
      Idle s.agent.calls (.ended (s.forest.idOf n)) := by
    intro n hn hst
    refine ⟨rfl, ?_⟩
    rintro _ ⟨⟩
    exact (hi.not_told_of_created hf hn hst).1
  cases he with
  | created id d hid => exact h.created hs hi hf d hid
  | begun n hn ho hst _ => exact h.begin hs hi hf hown hn ho hst
  | unwound n rest _ _ _ hr _ => exact h.unwind hs hi hf hown hr
  | completed n _ _ _ hr =>
    obtain ⟨hforest, hpaths, -, hagent, -⟩ := Session.completePath_same (s.unwound t n []) n
    refine (h.unwind hs hi hf hown hr).keep (.inl (by rw [hagent])) (by rw [hforest]) hpaths ?_ ?_
    · rw [hforest]
      exact fun _ => rfl
    · rw [hforest]
      exact fun _ => rfl
  | finished n hn _ hst => exact modified rfl rfl (fun _ => ⟨rfl, rfl⟩) (told _ (unstarted hn hst) rfl)
  | discarded n hn _ hst => exact modified rfl rfl (fun _ => ⟨rfl, rfl⟩) (told _ (unstarted hn hst) rfl)
  | updated n u d _ _ _ _ _ =>
    exact modified (g := fun m => { m with details := d }) rfl rfl (fun _ => ⟨rfl, rfl⟩)
      (told (.update (s.forest.idOf n) u) ⟨rfl, nofun⟩ rfl)
  | failed n className message _ _ _ _ _ =>
    exact modified (g := fun m => { m with error := some ⟨className, message⟩ }) rfl rfl (fun _ => ⟨rfl, rfl⟩)
      (told (.error (s.forest.idOf n) className message) ⟨rfl, nofun⟩ rfl)
  | tagged n tag _ _ _ _ =>
    exact modified (g := fun m => { m with receipt := .ofDecoded tag.decode }) rfl rfl (fun _ => ⟨rfl, rfl⟩)
      (told (.setIncomingTag (s.forest.idOf n) tag) ⟨rfl, nofun⟩ rfl)
  | tagRead n form _ _ _ _ =>
    exact h.keep (told (.getOutgoingTag (s.forest.idOf n) form) ⟨rfl, nofun⟩ (s.agent.getOutgoingTag_eq _ form)) rfl
      rfl (fun _ => rfl) fun _ => rfl
  | tuned a ha => exact h.keep (.inl (Agent.calls_of_record ha)) rfl rfl (fun _ => rfl) fun _ => rfl
  | released n _ =>
    exact modified (g := fun m => { m with held := false }) rfl rfl (fun _ => ⟨rfl, rfl⟩) (.inl rfl)
  | attributed n key value _ _ =>
    exact modified (g := fun m => { m with attributes := m.attributes ++ [(key, value)] }) rfl rfl
      (fun _ => ⟨rfl, rfl⟩) (.inl rfl)
  | linked c p _ _ _ _ =>
    exact h.keep (.inl rfl) (Forest.size_resolve ..) rfl (s.forest.childRefs_resolve c p)
      (Forest.get_resolve_same (q := Node.id) (fun _ _ => rfl) (fun _ _ => rfl) s.forest c p)
  | _ => exact h.keep (.inl rfl) rfl rfl (fun _ => rfl) fun _ => rfl

/-! ## The nesting of a run -/

theorem Forest.OwnedBy.of_later {f f' : Forest} {owner : TracerId → Option Thread} (h : f'.OwnedBy owner)
    (hl : f.Later f') : f.OwnedBy owner := by
  intro n hn
  have hnode := hl.node n hn
  have hown := h n (Nat.lt_of_lt_of_le hn hl.size)
  unfold idOf at hown ⊢
  rwa [hnode.id, hnode.owner] at hown

theorem Effects.retraced {t : Thread} {s s' : Session} {ms : List Mark} {owner : TracerId → Option Thread}
    (he : Effects t s ms s') (hs : s.Sound) (hi : s.InStep) (hf : s.agent.isFound = true)
    (hown : s'.forest.OwnedBy owner) (h : s.Retraced owner) : s'.Retraced owner := by
  induction he with
  | nil => exact h
  | cons he hrest ih =>
    have hs₁ := hown.of_later hrest.later
    exact ih (he.sound hs) (he.tells.inStep hi) (he.tells.isFound_eq.trans hf) hown
      (he.retraced hs hi hf (hs₁.of_later he.later) h)

section Runs

variable {s₀ s : Session} {log : List Step} (h : Run s₀ s log) (h0 : s₀.IsNew) (hf : s₀.agent.isFound = true)

include h h0 hf

theorem Run.retraced {owner : TracerId → Option Thread} (hown : s.forest.OwnedBy owner) : s.Retraced owner := by
  induction h with
  | nil =>
    have hcalls : s₀.agent.calls = [] := h0.calls_eq_nil
    refine ⟨?_, ?_, ?_⟩
    · intro t
      rw [hcalls, h0.paths]
      rfl
    · intro p hp
      rw [hcalls, h0.get_forest]
      rfl
    · intro t
      rw [hcalls]
      exact .nil
  | @step s log t c h hc ih =>
    have he := Step.effects (x := ⟨s, t, c⟩) hc
    exact he.retraced (h.sound h0) (h.inStep h0) (h.isFound hf) hown (ih (hown.of_later he.later))

/-- Who created a tracer. -/
def ownerIn (births : List Birth) (id : TracerId) : Option Thread :=
  (births.find? (·.id = id)).map Birth.owner

theorem Run.ownedBy : s.forest.OwnedBy (ownerIn (log.flatMap Step.births)) := by
  intro n hn
  have haccounts := h.accounted h0 hf
  have hlength : (log.flatMap Step.births).length = s.forest.size := by
    rw [← List.length_map Birth.id, haccounts.ids, Forest.length_ids]
  obtain ⟨b, hb⟩ : ∃ b, (log.flatMap Step.births)[n]? = some b := ⟨_, List.getElem?_eq_getElem (hlength ▸ hn)⟩
  have hbid := (haccounts.birth hb).2
  unfold ownerIn
  cases hfind : (log.flatMap Step.births).find? (·.id = s.forest.idOf n) with
  | none =>
    rw [List.find?_eq_none] at hfind
    exact absurd hbid.symm (by simpa using hfind b (List.mem_of_getElem? hb))
  | some b' =>
    -- No two births have one id.
    obtain ⟨k, hk⟩ := List.getElem?_of_mem (List.mem_of_find?_eq_some hfind)
    obtain ⟨hklt, hkid⟩ := haccounts.birth hk
    have hid : b'.id = s.forest.idOf n := by simpa using List.find?_some hfind
    obtain rfl := (h.inStep h0).distinct k n hklt hn (hkid.trans hid)
    rw [(haccounts.node k b' hk).owner]
    rfl

end Runs

/-! ## The calls as they come in -/

/-- The calls that the agent receives during a step. -/
def Step.heard (x : Step) : List AgentCall :=
  x.after.agent.calls.drop x.before.agent.calls.length

/-- The calls that the agent receives during a run, each with the thread that makes it. -/
def received (log : List Step) : List (Thread × AgentCall) :=
  log.flatMap fun x => x.heard.map (x.thread, ·)

/-- The new tracer that a call tells of. It belongs to the thread that makes the call. -/
def Birth.ofCall? : Thread × AgentCall → Option Birth
  | (t, .create id details) => some ⟨id, t, details⟩
  | _ => none

/-- The new tracers that the calls tell of, in order. -/
def Birth.ofCalls (received : List (Thread × AgentCall)) : List Birth :=
  received.filterMap ofCall?

theorem received_append (log : List Step) (x : Step) :
    received (log ++ [x]) = received log ++ x.heard.map (x.thread, ·) := by
  simp [received]

theorem Birth.ofCalls_append (l l' : List (Thread × AgentCall)) :
    Birth.ofCalls (l ++ l') = Birth.ofCalls l ++ Birth.ofCalls l' :=
  List.filterMap_append

theorem Birth.ofCalls_map (t : Thread) (calls : List AgentCall) :
    Birth.ofCalls (calls.map (t, ·)) = (calls.filterMap created?).map fun c => ⟨c.1, t, c.2⟩ := by
  induction calls with
  | nil => rfl
  | cons c calls ih =>
    cases c with
    | create id d => exact congrArg (⟨id, t, d⟩ :: ·) ih
    | _ => exact ih

theorem Step.calls_after {x : Step} (hc : x.before.Admits x.command) :
    x.after.agent.calls = x.before.agent.calls ++ x.heard := by
  have hprefix : x.before.agent.calls <+: x.after.agent.calls :=
    (Step.effects hc).inv (I := fun s => x.before.agent.calls <+: s.agent.calls)
      (fun _ _ _ he h => h.trans he.tells.calls_prefix) (List.prefix_refl _)
  exact (List.prefix_iff_eq_append.1 hprefix).symm

theorem Run.map_received {s₀ s : Session} {log : List Step} (h : Run s₀ s log) (h0 : s₀.IsNew) :
    (received log).map Prod.snd = s.agent.calls := by
  induction h with
  | nil => exact h0.calls_eq_nil.symm
  | @step s log t c h hc ih =>
    have hcalls := Step.calls_after (x := ⟨s, t, c⟩) hc
    rw [received_append, List.map_append, ih, List.map_map]
    exact (congrArg (s.agent.calls ++ ·) (List.map_id _)).trans hcalls.symm

theorem Step.owner_of_births {x : Step} (hc : x.before.Admits x.command) {b : Birth} (hb : b ∈ x.births) :
    b.owner = x.thread := by
  rcases Step.births_cases hc with ⟨hnone, -⟩ | ⟨b', hb', howner, -, -⟩
  · simp [hnone] at hb
  · rw [hb', List.mem_singleton] at hb
    rw [hb, howner]

/-- What is told of new tracers during a step is what the accounts before and after it differ in. -/
theorem Step.ofCalls_heard {x : Step} {births : List Birth} (hc : x.before.Admits x.command)
    (hbefore : x.before.Accounted births) (hafter : x.after.Accounted (births ++ x.births)) :
    Birth.ofCalls (x.heard.map (x.thread, ·)) = x.births := by
  have hcreates := hafter.creates
  rw [Step.calls_after hc, List.filterMap_append, hbefore.creates, List.map_append,
    List.append_cancel_left_eq] at hcreates
  calc Birth.ofCalls (x.heard.map (x.thread, ·))
    _ = (x.heard.filterMap created?).map fun c => ⟨c.1, x.thread, c.2⟩ := Birth.ofCalls_map ..
    _ = x.births.map fun b => ⟨b.id, x.thread, b.details⟩ := by rw [hcreates, List.map_map]; rfl
    _ = x.births.map fun b => b := List.map_congr_left fun b hb => by rw [← Step.owner_of_births hc hb]
    _ = x.births := List.map_id' _

/-- The agent is told of each new tracer, with its details, on the thread that the tracer belongs to. -/
theorem Run.ofCalls_received {s₀ s : Session} {log : List Step} (h : Run s₀ s log) (h0 : s₀.IsNew)
    (hf : s₀.agent.isFound = true) : Birth.ofCalls (received log) = log.flatMap Step.births := by
  induction h with
  | nil => rfl
  | @step s log t c h hc ih =>
    have hafter := (Run.step t c h hc).accounted h0 hf
    rw [List.flatMap_append, List.flatMap_singleton] at hafter
    have hheard := Step.ofCalls_heard (x := ⟨s, t, c⟩) hc (h.accounted h0 hf) hafter
    rw [received_append, Birth.ofCalls_append, ih, hheard, List.flatMap_append, List.flatMap_singleton]

/-! ## Replayed runs -/

/-- The nodes of a session, told by the calls that its agent has received and the threads they came from. -/
structure Session.Replayed (s : Session) (received : List (Thread × AgentCall)) : Prop where
  /-- They are all the calls that the agent has heard. -/
  calls : received.map Prod.snd = s.agent.calls
  /-- Each node is the one of a tracer whose creation was told. -/
  ids : (Birth.ofCalls received).map Birth.id = s.forest.ids
  account : ∀ n (b : Birth), (Birth.ofCalls received)[n]? = some b →
    b.Account (s.agent.calls.filter (·.id = b.id)) (s.forest.get n)
  state : ∀ n < s.forest.size, (s.forest.get n).state = stateAfter s.agent.calls (s.forest.idOf n)
  /-- A started tracer is nested in the innermost one that ran on its thread, if there was one. -/
  outer : ∀ p < s.forest.size, ∀ n < s.forest.size, s.forest.Nests p n ↔ .start (s.forest.idOf n) ∈ s.agent.calls ∧
    outerOf (ownerIn (Birth.ofCalls received)) s.agent.calls (s.forest.idOf n) = some (s.forest.idOf p)
  /-- Nested tracers come in the order of their starts. -/
  inner : ∀ p < s.forest.size, (s.forest.get p).childRefs.map s.forest.idOf =
    innerOf (ownerIn (Birth.ofCalls received)) s.agent.calls (s.forest.idOf p)
  path : ∀ t, (s.paths.get t).stack.map s.forest.idOf =
    running (ownerIn (Birth.ofCalls received)) s.agent.calls t
  bracketed : ∀ t, Bracketed (brackets (ownerIn (Birth.ofCalls received)) s.agent.calls t)
    (running (ownerIn (Birth.ofCalls received)) s.agent.calls t)

/-- Whatever was asked of a session with a recording agent, the calls that the agent has received tell the
nodes of the session, what each of them holds, and how they are nested. -/
theorem Run.replayed {s₀ s : Session} {log : List Step} (h : Run s₀ s log) (h0 : s₀.IsNew)
    (hf : s₀.agent.isFound = true) : s.Replayed (received log) := by
  have hbirths := h.ofCalls_received h0 hf
  have haccounts := hbirths ▸ h.accounted h0 hf
  have hretraced := h.retraced h0 hf (hbirths ▸ h.ownedBy h0 hf)
  have hi := h.inStep h0
  refine ⟨h.map_received h0, haccounts.ids, haccounts.node, ?_, ?_, hretraced.inner,
    fun t => (hretraced.path t).symm, hretraced.bracketed⟩
  · intro n hn
    exact (hi.stateAfter (h.isFound hf) hn).symm
  · intro p hp n hn
    have hmem : s.forest.Nests p n ↔
        s.forest.idOf n ∈ innerOf (ownerIn (Birth.ofCalls (received log))) s.agent.calls (s.forest.idOf p) := by
      rw [← hretraced.inner p hp, List.mem_map]
      constructor
      · intro hpn
        exact ⟨n, hpn, rfl⟩
      · rintro ⟨m, hm, e⟩
        rwa [hi.distinct m n ((h.sound h0).nesting.bounded p m hm) hn e] at hm
    rw [hmem, innerOf, List.mem_filter, mem_starts, decide_eq_true_iff]

/-- Two threads at work by turns: a served call with a nested one that fails, a link to it, and a tracer
that is ended without a start. -/
def interleavedProgram : List (Thread × Command) :=
  let incoming := Details.incomingRemoteCall ⟨"method", "service", "endpoint", none, none⟩
  let outgoing := Details.outgoingWebRequest ⟨"url", "GET", [], [], none⟩
  [(⟨"a"⟩, .create (.ofNat 1) incoming), (⟨"a"⟩, .setIncomingTag 0 (.bytes [7])), (⟨"a"⟩, .start 0),
    (⟨"b"⟩, .create (.ofNat 2) (.inProcessLink (some (.ofNat 1)))), (⟨"a"⟩, .create (.ofNat 3) outgoing),
    (⟨"b"⟩, .start 1), (⟨"a"⟩, .start 2), (⟨"a"⟩, .update 2 (.statusCode 500)), (⟨"b"⟩, .update 2 (.statusCode 200)),
    (⟨"a"⟩, .update 2 (.requestHeader "name" "value")), (⟨"a"⟩, .markFailed 2 "class" "message"),
    (⟨"b"⟩, .create (.ofNat 4) outgoing), (⟨"b"⟩, .endTracer 3), (⟨"a"⟩, .endTracer 2), (⟨"b"⟩, .endTracer 1)]

theorem replayed_interleavedProgram :
    let s₀ : Session := { name := "session", agent := .recording {} }
    (s₀.played interleavedProgram).Replayed (received (s₀.play interleavedProgram)) ∧
      received (s₀.play interleavedProgram) = [
        (⟨"a"⟩, .create (.ofNat 1) (.incomingRemoteCall ⟨"method", "service", "endpoint", none, none⟩)),
        (⟨"a"⟩, .setIncomingTag (.ofNat 1) (.bytes [7])), (⟨"a"⟩, .start (.ofNat 1)),
        (⟨"b"⟩, .create (.ofNat 2) (.inProcessLink (some (.ofNat 1)))),
        (⟨"a"⟩, .create (.ofNat 3) (.outgoingWebRequest ⟨"url", "GET", [], [], none⟩)),
        (⟨"b"⟩, .start (.ofNat 2)), (⟨"a"⟩, .start (.ofNat 3)), (⟨"a"⟩, .update (.ofNat 3) (.statusCode 500)),
        (⟨"a"⟩, .error (.ofNat 3) "class" "message"),
        (⟨"b"⟩, .create (.ofNat 4) (.outgoingWebRequest ⟨"url", "GET", [], [], none⟩)),
        (⟨"b"⟩, .ended (.ofNat 4)), (⟨"a"⟩, .ended (.ofNat 3)), (⟨"b"⟩, .ended (.ofNat 2))] := by
  have hnew : Session.IsNew { name := "session", agent := .recording {} } := by
    refine ⟨rfl, rfl, rfl, rfl, ?_⟩
    rintro r ⟨⟩
    exact ⟨rfl, rfl, rfl⟩
  have hstart : Run { name := "session", agent := .recording {} } { name := "session", agent := .recording {} } [] :=
    .nil
  have hrun := hstart.played interleavedProgram (by decide +kernel)
  exact ⟨Run.replayed hrun hnew rfl, by decide +kernel⟩

end CallPath
