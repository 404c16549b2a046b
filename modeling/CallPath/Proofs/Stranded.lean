import CallPath.Proofs.Holding
import CallPath.Proofs.Leaks
import CallPath.Proofs.StartEnd
/-!
# A leak leaves no wrong tree

A tracer that is let go while it runs can never be popped, for it would have to be asked to end. So it
keeps its place on the path of its thread (`Session.Stranded`): what runs below it can not end any more,
whatever starts later comes above it, and the tree under construction is never completed.

`Run.strands` says so of every continuation of a run in which a running tracer was let go.
-/

namespace CallPath

/-! ## Above and below on a path -/

/-- Whatever is below another tracer has something directly over it. -/
theorem Path.over_of_below {p : Path} {above below : List NodeRef} {n b : NodeRef} (hp : p.stack = above ++ n :: below)
    (hb : b ∈ below) : ∃ c, p.Over c b := by
  obtain ⟨l, l', rfl⟩ := List.append_of_mem hb
  obtain ⟨init, c, hl⟩ : ∃ init c, n :: l = init ++ [c] :=
    ⟨_, _, (List.dropLast_append_getLast (List.cons_ne_nil n l)).symm⟩
  refine ⟨c, above ++ init, l', ?_⟩
  rw [hp, ← List.cons_append, hl]
  simp

/-- A chain leads from a tracer to all that are above it. -/
theorem Path.transGen_of_above {p : Path} {r : NodeRef → NodeRef → Prop} (hr : ∀ c b, p.Over c b → r b c) {n : NodeRef}
    {above below : List NodeRef} (hp : p.stack = above ++ n :: below) : ∀ m ∈ above, Relation.TransGen r n m := by
  obtain ⟨stack⟩ := p
  obtain rfl : stack = above ++ n :: below := hp
  induction above with
  | nil => simp
  | cons a above ih =>
    have ih := ih fun c b h => hr c b (over_cons.2 (.inr h))
    intro m hm
    rcases List.mem_cons.1 hm with rfl | hm
    · -- It is directly over the next one, or over `n` itself.
      cases above with
      | nil => exact .single (hr _ _ (over_cons.2 (.inl ⟨rfl, rfl⟩)))
      | cons a' above => exact (ih a' (by simp)).tail (hr _ _ (over_cons.2 (.inl ⟨rfl, rfl⟩)))
    · exact ih m hm

theorem Forest.Later.nests {f f' : Forest} (h : f.Later f') {p c : NodeRef} (hpc : f.Nests p c) : f'.Nests p c := by
  have hp : p < f.size := lt_size_of_holds hpc.holds
  obtain ⟨link, hlink, rfl⟩ := List.mem_map.1 hpc
  obtain ⟨hmem, hkind⟩ := List.mem_filter.1 hlink
  exact List.mem_map.2 ⟨link, List.mem_filter.2 ⟨(h.node p hp).children.subset hmem, hkind⟩, rfl⟩

/-! ## Stuck on a path -/

namespace Session

/-- A tracer that nobody holds is on the path of a thread, with `below` under it. -/
structure Stranded (s : Session) (t : Thread) (n : NodeRef) (below : List NodeRef) : Prop where
  loose : (s.forest.get n).held = false
  path : ∃ above, (s.paths.get t).stack = above ++ n :: below

namespace Stranded

variable {s : Session} {t : Thread} {n : NodeRef} {below : List NodeRef}

theorem mem (h : s.Stranded t n below) : n ∈ (s.paths.get t).stack := by
  obtain ⟨above, hp⟩ := h.path
  simp [hp]

theorem root? (h : s.Stranded t n below) : (s.paths.get t).root? ≠ none := by
  have hmem := h.mem
  rw [Path.root?, Ne, List.getLast?_eq_none_iff]
  intro e
  simp [e] at hmem

/-- It is in no tree whose root has ended. -/
theorem not_below_of_ended (h : s.Stranded t n below) (hs : s.Sound) {r : NodeRef}
    (hr : (s.forest.get r).state = .ended) : ¬ s.forest.Below r n := by
  intro hrn
  have hended := hs.ended_of_below hrn hr
  simp [hs.started_of_mem h.mem] at hended

end Stranded

end Session

namespace Step

variable {x : Step} {t : Thread} {n : NodeRef} {below : List NodeRef}

/-- Nothing that is asked later moves it. -/
theorem stranded (ha : x.before.Admits x.command) (hs : x.before.Sound) (h : x.before.Stranded t n below) :
    x.after.Stranded t n below := by
  obtain ⟨above, hp⟩ := h.path
  have hn : n < x.before.forest.size := Forest.lt_size_of_state (by simp [hs.started_of_mem h.mem])
  refine ⟨(held_after x hn).2 (.inl h.loose), ?_⟩
  by_cases ht : t = x.thread
  · subst ht
    cases x.moves ha with
    | still hpaths => exact ⟨above, by rw [hpaths, hp]⟩
    | pushed m _ _ hafter => exact ⟨m :: above, by rw [hafter, Session.get_paths_begun, if_pos rfl, hp]; rfl⟩
    | popped m rest hc _ hr hpaths =>
      -- Only a tracer that is held is popped, so it is one above.
      cases above with
      | nil =>
        obtain rfl : n = m := (List.cons_eq_cons.1 (hp.symm.trans hr)).1
        have hheld := held_of_target ha hc
        simp [h.loose] at hheld
      | cons a above =>
        obtain ⟨-, hrest⟩ := List.cons_eq_cons.1 (hp.symm.trans hr)
        exact ⟨above, by rw [hpaths, ThreadPaths.get_set, if_pos rfl]; exact hrest.symm⟩
  · exact ⟨above, by rw [(effects ha).get_paths ht, hp]⟩

/-- Its path is not completed. -/
theorem completed_of_stranded (ha : x.before.Admits x.command) (hs : x.before.Sound)
    (h : x.before.Stranded x.thread n below) :
    x.completed = [] ∧ x.after.metrics.pathsCompleted = x.before.metrics.pathsCompleted := by
  have hcompleted : x.completed = [] := by
    have hafter := (stranded ha hs h).root?
    unfold completed Session.completions
    split
    · rename_i e
      exact absurd e hafter
    · rfl
  have hpaths := (effects ha).pathsCompleted
  rw [completes_marks ha, hcompleted] at hpaths
  exact ⟨hcompleted, hpaths⟩

/-- What starts on its thread starts above it. -/
theorem nests_of_begun (ha : x.before.Admits x.command) (hs : x.before.Sound) (h : x.before.Stranded x.thread n below)
    {m : NodeRef} (hm : m ∈ x.begun) : Relation.TransGen x.after.forest.Nests n m := by
  obtain ⟨above, hp⟩ := h.path
  obtain ⟨-, -, hafter⟩ := of_begun hm
  have hs' := sound ha hs
  have hpath : (x.after.paths.get x.thread).stack = (m :: above) ++ n :: below := by
    rw [hafter, Session.get_paths_begun, if_pos rfl, hp]
    rfl
  exact Path.transGen_of_above (fun c b => hs'.nests_of_over) hpath m (by simp)

end Step

/-! ## The ends that commands ask for -/

namespace Session

variable {s : Session} {t : Thread} {n b : NodeRef} {z : Step}

theorem command_of_mem_updateCalls {us : List Update} (hz : z ∈ s.updateCalls t n us) :
    ∃ u, z.command = .update n u := by
  induction us generalizing s with
  | nil => cases hz
  | cons u us ih =>
    rcases List.mem_cons.1 hz with rfl | hz
    · exact ⟨u, rfl⟩
    · split at hz
      · exact ih hz
      · cases hz

theorem command_of_mem_tagCalls {tags : IncomingTags} (hz : z ∈ s.tagCalls t n tags) :
    ∃ tag, z.command = .setIncomingTag n tag := by
  unfold tagCalls at hz
  split at hz
  · exact ⟨_, congrArg Step.command (List.mem_singleton.1 hz)⟩
  · exact ⟨_, congrArg Step.command (List.mem_singleton.1 hz)⟩
  · cases hz

/-- Setting a tracer up does not end any. -/
theorem not_end_of_mem_setUpCalls {kind : Kind} {o : TraceOptions} (hz : z ∈ s.setUpCalls t n kind o) :
    z.command ≠ .endTracer b := by
  rcases List.mem_append.1 hz with hz | hz
  · obtain ⟨u, hu⟩ := command_of_mem_updateCalls hz
    simp [hu]
  · split at hz
    · split at hz
      · obtain ⟨tag, htag⟩ := command_of_mem_tagCalls hz
        simp [htag]
      · cases hz
    · cases hz

theorem not_end_of_mem_attachCalls {failure : Failure} (hz : z ∈ s.attachCalls t n failure) :
    z.command ≠ .endTracer b := by
  unfold attachCalls at hz
  split at hz
  · cases hz
  · simp [List.mem_singleton.1 hz]

/-- What may have happened since a command began, when it asks for an end: no path has moved. -/
structure Nears (s : Session) (t : Thread) (s' : Session) : Prop where
  paths : s'.paths = s.paths
  effects : ∃ ms, Effects t s ms s'

theorem nears_of_leaveCalls {α : Type} {outcome : Outcome α} (hn : n < s.forest.size)
    (hz : z ∈ s.leaveCalls t n outcome) (hc : z.command = .endTracer b) : z.thread = t ∧ s.Nears t z.before := by
  have failing : ∀ failure, z ∈ s.attachCalls t n failure ++ [⟨s.attach t n failure, t, .endTracer n⟩] →
      z.thread = t ∧ s.Nears t z.before := fun failure hz => by
    rcases List.mem_append.1 hz with hz | hz
    · exact absurd hc (not_end_of_mem_attachCalls hz)
    · obtain rfl := List.mem_singleton.1 hz
      exact ⟨rfl, attach_paths failure, _, (attach_effects failure hn).1⟩
  cases outcome with
  | returned value =>
    obtain rfl := List.mem_singleton.1 hz
    exact ⟨rfl, rfl, _, .nil s⟩
  | failed failure => exact failing failure hz
  | interrupted text => exact failing _ hz

theorem nears_of_traceCalls {id : TracerId} {op : Operation} {o : TraceOptions} (hid : id ∉ s.forest.ids)
    (hz : z ∈ s.traceCalls t id op o) (hc : z.command = .endTracer b) : z.thread = t ∧ s.Nears t z.before := by
  cases hd : op.details with
  | error e =>
    unfold traceCalls createFor at hz
    rw [hd] at hz
    cases hz
  | ok d =>
    unfold traceCalls createFor at hz
    rw [hd] at hz
    rcases List.mem_append.1 hz with hz | hz
    · exact absurd hc (not_end_of_mem_setUpCalls hz)
    · obtain ⟨he, hs⟩ := setUp_effects (s := (s.create t id d).2) (t := t) (n := s.forest.size) op.kind o (by simp)
      split at hz
      · cases hz
      · rename_i e s' hset
        have hset' : (s.create t id d).2.setUp t s.forest.size op.kind o = (.error e, s') := hset
        rw [hset'] at he hs
        obtain rfl := List.mem_singleton.1 hz
        exact ⟨rfl, hs.paths, _, (Effects.single (.created id d hid)).trans he⟩

end Session

namespace Step

variable {x z : Step} {t : Thread} {n b : NodeRef} {below : List NodeRef}

/-- Every end, of whatever command it is a part, meets the paths that the command met. -/
theorem nears_of_call (ha : x.before.Admits x.command) (hz : z ∈ x.calls) (hc : z.command = .endTracer b) :
    z.thread = x.thread ∧ x.before.Nears x.thread z.before := by
  obtain ⟨s, t, c⟩ := x
  cases c with
  | trace id op o => exact Session.nears_of_traceCalls (ha.2 id rfl) hz hc
  | leave n outcome => exact Session.nears_of_leaveCalls (ha.1 n rfl).1 hz hc
  | updateAll n us =>
    obtain ⟨u, hu⟩ := Session.command_of_mem_updateCalls hz
    simp [hu] at hc
  | applyIncomingTags n tags =>
    obtain ⟨tag, htag⟩ := Session.command_of_mem_tagCalls hz
    simp [htag] at hc
  | start | endTracer | update | markFailed | outgoingTag | setIncomingTag =>
    obtain rfl := List.mem_singleton.1 hz
    exact ⟨rfl, rfl, _, .nil _⟩
  | _ => cases hz

/-- The end of what is below is refused, whether it is asked for by itself or by a scope. -/
theorem reply_of_below (ha : x.before.Admits x.command) (hs : x.before.Sound) (h : x.before.Stranded x.thread n below)
    (hb : b ∈ below) (hz : z ∈ x.calls) (hc : z.command = .endTracer b) : ∃ c, z.reply =
      .done (.error (.unendedChildren (z.before.forest.label b) [z.before.forest.label c])) := by
  obtain ⟨above, hp⟩ := h.path
  obtain ⟨ht, hnear⟩ := nears_of_call ha hz hc
  obtain ⟨ms, he⟩ := hnear.effects
  have hs' : z.before.Sound := he.inv (fun _ _ _ => Effect.sound) hs
  obtain ⟨c, hover⟩ := Path.over_of_below hp hb
  rw [← hnear.paths, ← ht] at hover
  refine ⟨c, ?_⟩
  rw [reply, hc]
  exact congrArg Reply.done (hs'.endTracer_of_over hover)

end Step

/-! ## What comes after a leak -/

/-- What the log of a thread and the session after it show, if the tracer was let go before while it was running. -/
structure Session.Strands (s : Session) (t : Thread) (n : NodeRef) (below : List NodeRef) (log : List Step) : Prop where
  started : (s.forest.get n).state = .started
  /-- It is where it was on the path. -/
  path : ∃ above, (s.paths.get t).stack = above ++ n :: below
  /-- Whatever was started on its thread is nested in it. -/
  begun : ∀ y ∈ log, y.thread = t → ∀ m ∈ y.begun, Relation.TransGen s.forest.Nests n m
  /-- No tracer under it was ended. -/
  ends : ∀ y ∈ log, y.thread = t → ∀ z ∈ y.calls, ∀ b ∈ below, z.command = .endTracer b →
    ∃ c, z.reply = .done (.error (.unendedChildren (z.before.forest.label b) [z.before.forest.label c]))
  completed : ∀ y ∈ log, y.thread = t →
    y.completed = [] ∧ y.after.metrics.pathsCompleted = y.before.metrics.pathsCompleted
  archived : ∀ r ∈ s.archive.roots, ¬ s.forest.Below r n
  drained : ∀ y ∈ log, ∀ r ∈ y.drained, ¬ s.forest.Below r n

variable {s₀ s s' : Session} {log log' : List Step} {t : Thread} {n : NodeRef} {below : List NodeRef}

theorem Run.stranded (h : Run s s' log) (hs : s.Sound) (hn : s.Stranded t n below) :
    s'.Sound ∧ s'.Stranded t n below := by
  induction h with
  | nil => exact ⟨hs, hn⟩
  | @step s' log u c _ hc ih =>
    obtain ⟨hs', hn'⟩ := ih
    exact ⟨Step.sound (x := ⟨s', u, c⟩) hc hs', Step.stranded (x := ⟨s', u, c⟩) hc hs' hn'⟩

/-- A tracer that is let go while it runs is stranded. -/
theorem Step.stranded_of_drop (hc : s.Admits (.drop n)) {above : List NodeRef}
    (hp : (s.paths.get t).stack = above ++ n :: below) (u : Thread) : (s.drop u n).Stranded t n below where
  loose := (held_after ⟨s, u, .drop n⟩ (hc.1 n rfl).1).2 (.inr rfl)
  path := ⟨above, by rw [Session.drop_paths, hp]⟩

theorem Step.mem_archive_of_drained {x : Step} {r : NodeRef} (hr : r ∈ x.drained) : r ∈ x.before.archive.roots := by
  obtain ⟨s, t, c⟩ := x
  cases c with
  | drain => exact hr
  | _ => cases hr

/-- However the program goes on after it has let go of a running tracer. -/
theorem Run.strands (h : Run s₀ s log) (h0 : s₀.IsNew) (t : Thread) (hc : s.Admits (.drop n))
    (hst : (s.forest.get n).state = .started) (h' : Run (s.drop t n) s' log') :
    ∃ above below, (s.paths.get (s.forest.get n).owner).stack = above ++ n :: below ∧
      s'.Strands (s.forest.get n).owner n below log' := by
  have hs := h.sound h0
  obtain ⟨above, below, hp⟩ := List.append_of_mem (hs.mem_of_started hst)
  have hs₁ : (s.drop t n).Sound := Step.sound (x := ⟨s, t, .drop n⟩) hc hs
  have hn₁ := Step.stranded_of_drop hc hp t
  have point : ∀ y ∈ log', y.before.Admits y.command ∧ y.before.Sound ∧
      y.before.Stranded (s.forest.get n).owner n below := fun y hy => by
    obtain ⟨⟨l, hl⟩, hy⟩ := h'.of_mem hy
    exact ⟨hy, hl.stranded hs₁ hn₁⟩
  obtain ⟨hs', hn'⟩ := h'.stranded hs₁ hn₁
  refine ⟨above, below, hp, hs'.started_of_mem hn'.mem, hn'.path, ?_, ?_, ?_, ?_, ?_⟩
  · intro y hy ho m hm
    obtain ⟨hy', hsy, hny⟩ := point y hy
    have hnests := Step.nests_of_begun hy' hsy (ho ▸ hny) hm
    exact Relation.TransGen.mono (fun _ _ => (h'.later hy).nests) _ _ hnests
  · intro y hy ho z hz b hb hz'
    obtain ⟨hy', hsy, hny⟩ := point y hy
    exact Step.reply_of_below hy' hsy (ho ▸ hny) hb hz hz'
  · intro y hy ho
    obtain ⟨hy', hsy, hny⟩ := point y hy
    exact Step.completed_of_stranded hy' hsy (ho ▸ hny)
  · intro r hr
    exact hn'.not_below_of_ended hs' (hs'.archived r hr).2
  · intro y hy r hr
    obtain ⟨hy', hsy, -⟩ := point y hy
    have hroot := Step.mem_archive_of_drained hr
    have hlater := (Step.later hy').trans (h'.later hy)
    exact hn'.not_below_of_ended hs' ((hlater.node r (hsy.root_lt hroot)).ended (hsy.archived r hroot).2)

/-- A served call on one thread, and two tracers in it. -/
def nestedCall : List (Thread × Command) :=
  [(⟨"a"⟩, .create (.ofNat 1) (.incomingRemoteCall ⟨"method", "service", "endpoint", none, none⟩)), (⟨"a"⟩, .start 0),
    (⟨"a"⟩, .create (.ofNat 2) (.customService ⟨"method", "service"⟩)), (⟨"a"⟩, .start 1),
    (⟨"a"⟩, .create (.ofNat 3) (.customService ⟨"method", "service"⟩)), (⟨"a"⟩, .start 2)]

/-- What goes on after another thread has let go of the second tracer of `nestedCall`: the third ends and a fourth
comes in its place, the scope of the first is left, and another thread completes a path of its own. -/
def afterLeak : List (Thread × Command) :=
  [(⟨"a"⟩, .endTracer 2), (⟨"a"⟩, .create (.ofNat 4) (.customService ⟨"method", "service"⟩)), (⟨"a"⟩, .start 3),
    (⟨"a"⟩, .leave 0 (.failed ⟨"class", "message"⟩)),
    (⟨"b"⟩, .create (.ofNat 5) (.customService ⟨"method", "service"⟩)), (⟨"b"⟩, .start 4), (⟨"b"⟩, .endTracer 4),
    (⟨"a"⟩, .drain), (⟨"a"⟩, .drop 0)]

theorem strands_afterLeak :
    let s₀ : Session := { name := "session" }
    let s := s₀.played nestedCall
    let s₁ := s.drop ⟨"b"⟩ 1
    let s' := s₁.played afterLeak
    (∃ above below, (s.paths.get (s.forest.get 1).owner).stack = above ++ 1 :: below ∧
      s'.Strands (s.forest.get 1).owner 1 below (s₁.play afterLeak)) ∧
      (s'.paths.get ⟨"a"⟩).stack = [3, 1, 0] ∧ (s₁.play afterLeak).flatMap Step.drained = [4] := by
  have hnew : Session.IsNew { name := "session" } := ⟨rfl, rfl, rfl, rfl, by rintro r ⟨⟩⟩
  have hstart : Run { name := "session" } { name := "session" } [] := .nil
  have hrun := hstart.played nestedCall (by decide +kernel)
  have hafter : Run (Session.drop (Session.played { name := "session" } nestedCall) ⟨"b"⟩ 1) _ [] := .nil
  refine ⟨Run.strands hrun hnew ⟨"b"⟩ (by decide +kernel) (by decide +kernel) ?_, by decide +kernel, by decide +kernel⟩
  exact hafter.played afterLeak (by decide +kernel)

end CallPath
