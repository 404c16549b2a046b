import CallPath.Proofs.ThreadViews
/-!
# What the other threads leave alone

A command on one thread changes tracers of that thread, its path and the archive, to which it adds a
root of its own at most. `Session.Spares` says what this leaves for another thread: its nodes, its path
and its roots in the archive are as they were. That holds for the calls on a tracer of another thread as
well, since they are refused, and for every command that is about tracers (`perform_spares`), except for
those that look at all threads at once: a pass over the archive, and taking the archive away.
-/

namespace CallPath

/-- Whether a command is about the tracers of a thread, and neither about all that have ended nor
about the agent. -/
def Command.isConfined : Command → Bool
  | create .. | trace .. | start _ | endTracer _ | update .. | updateAll .. | markFailed .. | outgoingTag ..
  | setIncomingTag .. | applyIncomingTags .. | drop _ | addAttribute .. | addAttributes .. | createLink => true
  | leave .. | drain | clearArchive | resolvePending | resolve _ | activateAgent _ | shutdownAgent
  | setAgentState _ | setCallback _ | warn _ => false

/-- The tracer that the program lets go of. -/
def Command.dropped? : Command → Option NodeRef
  | drop n => some n
  | _ => none

namespace Session

/-- What a thread finds in the first session is in the second one as it was. -/
structure Spares (t : Thread) (s s' : Session) : Prop where
  size : s.forest.size ≤ s'.forest.size
  get : ∀ n < s.forest.size, (s.forest.get n).owner = t → s'.forest.get n = s.forest.get n
  path : s'.paths.get t = s.paths.get t
  settings : s'.settings = s.settings
  archive : s'.archivedOf t = s.archivedOf t

variable {s s' s'' : Session} {t u : Thread} {n : NodeRef}

namespace Spares

theorem trans (h : Spares t s s') (h' : Spares t s' s'') : Spares t s s'' where
  size := Nat.le_trans h.size h'.size
  get n hn ho := by
    have hget := h.get n hn ho
    rw [← hget] at ho
    exact (h'.get n (Nat.lt_of_lt_of_le hn h.size) ho).trans hget
  path := h'.path.trans h.path
  settings := h'.settings.trans h.settings
  archive := h'.archive.trans h.archive

/-- Nodes changed, and none of them was of the thread. -/
theorem of_names {f : Forest} (names : s.forest.SameNames f)
    (hget : ∀ n, (s.forest.get n).owner = t → f.get n = s.forest.get n) (c : Nat) (a : Agent) (k : Metrics)
    (e : List Event) : Spares t s { s with forest := f, clock := c, agent := a, metrics := k, events := e } :=
  ⟨Nat.le_of_eq names.size.symm, fun n _ => hget n, rfl, rfl,
    archivedOf_congr s t fun r _ => ⟨names.id r, names.owner r⟩⟩

/-- The forest is as it was. -/
theorem rest (s : Session) (t : Thread) (a : Agent) (k : Metrics) (e : List Event) :
    Spares t s { s with agent := a, metrics := k, events := e } :=
  of_names ⟨rfl, fun _ => rfl, fun _ => rfl⟩ (fun _ _ => rfl) s.clock a k e

theorem modify {g : Node → Node} (ho : (s.forest.get n).owner ≠ t) (hg : Node.Plain g) (c : Nat) (a : Agent)
    (k : Metrics) (e : List Event) :
    Spares t s { s with forest := s.forest.modify n g, clock := c, agent := a, metrics := k, events := e } := by
  refine of_names (Forest.modify_sameNames hg _ _) (fun m hm => ?_) c a k e
  exact Forest.get_modify_ne fun e => ho (e ▸ hm)

theorem setPath (h : Spares t s s') (hut : u ≠ t) (p : Path) :
    Spares t s { s' with paths := s'.paths.set u p } := by
  refine ⟨h.size, h.get, ?_, h.settings, h.archive⟩
  show (s'.paths.set u p).get t = _
  rw [ThreadPaths.get_set, if_neg (Ne.symm hut)]
  exact h.path

theorem andThen {y : Except UsageError Unit × Session} {k : Session → Except UsageError Unit × Session}
    (h : Spares t s y.2) (hk : Spares t y.2 (k y.2).2) : Spares t s (Session.andThen y k).2 := by
  obtain ⟨result, u⟩ := y
  cases result with
  | error e => exact h
  | ok _ => exact h.trans hk

end Spares

/-! ## Operations on a tracer -/

theorem update_spares (hut : u ≠ t) (up : Update) : Spares t s (s.update u n up).2 := by
  rcases s.update_cases u n up with ⟨e, h⟩ | ⟨rfl, -, -, d, -, h⟩ <;> rw [h]
  · exact .rest ..
  · exact .modify hut (.fields d) ..

theorem updateAll_spares (hut : u ≠ t) (us : List Update) : Spares t s (s.updateAll u n us).2 := by
  induction us generalizing s with
  | nil => exact .rest ..
  | cons up us ih =>
    rw [updateAll_cons]
    exact (update_spares hut up).andThen ih

theorem markFailed_spares (hut : u ≠ t) (className message : String) :
    Spares t s (s.markFailed u n className message).2 := by
  rcases s.markFailed_cases u n className message with ⟨e, h⟩ | ⟨rfl, -, -, -, h⟩ <;> rw [h]
  · exact .rest ..
  · exact .modify hut (.failed (some ⟨className, message⟩)) ..

theorem outgoingTag_spares (form : TagForm) : Spares t s (s.outgoingTag u n form).2 := by
  rcases s.outgoingTag_cases u n form with ⟨e, h⟩ | ⟨-, -, -, h⟩ <;> rw [h] <;> exact .rest ..

theorem setIncomingTag_spares (hut : u ≠ t) (tag : IncomingTag) : Spares t s (s.setIncomingTag u n tag).2 := by
  rcases s.setIncomingTag_cases u n tag with ⟨e, h⟩ | ⟨rfl, -, -, h⟩ <;> rw [h]
  · exact .rest ..
  · dsimp only
    split <;> exact .modify hut (.tagged (.ofDecoded tag.decode)) ..

theorem applyIncomingTags_spares (hut : u ≠ t) (tags : IncomingTags) :
    Spares t s (s.applyIncomingTags u n tags).2 := by
  unfold applyIncomingTags
  split
  · exact .rest ..
  · exact setIncomingTag_spares hut _
  · exact setIncomingTag_spares hut _
  · exact .rest ..

theorem setUp_spares (hut : u ≠ t) (kind : Kind) (o : TraceOptions) : Spares t s (s.setUp u n kind o).2 := by
  rw [setUp_eq]
  refine (updateAll_spares hut (o.updates kind)).andThen ?_
  split
  · exact applyIncomingTags_spares hut o.tags
  · exact .rest ..

/-! ## Starting and ending -/

theorem begun_spares (hut : u ≠ t) (hs : s.Sound) (ho : (s.forest.get n).owner = u) : Spares t s (s.begun u n) := by
  have names := (Forest.nest_sameNames s.forest (s.active? u) n).trans
    (Forest.modify_sameNames (Node.Plain.enter .started s.clock) _ n)
  refine (Spares.of_names names (fun m hm => ?_) (s.clock + 1) (s.agent.start (s.forest.idOf n)) s.metrics.recordStarted
    s.events).setPath hut _
  have hother : ∀ k, (s.forest.get k).owner = u → k ≠ m := by
    rintro k hk rfl
    exact hut (hk.symm.trans hm)
  rw [Forest.get_modify_ne (hother n ho)]
  cases ha : s.active? u with
  | none => rfl
  | some b => exact Forest.get_modify_ne (hother b (hs.owner_of_active ha))

theorem start_spares (hut : u ≠ t) (hs : s.Sound) : Spares t s (s.start u n).2 := by
  rcases s.start_cases u n with ⟨e, h⟩ | ⟨ho, -, -, h⟩ <;> rw [h]
  · exact .rest ..
  · exact begun_spares hut hs ho

theorem finish_spares (hut : u ≠ t) (ho : (s.forest.get n).owner = u) : Spares t s (s.finish n) :=
  .modify (ho ▸ hut) (Node.Plain.enter .ended _) ..

theorem completePath_spares (ho : (s.forest.get n).owner ≠ t) : Spares t s (s.completePath n) := by
  obtain ⟨hforest, hpaths, hsettings, -, harchive⟩ := completePath_same s n
  refine ⟨Nat.le_of_eq (congrArg _ hforest).symm, fun m _ _ => by rw [hforest], by rw [hpaths], hsettings, ?_⟩
  unfold archivedOf
  rw [hforest, harchive]
  split
  · simp [Archive.append, List.filter_append, ho]
  · rfl

theorem endTracer_spares (hut : u ≠ t) : Spares t s (s.endTracer u n).2 := by
  rcases s.endTracer_cases u n with ⟨e, h⟩ | ⟨-, -, h⟩ | ⟨ho, -, h⟩ | ⟨ho, -, -, rest, -, h⟩ <;> rw [h]
  · exact .rest ..
  · exact .rest ..
  · exact finish_spares hut ho
  · have hunwound : ∀ rest, Spares t s (s.unwound u n rest) := fun rest => (finish_spares hut ho).setPath hut ⟨rest⟩
    dsimp only
    split
    · refine (hunwound []).trans (completePath_spares ?_)
      have howner : ((s.unwound u n []).forest.get n).owner = (s.forest.get n).owner :=
        (Forest.modify_sameNames (Node.Plain.enter .ended _) s.forest n).owner n
      rw [howner, ho]
      exact hut
    · exact hunwound rest

theorem drop_spares (hut : u ≠ t) (ho : (s.forest.get n).owner = u) : Spares t s (s.drop u n) := by
  have hreleased : Spares t s (s.released n) := .modify (ho ▸ hut) .released ..
  have howner : ((s.released n).forest.get n).owner ≠ t := fun e =>
    hut ((ho.symm.trans ((Forest.modify_sameNames .released s.forest n).owner n).symm).trans e)
  rcases s.drop_cases u n with ⟨-, h⟩ | ⟨-, _, h⟩ | ⟨-, -, h⟩ | ⟨-, -, h | ⟨_, h⟩⟩ <;> rw [h]
  · exact hreleased
  · exact hreleased.trans (.rest ..)
  · exact hreleased.trans (.modify howner (Node.Plain.enter .ended _) ..)
  · exact hreleased.trans (.rest ..)
  · exact hreleased.trans (.rest ..)

/-! ## New tracers and attributes -/

theorem create_spares (hs : s.Sound) (id : TracerId) (d : Details) : Spares t s (s.create u id d).2 := by
  refine ⟨by simp, fun m hm _ => ?_, rfl, rfl, archivedOf_create hs u id d t⟩
  rw [get_create, if_neg (Nat.ne_of_lt hm)]

theorem trace_spares (hut : u ≠ t) (hs : s.Sound) {id : TracerId} (op : Operation) (o : TraceOptions) :
    Spares t s (s.trace u id op o).2 := by
  cases hd : op.details with
  | error e =>
    unfold trace createFor
    rw [hd]
    exact .rest ..
  | ok d =>
    have hset := setUp_spares (s := (s.create u id d).2) (n := s.forest.size) hut op.kind o
    obtain ⟨s', -, hshape, htrace⟩ := trace_cases (s := s) (t := u) id o hd
    have ho : (s'.forest.get s.forest.size).owner = u := by
      rw [(hshape.forest.node _).owner, get_created]
    rcases htrace with ⟨hy, h⟩ | ⟨e, hy, h⟩ <;> rw [hy] at hset <;> rw [h]
    · exact (create_spares hs id d).trans hset
    · have hended : ((s'.finish s.forest.size).forest.get s.forest.size).owner = u :=
        ((Forest.modify_sameNames (Node.Plain.enter .ended _) s'.forest _).owner _).trans ho
      exact (create_spares hs id d).trans (hset.trans ((finish_spares hut ho).trans (drop_spares hut hended)))

theorem addAttribute_spares (hut : u ≠ t) (hs : s.Sound) (key : String) (value : AttributeValue) :
    Spares t s (s.addAttribute u key value).2 := by
  rcases s.addAttribute_cases u key value with ⟨e, h⟩ | ⟨-, n, ha, h⟩ | ⟨-, -, m, h⟩ <;> rw [h]
  · exact .rest ..
  · exact .modify (hs.owner_of_active ha ▸ hut) (.attributed key value) ..
  · exact .rest ..

theorem addEach_spares (hut : u ≠ t) (hs : s.Sound) (pairs : List (String × AttributeValue)) :
    Spares t s (s.addEach u pairs).2 := by
  induction pairs generalizing s with
  | nil => exact .rest ..
  | cons p pairs ih =>
    have hsound : (s.addAttribute u p.1 p.2).2.Sound :=
      (addAttribute_effects p.1 p.2).inv (fun _ _ _ => Effect.sound) hs
    rw [addEach_cons]
    exact (addAttribute_spares hut hs p.1 p.2).andThen (ih hsound)

/-! ## Every confined command -/

theorem perform_spares (hut : u ≠ t) (hs : s.Sound) {c : Command} (hc : c.isConfined = true)
    (hdrop : ∀ n ∈ c.dropped?, (s.forest.get n).owner = u) : Spares t s (s.perform u c).2 := by
  cases c with
  | create id d => exact create_spares hs id d
  | trace id op o => exact trace_spares hut hs op o
  | start n => exact start_spares hut hs
  | endTracer n => exact endTracer_spares hut
  | update n up => exact update_spares hut up
  | updateAll n us => exact updateAll_spares hut us
  | markFailed n className message => exact markFailed_spares hut className message
  | outgoingTag n form => exact outgoingTag_spares form
  | setIncomingTag n tag => exact setIncomingTag_spares hut tag
  | applyIncomingTags n tags => exact applyIncomingTags_spares hut tags
  | drop n => exact drop_spares hut (hdrop n rfl)
  | addAttribute key value => exact addAttribute_spares hut hs key value
  | addAttributes keys values count => exact addEach_spares hut hs _
  | createLink => exact .rest ..
  | leave | drain | clearArchive | resolvePending | resolve | activateAgent | shutdownAgent | setAgentState
  | setCallback | warn => cases hc

end Session

end CallPath
