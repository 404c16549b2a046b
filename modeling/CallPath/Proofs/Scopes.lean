import CallPath.Proofs.Protocol
import CallPath.Proofs.StartEnd
/-!
# Scopes

A scope starts its tracer, runs what is inside, attaches the failure of it, if any, and ends the
tracer. Entering it (`Session.entered`) and leaving it (`Session.exited`) are computed here node by node.

What runs inside adds nodes at the end of the forest and touches nothing else but the children of
the innermost tracer (`Session.Grows`). Two such pieces of work one after the other are one again
(`Grows.trans`), and so is a scope around one (`Grows.block`).
-/

namespace CallPath

namespace Outcome

variable {α : Type}

/-- What a scope gives to its caller if its tracer could be started and ended. -/
def result : Outcome α → ScopeResult α
  | returned value => .value value
  | failed failure => .failed failure
  | interrupted text => .interrupted text

/-- What is attached to the tracer. -/
def failure? : Outcome α → Option Failure
  | returned _ => none
  | failed failure => some failure
  | interrupted text => some (Session.interruption text)

/-- The error that the node of the tracer then has. -/
def error (o : Outcome α) : Option ErrorInfo :=
  o.failure?.map fun f => ⟨f.className, f.text⟩

/-- What is attached has a class. The class of an error is the name of its type, so it is not blank. -/
def Named (o : Outcome α) : Prop :=
  ∀ f ∈ o.failure?, Text.allBlank f.className = false

instance (o : Outcome α) : Decidable o.Named :=
  inferInstanceAs (Decidable (∀ f ∈ o.failure?, _))

end Outcome

namespace Session

variable {s : Session} {t : Thread} {n : NodeRef} {rest : List NodeRef}

theorem Sound.of_effects {ms : List Mark} {s' : Session} (h : s.Sound) (he : Effects t s ms s') : s'.Sound :=
  he.inv (fun _ _ _ => Effect.sound) h

/-! ## Entering a scope -/

section

variable {id : TracerId} {details : Details}

/-- The session after a tracer was created and started. -/
def entered (s : Session) (t : Thread) (id : TracerId) (details : Details) : Session :=
  (s.create t id details).2.begun t s.forest.size

theorem entered_effects (hid : id ∉ s.forest.ids) (hk : (s.active? t).isSome ∨ details.kind.isEntrypoint = true) :
    Effects t s [.born id, .begun s.forest.size] (s.entered t id details) := by
  have hc : Effect t s [.born id] (s.create t id details).2 := .created id details hid
  exact (Effects.single hc).trans (.single (.begun s.forest.size (by simp) (by rw [get_created]) (by rw [get_created])
    (by rw [get_created]; exact hk)))

theorem get_entered (hs : s.Sound) (hid : id ∉ s.forest.ids) (m : NodeRef) :
    (s.entered t id details).forest.get m =
      if m = s.forest.size then ((s.create t id details).2.forest.get s.forest.size).enter .started (s.clock + 1)
      else if s.active? t = some m then (s.forest.get m).link .child s.forest.size else s.forest.get m := by
  have hc : Effect t s [.born id] (s.create t id details).2 := .created id details hid
  have hactive : (s.create t id details).2.active? t = s.active? t := rfl
  unfold entered
  rw [get_begun (hc.sound hs) (by rw [get_created]), hactive]
  split
  · rfl
  · rename_i hm
    rw [get_create, if_neg hm]

theorem size_entered (s : Session) (t : Thread) (id : TracerId) (details : Details) :
    (s.entered t id details).forest.size = s.forest.size + 1 := by
  simp [entered, begun]

theorem get_paths_entered (s : Session) (t : Thread) (id : TracerId) (details : Details) (t' : Thread) :
    (s.entered t id details).paths.get t' =
      if t' = t then ⟨s.forest.size :: (s.paths.get t).stack⟩ else s.paths.get t' :=
  get_paths_begun ..

theorem active_entered (s : Session) (t : Thread) (id : TracerId) (details : Details) :
    (s.entered t id details).active? t = some s.forest.size := by
  unfold active?
  rw [get_paths_entered, if_pos rfl]
  rfl

end

/-! ## Leaving a scope -/

/-- The session after the top of a path was ended. -/
def closed (s : Session) (t : Thread) (n : NodeRef) (rest : List NodeRef) : Session :=
  if rest = [] then (s.unwound t n []).completePath n else s.unwound t n rest

theorem closed_same (s : Session) (t : Thread) (n : NodeRef) (rest : List NodeRef) :
    (s.closed t n rest).forest = s.forest.modify n (·.enter .ended s.clock) ∧
      (s.closed t n rest).settings = s.settings ∧ (s.closed t n rest).metrics.leaked = s.metrics.leaked := by
  unfold closed
  split
  · obtain ⟨hf, -, hset, -, -⟩ := completePath_same (s.unwound t n []) n
    refine ⟨hf, hset, ?_⟩
    rw [metrics_completePath]
    rfl
  · exact ⟨rfl, rfl, rfl⟩

theorem Sound.endTracer_of_stack (h : s.Sound) (hr : (s.paths.get t).stack = n :: rest) :
    s.endTracer t n = (.ok (), s.closed t n rest) := by
  have hn : n ∈ (s.paths.get t).stack := by simp [hr]
  have ho := h.owner_of_mem hn
  have hst := h.started_of_mem hn
  have htop : s.active? (s.forest.get n).owner = some n := by
    rw [ho]
    simp [active?, Path.top?, hr]
  have hok := h.endTracer_of_top hst htop
  rw [ho] at hok
  rcases s.endTracer_cases t n with ⟨e, he⟩ | ⟨-, hst', -⟩ | ⟨-, hst', -⟩ | ⟨-, -, -, rest', hr', he⟩
  · rw [he] at hok
    cases hok
  · rw [hst] at hst'
    cases hst'
  · rw [hst] at hst'
    cases hst'
  · obtain rfl : rest = rest' := (List.cons.inj (hr.symm.trans hr')).2
    exact he

/-- The session after the failure of an operation, if it failed, was attached to its tracer. -/
def marked {α : Type} (s : Session) (n : NodeRef) (o : Outcome α) : Session :=
  o.failure?.elim s fun f => s.failed n f.className f.text

theorem marked_effects {α : Type} {o : Outcome α} (h : s.Sound) (hn : n ∈ (s.paths.get t).stack)
    (he : (s.forest.get n).error = none) (ho : o.Named) : Effects t s [] (s.marked n o) := by
  unfold marked
  cases hf : o.failure? with
  | none => exact .nil s
  | some f =>
    obtain ⟨hlt, hst, howner⟩ := (h.fits.mem_iff t n).1 hn
    exact .single (.failed n _ _ hlt howner (ho f hf) hst he)

theorem attach_eq (h : s.Sound) (hn : n ∈ (s.paths.get t).stack) (he : (s.forest.get n).error = none) {f : Failure}
    (hf : Text.allBlank f.className = false) : s.attach t n f = s.failed n f.className f.text := by
  unfold attach
  rw [he, markFailed_of_ready (h.owner_of_mem hn) hf (h.started_of_mem hn) he]
  rfl

/-- The session after a scope was left. -/
def left {α : Type} (s : Session) (t : Thread) (n : NodeRef) (rest : List NodeRef) (o : Outcome α) : Session :=
  (s.marked n o).closed t n rest

theorem stack_marked {α : Type} (o : Outcome α) : ((s.marked n o).paths.get t).stack = (s.paths.get t).stack := by
  unfold marked
  cases o.failure? <;> rfl

/-- The session after the failure of an operation was attached to its tracer, where that is possible. -/
def attached {α : Type} (s : Session) (t : Thread) (n : NodeRef) (o : Outcome α) : Session :=
  o.failure?.elim s (s.attach t n)

theorem leave_of_ended {α : Type} {o : Outcome α} {s' : Session}
    (h : (s.attached t n o).endTracer t n = (.ok (), s')) : s.leave t n o = (o.result, s') := by
  have failing : ∀ f, (s.attach t n f).endTracer t n = (.ok (), s') → (s.attach t n f).endAfterFailure t n = s' := by
    intro f hf
    rw [endAfterFailure, hf]
  cases o with
  | returned value =>
    have hend : s.endTracer t n = (.ok (), s') := h
    rw [leave, hend]
    rfl
  | failed f => exact Prod.ext rfl (failing f h)
  | interrupted text => exact Prod.ext rfl (failing _ h)

theorem leave_of_stack {α : Type} {o : Outcome α} (h : s.Sound) (hr : (s.paths.get t).stack = n :: rest)
    (he : (s.forest.get n).error = none) (ho : o.Named) : s.leave t n o = (o.result, s.left t n rest o) := by
  have hn : n ∈ (s.paths.get t).stack := by simp [hr]
  have hattached : s.attached t n o = s.marked n o := by
    unfold attached marked
    cases hf : o.failure? with
    | none => rfl
    | some f => exact attach_eq h hn he (ho f hf)
  have hend : (s.marked n o).endTracer t n = (.ok (), s.left t n rest o) :=
    (h.of_effects (marked_effects h hn he ho)).endTracer_of_stack ((stack_marked o).trans hr)
  rw [← hattached] at hend
  exact leave_of_ended hend

/-! ### What is left -/

section

variable {α : Type} (o : Outcome α)

theorem marked_same (s : Session) (n : NodeRef) : (s.marked n o).forest.size = s.forest.size ∧
    (s.marked n o).paths = s.paths ∧ (s.marked n o).archive = s.archive ∧ (s.marked n o).settings = s.settings ∧
      (s.marked n o).metrics.leaked = s.metrics.leaked := by
  unfold marked
  cases o.failure? with
  | none => exact ⟨rfl, rfl, rfl, rfl, rfl⟩
  | some f => exact ⟨Forest.size_modify .., rfl, rfl, rfl, rfl⟩

theorem clock_marked (s : Session) (n : NodeRef) : (s.marked n o).clock = s.clock := by
  unfold marked
  cases o.failure? <;> rfl

theorem get_marked (hn : n < s.forest.size) (he : (s.forest.get n).error = none) (m : NodeRef) :
    (s.marked n o).forest.get m = if m = n then { s.forest.get n with error := o.error } else s.forest.get m := by
  unfold marked Outcome.error
  cases o.failure? with
  | none =>
    split
    · rename_i e
      subst e
      simp [← he]
    · rfl
  | some f =>
    show (s.forest.modify n _).get m = _
    rw [Forest.get_modify_eq]
    by_cases e : m = n
    · subst e
      simp [hn]
    · simp [e, Ne.symm e]

theorem left_same (s : Session) (t : Thread) (n : NodeRef) (rest : List NodeRef) :
    (s.left t n rest o).forest = (s.marked n o).forest.modify n (·.enter .ended s.clock) ∧
      (s.left t n rest o).settings = s.settings ∧ (s.left t n rest o).metrics.leaked = s.metrics.leaked := by
  obtain ⟨-, -, -, hset, hleaked⟩ := marked_same o s n
  obtain ⟨hf, hset', hleaked'⟩ := (s.marked n o).closed_same t n rest
  rw [clock_marked] at hf
  exact ⟨hf, hset'.trans hset, hleaked'.trans hleaked⟩

/-- Only the end of the tracer takes a time. -/
theorem clock_left (s : Session) (t : Thread) (n : NodeRef) (rest : List NodeRef) :
    (s.left t n rest o).clock = s.clock + 1 := by
  have hunwound : ∀ rest, ((s.marked n o).unwound t n rest).clock = s.clock + 1 := fun _ =>
    congrArg (· + 1) (clock_marked o s n)
  unfold left closed
  split
  · rw [clock_completePath, hunwound]
  · exact hunwound rest

theorem get_left (hn : n < s.forest.size) (he : (s.forest.get n).error = none) (m : NodeRef) :
    (s.left t n rest o).forest.get m =
      if m = n then { s.forest.get n with error := o.error }.enter .ended s.clock else s.forest.get m := by
  rw [(left_same o s t n rest).1, Forest.get_modify_eq, (marked_same o s n).1]
  by_cases e : m = n
  · subst e
    simp [get_marked o hn he, hn]
  · simp [get_marked o hn he, e, Ne.symm e]

theorem get_paths_left (t' : Thread) :
    (s.left t n rest o).paths.get t' = if t' = t then ⟨rest⟩ else s.paths.get t' := by
  obtain ⟨-, hp, -⟩ := marked_same o s n
  unfold left closed
  split
  · rename_i e
    rw [(completePath_same _ n).2.1, get_paths_unwound, hp, e]
  · rw [get_paths_unwound, hp]

theorem roots_left (hret : s.settings.retainCompletedPaths = true) :
    (s.left t n rest o).archive.roots = s.archive.roots ++ if rest = [] then [n] else [] := by
  obtain ⟨-, -, ha, hset, -⟩ := marked_same o s n
  unfold left closed
  split
  · have hset' : ((s.marked n o).unwound t n []).settings = s.settings := hset
    rw [(completePath_same _ n).2.2.2.2, hset', if_pos hret]
    show (s.marked n o).archive.roots ++ [n] = _
    rw [ha]
  · show (s.marked n o).archive.roots = _
    rw [ha, List.append_nil]

end

theorem left_effects {α : Type} {o : Outcome α} (h : s.Sound) (hr : (s.paths.get t).stack = n :: rest)
    (he : (s.forest.get n).error = none) (ho : o.Named) : ∃ ms, Effects t s ms (s.left t n rest o) := by
  have hn : n ∈ (s.paths.get t).stack := by simp [hr]
  have hm := marked_effects h hn he ho
  have hr' : ((s.marked n o).paths.get t).stack = n :: rest := (stack_marked o).trans hr
  obtain ⟨hlt, hst, howner⟩ := ((h.of_effects hm).fits.mem_iff t n).1 (by simp [hr'])
  unfold left closed
  split
  · rename_i e
    subst e
    exact ⟨_, hm.snoc (.completed n hlt howner hst hr')⟩
  · rename_i hne
    exact ⟨_, hm.snoc (.unwound n rest hlt howner hst hr' hne)⟩

/-- The session after a scope was left and its tracer was let go. -/
def exited {α : Type} (s : Session) (t : Thread) (n : NodeRef) (rest : List NodeRef) (o : Outcome α) : Session :=
  (s.left t n rest o).released n

section

variable {α : Type} {o : Outcome α}

theorem size_exited (s : Session) (t : Thread) (n : NodeRef) (rest : List NodeRef) (o : Outcome α) :
    (s.exited t n rest o).forest.size = s.forest.size := by
  show (Forest.modify _ _ _).size = _
  rw [Forest.size_modify, (left_same o s t n rest).1, Forest.size_modify, (marked_same o s n).1]

theorem get_exited (hn : n < s.forest.size) (he : (s.forest.get n).error = none) (m : NodeRef) :
    (s.exited t n rest o).forest.get m =
      if m = n then { s.forest.get n with state := .ended, error := o.error, endedAt := some s.clock, held := false }
      else s.forest.get m := by
  have hn' : n < (s.left t n rest o).forest.size := by
    rw [(left_same o s t n rest).1, Forest.size_modify, (marked_same o s n).1]
    exact hn
  show (Forest.modify _ n _).get m = _
  rw [Forest.get_modify_eq]
  by_cases e : m = n
  · subst e
    rw [if_pos ⟨rfl, hn'⟩, get_left o hn he, if_pos rfl, if_pos rfl]
    simp [Node.enter]
  · rw [if_neg (fun h => e h.1.symm), get_left o hn he, if_neg e, if_neg e]

theorem get_paths_exited (t' : Thread) :
    (s.exited t n rest o).paths.get t' = if t' = t then ⟨rest⟩ else s.paths.get t' :=
  get_paths_left o t'

theorem roots_exited (hret : s.settings.retainCompletedPaths = true) :
    (s.exited t n rest o).archive.roots = s.archive.roots ++ if rest = [] then [n] else [] :=
  roots_left o hret

theorem drop_left (hn : n < s.forest.size) (he : (s.forest.get n).error = none) :
    (s.left t n rest o).drop t n = s.exited t n rest o := by
  have hended : ((s.left t n rest o).forest.get n).state = .ended := by
    rw [get_left o hn he, if_pos rfl]
    rfl
  exact drop_of_ended hended t

theorem exited_effects (h : s.Sound) (hr : (s.paths.get t).stack = n :: rest)
    (he : (s.forest.get n).error = none) (ho : o.Named) : ∃ ms, Effects t s ms (s.exited t n rest o) := by
  obtain ⟨_, hleft⟩ := left_effects h hr he ho
  have hlt : n < (s.left t n rest o).forest.size := by
    rw [(left_same o s t n rest).1, Forest.size_modify, (marked_same o s n).1]
    exact ((h.fits.mem_iff t n).1 (by simp [hr])).1
  exact ⟨_, hleft.trans (.single (.released n hlt))⟩

end

end Session

/-! ## Growing by nodes -/

namespace Forest

/-- The nodes stand one after the other, the first at `a`. -/
def Has (f : Forest) : Nat → List Node → Prop
  | _, [] => True
  | a, m :: ms => f.get a = m ∧ f.Has (a + 1) ms

variable {f f' : Forest} {a : Nat} {ms ms' : List Node}

theorem has_append : f.Has a (ms ++ ms') ↔ f.Has a ms ∧ f.Has (a + ms.length) ms' := by
  induction ms generalizing a with
  | nil => simp [Has]
  | cons m ms ih => simp [Has, ih, and_assoc, Nat.add_assoc, Nat.add_comm 1]

theorem Has.congr (h : f.Has a ms) (hf : ∀ m : Nat, a ≤ m → m < a + ms.length → f'.get m = f.get m) :
    f'.Has a ms := by
  induction ms generalizing a with
  | nil => trivial
  | cons m ms ih =>
    rw [List.length_cons] at hf
    refine ⟨(hf a (Nat.le_refl a) (Nat.lt_add_of_pos_right (Nat.succ_pos _))).trans h.1, ih h.2 ?_⟩
    intro m' hm hlt
    exact hf m' (by omega) (by omega)

theorem Has.getElem (h : f.Has a ms) {i : Nat} (hi : i < ms.length) : f.get (a + i) = ms[i] := by
  induction ms generalizing a i with
  | nil => cases hi
  | cons m ms ih =>
    cases i with
    | zero => exact h.1
    | succ i =>
      rw [← Nat.add_assoc, Nat.add_right_comm]
      exact ih h.2 (Nat.lt_of_succ_lt_succ hi)

end Forest

/-- The node with more children nested in it. -/
def Node.adopt (m : Node) (cs : List NodeRef) : Node :=
  { m with children := m.children ++ cs.map (LinkKind.child, ·) }

/-- The node of a block that was entered at the one time and left at the other. A tracer is created and
then started when its block is entered. -/
def Node.ofBlock (t : Thread) (id : TracerId) (details : Details) (o : Outcome Unit) (inner : List NodeRef)
    (entered left : Time) : Node where
  id
  owner := t
  details
  createdAt := entered
  state := .ended
  children := inner.map (LinkKind.child, ·)
  error := o.error
  receipt := details.linkTarget.elim .absent TagReceipt.carries
  startedAt := some (entered + 1)
  endedAt := some left

namespace Session

/-- Nodes were added at the end; the outermost of them were nested in the innermost tracer of the thread
or, where there was none, archived. -/
structure Grows (t : Thread) (roots : List NodeRef) (nodes : List Node) (s s' : Session) : Prop where
  size : s'.forest.size = s.forest.size + nodes.length
  old : ∀ m < s.forest.size, s'.forest.get m =
    if s.active? t = some m then (s.forest.get m).adopt roots else s.forest.get m
  new : s'.forest.Has s.forest.size nodes
  paths : ∀ t', s'.paths.get t' = s.paths.get t'
  archived : s'.archive.roots = s.archive.roots ++ if (s.active? t).isSome then [] else roots
  settings : s'.settings = s.settings
  leaked : s'.metrics.leaked = s.metrics.leaked
  /-- Each of the nodes was created, started and ended. -/
  clock : s'.clock = s.clock + 3 * nodes.length
  effects : ∃ ms, Effects t s ms s'

namespace Grows

variable {roots roots' : List NodeRef} {nodes nodes' : List Node} {s s' s'' : Session} {t : Thread}

theorem refl (t : Thread) (s : Session) : s.Grows t [] [] s where
  size := rfl
  old m _ := by simp [Node.adopt]
  new := trivial
  paths _ := rfl
  archived := by simp
  settings := rfl
  leaked := rfl
  clock := rfl
  effects := ⟨_, .nil s⟩

theorem active (h : s.Grows t roots nodes s') (t' : Thread) : s'.active? t' = s.active? t' :=
  congrArg Path.top? (h.paths t')

theorem sound (h : s.Grows t roots nodes s') (hs : s.Sound) : s'.Sound := by
  obtain ⟨_, he⟩ := h.effects
  exact hs.of_effects he

theorem trans (hs : s.Sound) (h : s.Grows t roots nodes s') (h' : s'.Grows t roots' nodes' s'') :
    s.Grows t (roots ++ roots') (nodes ++ nodes') s'' where
  size := by rw [h'.size, h.size, List.length_append, Nat.add_assoc]
  old m hm := by
    rw [h'.old m (by rw [h.size]; omega), h.old m hm, h.active]
    split <;> simp [Node.adopt]
  new := by
    have hsize : s.forest.size + nodes.length = s'.forest.size := h.size.symm
    refine Forest.has_append.2 ⟨h.new.congr ?_, hsize ▸ h'.new⟩
    intro m hm hlt
    have hactive : s.active? t ≠ some m := fun ha => by
      have hold : m < s.forest.size := Forest.lt_size_of_state (by simp [hs.started_of_active ha])
      omega
    rw [h'.old m (by omega), h.active, if_neg hactive]
  paths t' := (h'.paths t').trans (h.paths t')
  archived := by
    rw [h'.archived, h.archived, h.active, List.append_assoc]
    split <;> simp
  settings := h'.settings.trans h.settings
  leaked := h'.leaked.trans h.leaked
  clock := by
    rw [h'.clock, h.clock, List.length_append]
    omega
  effects := by
    obtain ⟨_, he⟩ := h.effects
    obtain ⟨_, he'⟩ := h'.effects
    exact ⟨_, he.trans he'⟩

theorem ids (h : s.Grows t roots nodes s') : s'.forest.ids = s.forest.ids ++ nodes.map Node.id := by
  apply List.ext_getElem?
  intro i
  by_cases hi : i < s'.forest.size
  · rw [Forest.getElem?_ids hi]
    by_cases hold : i < s.forest.size
    · rw [List.getElem?_append_left (by simpa using hold), Forest.getElem?_ids hold, Forest.idOf, h.old i hold]
      split <;> rfl
    · obtain ⟨j, rfl⟩ := Nat.exists_eq_add_of_le (Nat.le_of_not_lt hold)
      have hj : j < nodes.length := by
        rw [h.size] at hi
        omega
      rw [List.getElem?_append_right (by simp), Forest.idOf, h.new.getElem hj]
      simp [hj]
  · rw [List.getElem?_eq_none (by simpa using hi), List.getElem?_eq_none]
    rw [h.size] at hi
    simpa using hi

/-- A block adds a node of its own before those that are added inside it. -/
theorem block (hs : s.Sound) (hret : s.settings.retainCompletedPaths = true) {id : TracerId} {details : Details}
    (hid : id ∉ s.forest.ids) (hk : (s.active? t).isSome ∨ details.kind.isEntrypoint = true) {o : Outcome Unit}
    (ho : o.Named) (h : (s.entered t id details).Grows t roots nodes s') :
    ∃ v, s'.leave t s.forest.size o = (o.result, v) ∧
      s.Grows t [s.forest.size] (.ofBlock t id details o roots s.clock s'.clock :: nodes) (v.drop t s.forest.size) := by
  have hentered := entered_effects (t := t) hid hk
  have hs' := h.sound (hs.of_effects hentered)
  have hstack : (s'.paths.get t).stack = s.forest.size :: (s.paths.get t).stack := by
    rw [h.paths, get_paths_entered, if_pos rfl]
  have hactive := active_entered s t id details
  have hsize := size_entered s t id details
  have hsize' : s'.forest.size = s.forest.size + 1 + nodes.length := by rw [h.size, hsize]
  have hlt : s.forest.size < s'.forest.size := by omega
  have hnode : s'.forest.get s.forest.size =
      (((s.create t id details).2.forest.get s.forest.size).enter .started (s.clock + 1)).adopt roots := by
    rw [h.old _ (by omega), if_pos hactive, get_entered hs hid, if_pos rfl]
  have hfree : (s'.forest.get s.forest.size).error = none := by
    rw [hnode, get_created]
    rfl
  have hget : ∀ m, (s'.exited t s.forest.size (s.paths.get t).stack o).forest.get m = if m = s.forest.size then
      { s'.forest.get s.forest.size with state := .ended, error := o.error, endedAt := some s'.clock, held := false }
      else s'.forest.get m := get_exited hlt hfree
  obtain ⟨-, hset, hleaked⟩ := left_same o s' t s.forest.size (s.paths.get t).stack
  refine ⟨_, leave_of_stack hs' hstack hfree ho, ?_⟩
  rw [drop_left hlt hfree]
  exact {
    size := by
      rw [size_exited, hsize', List.length_cons]
      omega
    old := by
      intro m hm
      have hne : m ≠ s.forest.size := by omega
      have hother : (s.entered t id details).active? t ≠ some m := by
        rw [hactive]
        simpa using hne.symm
      rw [hget, if_neg hne, h.old m (by omega), if_neg hother, get_entered hs hid, if_neg hne]
      rfl
    new := by
      refine ⟨?_, (hsize ▸ h.new).congr ?_⟩
      · rw [hget, if_pos rfl, hnode, get_created]
        simp [Node.ofBlock, Node.adopt, Node.enter]
      · intro m hm _
        have hne : m ≠ s.forest.size := by omega
        rw [hget, if_neg hne]
    paths := by
      intro t'
      rw [get_paths_exited, h.paths, get_paths_entered]
      split
      · rename_i e
        rw [e]
      · rfl
    archived := by
      have hret' : s'.settings.retainCompletedPaths = true := by
        rw [h.settings]
        exact hret
      rw [roots_exited hret', h.archived, hactive, Option.isSome_some, if_pos rfl, List.append_nil]
      show s.archive.roots ++ _ = _
      unfold active? Path.top?
      cases (s.paths.get t).stack <;> rfl
    settings := hset.trans h.settings
    leaked := hleaked.trans h.leaked
    clock := by
      have hclock : s'.clock = s.clock + 2 + 3 * nodes.length := h.clock
      show (s'.left t s.forest.size (s.paths.get t).stack o).clock = _
      rw [clock_left, hclock, List.length_cons]
      omega
    effects := by
      obtain ⟨_, he⟩ := h.effects
      obtain ⟨_, hexited⟩ := exited_effects hs' hstack hfree ho
      exact ⟨_, hentered.trans (he.trans hexited)⟩ }

end Grows

end Session

end CallPath
