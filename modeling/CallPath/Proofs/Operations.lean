import CallPath.Proofs.Commands
/-!
# What the operations do

One lemma per operation: it is refused, and then the session is `refused`, or it passed its
checks, and then the session is the one its lemma names. Later modules do not look at the
operations again.
-/

namespace CallPath

/-! ## Nodes of a forest -/

namespace Forest

theorem lt_size_of_state {f : Forest} {n : NodeRef} (h : (f.get n).state ≠ .ended) : n < f.size := by
  rcases Nat.lt_or_ge n f.size with hn | hn
  · exact hn
  · rw [get_of_size_le hn] at h
    exact absurd rfl h

theorem get_modify_eq (f : Forest) (n m : NodeRef) (g : Node → Node) :
    (f.modify n g).get m = if n = m ∧ m < f.size then g (f.get m) else f.get m := by
  by_cases h : m < f.size
  · rw [get_modify f n m g h]
    simp [h]
  · rw [get_of_size_le (by simpa using h), get_of_size_le (by simpa using h)]
    simp [h]

theorem get_modify_ne {f : Forest} {n m : NodeRef} {g : Node → Node} (h : n ≠ m) :
    (f.modify n g).get m = f.get m := by
  simp [get_modify_eq, h]

/-- A change that keeps `p` of every node keeps it everywhere. -/
theorem get_modify_same {α : Type} {g : Node → Node} {p : Node → α} (h : ∀ m, p (g m) = p m) (f : Forest)
    (n m : NodeRef) : p ((f.modify n g).get m) = p (f.get m) := by
  rw [get_modify_eq]
  split
  · exact h _
  · rfl

@[simp] theorem size_add (f : Forest) (node : Node) : (f.add node).2.size = f.size + 1 := by
  simp [add, size]

theorem get_add (f : Forest) (node : Node) (m : NodeRef) :
    (f.add node).2.get m = if m = f.size then node else f.get m := by
  simp only [add, get, size, Array.getD_eq_getD_getElem?, Array.getElem?_push]
  split <;> rfl

@[simp] theorem length_ids (f : Forest) : f.ids.length = f.size := by
  simp [ids, size]

theorem getElem?_ids {f : Forest} {n : NodeRef} (h : n < f.size) : f.ids[n]? = some (f.idOf n) := by
  have h' : n < f.nodes.size := h
  simp [ids, idOf, get, Array.getD_eq_getD_getElem?, Array.getElem?_eq_getElem h']

theorem idOf_mem_ids {f : Forest} {n : NodeRef} (h : n < f.size) : f.idOf n ∈ f.ids :=
  List.mem_of_getElem? (getElem?_ids h)

theorem mem_ids {f : Forest} {id : TracerId} (h : id ∈ f.ids) : ∃ n < f.size, f.idOf n = id := by
  obtain ⟨n, hn⟩ := List.getElem?_of_mem h
  have hlt : n < f.size := by
    rw [← length_ids]
    exact (List.getElem?_eq_some_iff.1 hn).1
  rw [getElem?_ids hlt] at hn
  exact ⟨n, hlt, Option.some.inj hn⟩

theorem ids_add (f : Forest) (node : Node) : (f.add node).2.ids = f.ids ++ [node.id] := by
  simp [ids, add]

/-- Forests of one size whose nodes have the same ids. -/
theorem ids_congr {f f' : Forest} (hs : f'.size = f.size) (h : ∀ n, f'.idOf n = f.idOf n) : f'.ids = f.ids := by
  apply List.ext_getElem?
  intro n
  by_cases hn : n < f.size
  · rw [getElem?_ids hn, getElem?_ids (hs ▸ hn), h]
  · rw [List.getElem?_eq_none (by simpa [hs] using hn), List.getElem?_eq_none (by simpa using hn)]

/-- The forest with `n` nested below a node, if there is one. -/
def nest (f : Forest) (below? : Option NodeRef) (n : NodeRef) : Forest :=
  below?.elim f fun p => f.modify p (·.link .child n)

@[simp] theorem size_nest (f : Forest) (below? : Option NodeRef) (n : NodeRef) :
    (f.nest below? n).size = f.size := by
  cases below? <;> simp [nest]

/-- Nesting changes nothing but the children of the node below. -/
theorem get_nest_same {α : Type} {p : Node → α} (h : ∀ m c, p (m.link .child c) = p m) (f : Forest)
    (below? : Option NodeRef) (n m : NodeRef) : p ((f.nest below? n).get m) = p (f.get m) := by
  cases below? with
  | none => rfl
  | some b => exact get_modify_same (fun m => h m n) f b m

end Forest

namespace TagReceipt

theorem id?_ofDecoded (id? : Option TracerId) : (ofDecoded id?).id? = id? := by
  cases id? <;> rfl

/-- What a tracer knows that was created from a link, or not. -/
theorem id?_elim (id? : Option TracerId) : (id?.elim absent carries).id? = id? := by
  cases id? <;> rfl

end TagReceipt

/-! ## Checks -/

theorem bind_eq_ok {ε α β : Type} {x : Except ε α} {f : α → Except ε β} {b : β} :
    (x >>= f) = .ok b ↔ ∃ a, x = .ok a ∧ f a = .ok b := by
  cases x <;> simp [bind, Except.bind]

namespace Node

theorem requireThread_eq_ok {n : Node} {t : Thread} {u : Unit} : n.requireThread t = .ok u ↔ n.owner = t := by
  unfold requireThread
  split
  · simp_all
  · rename_i h
    simp [Ne.symm h]

theorem requireState_eq_ok {n : Node} {st : TracerState} {u : Unit} : n.requireState st = .ok u ↔ n.state = st := by
  unfold requireState
  split <;> simp_all

theorem requireCapability_eq_ok {n : Node} {c : Capability} {u : Unit} :
    n.requireCapability c = .ok u ↔ n.kind.supports c = true := by
  unfold requireCapability
  split <;> simp_all

end Node

theorem requireNonBlank_eq_ok {name value : String} {u : Unit} :
    requireNonBlank name value = .ok u ↔ Text.allBlank value = false := by
  unfold requireNonBlank
  split <;> simp_all

theorem Path.push_eq_ok {p : Path} {f : Forest} {n : NodeRef} {r : Forest × Path} :
    p.push f n = .ok r ↔ (f.get n).state = .created ∧ (p.top?.isSome ∨ (f.get n).kind.isEntrypoint = true) ∧
      r = (f.nest p.top? n, ⟨n :: p.stack⟩) := by
  obtain ⟨stack⟩ := p
  unfold push
  simp only [bind_eq_ok, Node.requireState_eq_ok, exists_const]
  cases stack with
  | nil =>
    by_cases h : (f.get n).kind.isEntrypoint = true
    · simp [h, top?, Forest.nest, pure, Except.pure, @eq_comm _ r]
    · simp [h, top?, throw, throwThe, MonadExceptOf.throw]
  | cons top rest => simp [top?, Forest.nest, pure, Except.pure, @eq_comm _ r]

theorem Path.pop_eq_ok {p : Path} {f : Forest} {n : NodeRef} {r : Option NodeRef × Path} :
    p.pop f n = .ok r ↔ ∃ rest, p.stack = n :: rest ∧ r = (if rest.isEmpty then some n else none, ⟨rest⟩) := by
  obtain ⟨stack⟩ := p
  unfold pop
  cases stack with
  | nil => simp
  | cons top rest =>
    by_cases h : top = n
    · simp [h, @eq_comm _ r]
    · simp [h]

/-! ## Sessions after an operation -/

namespace Session

/-- A refusal was counted and logged. -/
def refused (s : Session) (n : NodeRef) (e : UsageError) : Session :=
  { s.log (.usageError (s.forest.label n) e) with metrics := s.metrics.recordUsageError }

/-- A tracer was started on top of a thread's path. -/
def begun (s : Session) (t : Thread) (n : NodeRef) : Session :=
  { s with
    forest := (s.forest.nest (s.active? t) n).modify n (·.enter .started s.clock)
    clock := s.clock + 1
    paths := s.paths.set t ⟨n :: (s.paths.get t).stack⟩
    agent := s.agent.start (s.forest.idOf n)
    metrics := s.metrics.recordStarted }

/-- The top of a path was ended, and `rest` is what was below it. -/
def unwound (s : Session) (t : Thread) (n : NodeRef) (rest : List NodeRef) : Session :=
  { s.finish n with paths := s.paths.set t ⟨rest⟩ }

/-- A field of a tracer was set. -/
def updated (s : Session) (n : NodeRef) (u : Update) (details : Details) : Session :=
  { s with
    forest := s.forest.modify n fun m => { m with details }
    agent := s.agent.update (s.forest.idOf n) u }

/-- An error was attached to a tracer. -/
def failed (s : Session) (n : NodeRef) (className message : String) : Session :=
  { s with
    forest := s.forest.modify n fun m => { m with error := some ⟨className, message⟩ }
    agent := s.agent.error (s.forest.idOf n) className message
    metrics := s.metrics.recordFailed }

/-- A tracer was given a tag. -/
def tagged (s : Session) (n : NodeRef) (tag : IncomingTag) : Session :=
  { s with
    forest := s.forest.modify n fun m => { m with receipt := .ofDecoded tag.decode }
    agent := s.agent.setIncomingTag (s.forest.idOf n) tag }

/-- A tag was read from a tracer. -/
def tagRead (s : Session) (n : NodeRef) (form : TagForm) : Session :=
  { s with agent := (s.agent.getOutgoingTag (s.forest.idOf n) form).2 }

/-- The program let go of a tracer. -/
def released (s : Session) (n : NodeRef) : Session :=
  s.modifyNode n fun m => { m with held := false }

/-- A tracer that never ran was ended because it was let go. -/
def discarded (s : Session) (n : NodeRef) : Session :=
  { s with
    forest := s.forest.modify n (·.enter .ended s.clock)
    clock := s.clock + 1
    agent := s.agent.endTracer (s.forest.idOf n) }

/-! ## The operations -/

variable (s : Session) (t : Thread) (n : NodeRef)

theorem checked_cases {α : Type} (r : Except UsageError (α × Session)) :
    (∃ e, s.checked n r = (.error e, s.refused n e)) ∨ ∃ a s', r = .ok (a, s') ∧ s.checked n r = (.ok a, s') := by
  cases r with
  | error e => exact .inl ⟨e, rfl⟩
  | ok r => exact .inr ⟨r.1, r.2, rfl, rfl⟩

theorem start_cases : (∃ e, s.start t n = (.error e, s.refused n e)) ∨
    ((s.forest.get n).owner = t ∧ (s.forest.get n).state = .created ∧
      ((s.active? t).isSome ∨ (s.forest.get n).kind.isEntrypoint = true) ∧
      s.start t n = (.ok (), s.begun t n)) := by
  unfold start
  rcases s.checked_cases n _ with h | ⟨_, s', h, hs⟩
  · exact .inl h
  · rw [hs]
    simp only [bind_eq_ok, Node.requireThread_eq_ok, exists_const, Path.push_eq_ok] at h
    obtain ⟨ho, _, ⟨hst, hk, rfl⟩, h⟩ := h
    cases h
    exact .inr ⟨ho, hst, hk, rfl⟩

theorem endTracer_cases : (∃ e, s.endTracer t n = (.error e, s.refused n e)) ∨
    ((s.forest.get n).owner = t ∧ (s.forest.get n).state = .ended ∧ s.endTracer t n = (.ok (), s)) ∨
    ((s.forest.get n).owner = t ∧ (s.forest.get n).state = .created ∧ s.endTracer t n = (.ok (), s.finish n)) ∨
    ((s.forest.get n).owner = t ∧ (s.forest.get n).state = .started ∧ s.forest.unendedChildren n = [] ∧
      ∃ rest, (s.paths.get t).stack = n :: rest ∧
        s.endTracer t n = (.ok (), if rest = [] then (s.unwound t n []).completePath n else s.unwound t n rest)) := by
  unfold endTracer
  rcases s.checked_cases n _ with h | ⟨_, s', h, hs⟩
  · exact .inl h
  · rw [hs]
    simp only [bind_eq_ok, Node.requireThread_eq_ok, exists_const] at h
    obtain ⟨ho, h⟩ := h
    cases hst : (s.forest.get n).state with
    | ended =>
      rw [hst] at h
      cases h
      exact .inr (.inl ⟨ho, rfl, rfl⟩)
    | created =>
      rw [hst] at h
      cases h
      exact .inr (.inr (.inl ⟨ho, rfl, rfl⟩))
    | started =>
      rw [hst] at h
      by_cases hu : s.forest.unendedChildren n = []
      · simp only [hu, ne_eq, not_true_eq_false, if_false, bind_eq_ok, Path.pop_eq_ok] at h
        obtain ⟨_, ⟨rest, hr, rfl⟩, h⟩ := h
        refine .inr (.inr (.inr ⟨ho, rfl, hu, rest, hr, ?_⟩))
        cases rest <;> cases h <;> rfl
      · simp [hu, throw, throwThe, MonadExceptOf.throw, bind, Except.bind] at h

theorem requireUpdatable_eq_ok {node : Node} {field : Field} {u : Unit} :
    requireUpdatable node field = .ok u ↔
      node.state = .created ∨ (node.state = .started ∧ field.isEntry = false) := by
  unfold requireUpdatable
  cases node.state <;> cases field.isEntry <;> simp

theorem update_cases (u : Update) : (∃ e, s.update t n u = (.error e, s.refused n e)) ∨
    ((s.forest.get n).owner = t ∧ u.validate = .ok () ∧
      ((s.forest.get n).state = .created ∨ ((s.forest.get n).state = .started ∧ u.field.isEntry = false)) ∧
      ∃ details, u.apply (s.forest.get n).details = .ok details ∧
        s.update t n u = (.ok (), s.updated n u details)) := by
  unfold update
  rcases s.checked_cases n _ with h | ⟨_, s', h, hs⟩
  · exact .inl h
  · rw [hs]
    simp only [bind_eq_ok, Node.requireThread_eq_ok, exists_const, requireUpdatable_eq_ok] at h
    obtain ⟨ho, ⟨⟩, hv, hst, d, hd, h⟩ := h
    cases h
    exact .inr ⟨ho, hv, hst, d, hd, rfl⟩

theorem markFailed_cases (className message : String) :
    (∃ e, s.markFailed t n className message = (.error e, s.refused n e)) ∨
    ((s.forest.get n).owner = t ∧ Text.allBlank className = false ∧ (s.forest.get n).state = .started ∧
      (s.forest.get n).error = none ∧
      s.markFailed t n className message = (.ok (), s.failed n className message)) := by
  unfold markFailed
  rcases s.checked_cases n _ with h | ⟨_, s', h, hs⟩
  · exact .inl h
  · rw [hs]
    simp only [bind_eq_ok, Node.requireThread_eq_ok, Node.requireState_eq_ok, requireNonBlank_eq_ok,
      exists_const] at h
    obtain ⟨ho, hb, hst, h⟩ := h
    cases he : (s.forest.get n).error with
    | none =>
      rw [he] at h
      cases h
      exact .inr ⟨ho, hb, hst, rfl, rfl⟩
    | some _ =>
      rw [he] at h
      cases h

theorem outgoingTag_cases (form : TagForm) : (∃ e, s.outgoingTag t n form = (.error e, s.refused n e)) ∨
    ((s.forest.get n).owner = t ∧ (s.forest.get n).kind.handsOutTag = true ∧
      (s.forest.get n).state = .started ∧
      s.outgoingTag t n form = (.ok (s.agent.getOutgoingTag (s.forest.idOf n) form).1, s.tagRead n form)) := by
  unfold outgoingTag
  rcases s.checked_cases n _ with h | ⟨_, s', h, hs⟩
  · exact .inl h
  · rw [hs]
    simp only [bind_eq_ok, Node.requireThread_eq_ok, Node.requireState_eq_ok, Node.requireCapability_eq_ok,
      exists_const] at h
    obtain ⟨ho, hk, hst, h⟩ := h
    cases h
    exact .inr ⟨ho, hk, hst, rfl⟩

theorem setIncomingTag_cases (tag : IncomingTag) :
    (∃ e, s.setIncomingTag t n tag = (.error e, s.refused n e)) ∨
    ((s.forest.get n).owner = t ∧ (s.forest.get n).kind.acceptsTag = true ∧ (s.forest.get n).state = .created ∧
      s.setIncomingTag t n tag = (.ok (), (if tag.decode.isNone && !tag.isEmpty then
        s.log (.tagUndecodable (s.forest.label n)) else s).tagged n tag)) := by
  unfold setIncomingTag
  rcases s.checked_cases n _ with h | ⟨_, s', h, hs⟩
  · exact .inl h
  · rw [hs]
    simp only [bind_eq_ok, Node.requireThread_eq_ok, Node.requireState_eq_ok, Node.requireCapability_eq_ok,
      exists_const] at h
    obtain ⟨ho, hk, hst, h⟩ := h
    refine .inr ⟨ho, hk, hst, ?_⟩
    cases h
    unfold tagged
    split <;> rfl

theorem addAttribute_cases (key : String) (value : AttributeValue) :
    (∃ e, s.addAttribute t key value = (.error e, s)) ∨
    (Text.allBlank key = false ∧ ∃ n, s.active? t = some n ∧ s.addAttribute t key value =
      (.ok (), s.modifyNode n fun m => { m with attributes := m.attributes ++ [(key, value)] })) ∨
    (Text.allBlank key = false ∧ s.active? t = none ∧
      ∃ message, s.addAttribute t key value = (.ok (), s.warn message)) := by
  unfold addAttribute
  cases hb : requireNonBlank "key" key with
  | error e => exact .inl ⟨e, rfl⟩
  | ok _ =>
    rw [requireNonBlank_eq_ok] at hb
    cases h : s.active? t with
    | some n => exact .inr (.inl ⟨hb, n, rfl, rfl⟩)
    | none => exact .inr (.inr ⟨hb, rfl, _, rfl⟩)

/-- What a program lets go of was ended, or belongs to another thread, or never ran, or leaks. -/
theorem drop_cases : ((s.forest.get n).state = .ended ∧ s.drop t n = s.released n) ∨
    ((s.forest.get n).owner ≠ t ∧ ∃ message, s.drop t n = (s.released n).warn message) ∨
    ((s.forest.get n).owner = t ∧ (s.forest.get n).state = .created ∧ s.drop t n = (s.released n).discarded n) ∨
    ((s.forest.get n).owner = t ∧ (s.forest.get n).state = .started ∧
      (s.drop t n = { s.released n with metrics := s.metrics.recordLeaked } ∨ ∃ message,
        s.drop t n = Session.warn { s.released n with metrics := s.metrics.recordLeaked } message)) := by
  have hid : (s.released n).forest.idOf n = s.forest.idOf n :=
    Forest.get_modify_same (g := fun m => { m with held := false }) (p := Node.id) (fun _ => rfl) s.forest n n
  unfold drop
  dsimp only
  cases ht : (s.forest.get n).requireThread t with
  | error e =>
    have ho : (s.forest.get n).owner ≠ t := fun h => by
      rw [(Node.requireThread_eq_ok (u := ())).2 h] at ht
      cases ht
    cases hst : (s.forest.get n).state with
    | ended => exact .inl ⟨rfl, rfl⟩
    | created => exact .inr (.inl ⟨ho, _, rfl⟩)
    | started => exact .inr (.inl ⟨ho, _, rfl⟩)
  | ok _ =>
    have ho := Node.requireThread_eq_ok.1 ht
    cases hst : (s.forest.get n).state with
    | ended => exact .inl ⟨rfl, rfl⟩
    | created => exact .inr (.inr (.inl ⟨ho, rfl, by unfold discarded; rw [hid]; rfl⟩))
    | started =>
      refine .inr (.inr (.inr ⟨ho, rfl, ?_⟩))
      by_cases hl : s.settings.leakWarnings = true
      · exact .inr ⟨_, if_pos hl⟩
      · exact .inl (if_neg hl)

/-- A created tracer of the calling thread starts if it is an entrypoint or another one is active. -/
theorem start_of_ready {s : Session} {t : Thread} {n : NodeRef} (ho : (s.forest.get n).owner = t)
    (hst : (s.forest.get n).state = .created)
    (hk : (s.active? t).isSome ∨ (s.forest.get n).kind.isEntrypoint = true) :
    s.start t n = (.ok (), s.begun t n) := by
  have hp := (Path.push_eq_ok (p := s.paths.get t)).2 ⟨hst, hk, rfl⟩
  unfold start
  simp only [hp, (Node.requireThread_eq_ok (u := ())).2 ho]
  rfl

/-- A running tracer of the calling thread takes an error, if it has none yet. -/
theorem markFailed_of_ready {s : Session} {t : Thread} {n : NodeRef} {className : String}
    (ho : (s.forest.get n).owner = t) (hb : Text.allBlank className = false) (hst : (s.forest.get n).state = .started)
    (he : (s.forest.get n).error = none) (message : String) :
    s.markFailed t n className message = (.ok (), s.failed n className message) := by
  unfold markFailed
  simp only [(Node.requireThread_eq_ok (u := ())).2 ho, (requireNonBlank_eq_ok (u := ())).2 hb,
    (Node.requireState_eq_ok (u := ())).2 hst, he]
  rfl

/-- A tracer that never ran can be ended at any time. -/
theorem endTracer_of_created {s : Session} {t : Thread} {n : NodeRef} (ho : (s.forest.get n).owner = t)
    (hst : (s.forest.get n).state = .created) : s.endTracer t n = (.ok (), s.finish n) := by
  unfold endTracer
  simp only [(Node.requireThread_eq_ok (u := ())).2 ho, hst]
  rfl

theorem drop_of_ended {s : Session} {n : NodeRef} (hst : (s.forest.get n).state = .ended) (t : Thread) :
    s.drop t n = s.released n := by
  unfold drop
  simp only [hst]
  rfl

end Session

end CallPath
