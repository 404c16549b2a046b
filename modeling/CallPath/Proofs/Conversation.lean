import CallPath.Agent
/-!
# Conversations about a tracer

The calls that an agent receives about one tracer are a `Conversation`: its creation, its set-up,
maybe a start and the work that follows, and one end. `Heard` tells what an agent has heard in
between, which is always the beginning of a conversation (`Heard.isPrefix`).
-/

namespace CallPath

/-- The fields that tracers of a kind have. -/
def Kind.fields : Kind → List Field
  | incomingRemoteCall | outgoingRemoteCall => [.protocolName]
  | databaseRequest => [.returnedRowCount, .roundTripCount]
  | incomingWebRequest => [.requestHeader, .responseHeader, .parameter, .remoteAddress, .statusCode]
  | outgoingWebRequest => [.requestHeader, .responseHeader, .statusCode]
  | outgoingMessage | incomingMessageProcess => [.vendorMessageId, .correlationId]
  | incomingMessageReceive | customService | inProcessLink => []

/-- An update applies to the kinds that have its field. -/
theorem Update.applied?_isSome_iff (u : Update) (d : Details) :
    (u.applied? d).isSome ↔ u.field ∈ d.kind.fields := by
  cases u <;> cases d <;> simp [applied?, field, Details.kind, Kind.fields]

theorem Update.field_mem_of_apply {u : Update} {d d' : Details} (h : u.apply d = .ok d') :
    u.field ∈ d.kind.fields := by
  rw [← applied?_isSome_iff]
  unfold apply at h
  split at h
  · simp_all
  · cases h

namespace AgentCall

/-- A call between the creation and the start. -/
def IsSetUp (k : Kind) : AgentCall → Prop
  | update _ u => u.field ∈ k.fields
  | setIncomingTag _ _ => k.acceptsTag = true
  | _ => False

/-- A call between the start and the end. -/
def IsWork (k : Kind) : AgentCall → Prop
  | update _ u => u.field ∈ k.fields ∧ u.field.isEntry = false
  | getOutgoingTag _ _ => k.handsOutTag = true
  | error _ _ _ => True
  | _ => False

/-- Whether an error is attached. -/
def isError : AgentCall → Bool
  | error _ _ _ => true
  | _ => false

end AgentCall

/-- All the calls there are about one tracer. -/
inductive Conversation (id : TracerId) (k : Kind) : List AgentCall → Prop
  | unstarted {d : Details} {setUp : List AgentCall} (hd : d.kind = k) (hs : ∀ c ∈ setUp, c.IsSetUp k) :
      Conversation id k (.create id d :: (setUp ++ [.ended id]))
  | started {d : Details} {setUp work : List AgentCall} (hd : d.kind = k) (hs : ∀ c ∈ setUp, c.IsSetUp k)
      (hw : ∀ c ∈ work, c.IsWork k) (he : work.countP AgentCall.isError ≤ 1) :
      Conversation id k (.create id d :: (setUp ++ .start id :: (work ++ [.ended id])))

/-- What matters of a tracer to its agent. -/
structure Life where
  id : TracerId
  kind : Kind
  state : TracerState
  failed : Bool

/-- What an agent has heard of a tracer. -/
inductive Heard : Life → List AgentCall → Prop
  | created (id : TracerId) (d : Details) : Heard ⟨id, d.kind, .created, false⟩ [.create id d]
  | setUp {l : Life} {calls : List AgentCall} {c : AgentCall} (h : Heard l calls) (hst : l.state = .created)
      (hc : c.IsSetUp l.kind) : Heard l (calls ++ [c])
  | started {l : Life} {calls : List AgentCall} (h : Heard l calls) (hst : l.state = .created) :
      Heard { l with state := .started } (calls ++ [.start l.id])
  | worked {l : Life} {calls : List AgentCall} {c : AgentCall} (h : Heard l calls) (hst : l.state = .started)
      (hc : c.IsWork l.kind) (he : c.isError = false) : Heard l (calls ++ [c])
  | failed {l : Life} {calls : List AgentCall} (className message : String) (h : Heard l calls)
      (hst : l.state = .started) (hf : l.failed = false) :
      Heard { l with failed := true } (calls ++ [.error l.id className message])
  | ended {l : Life} {calls : List AgentCall} (h : Heard l calls) (hst : l.state ≠ .ended) :
      Heard { l with state := .ended } (calls ++ [.ended l.id])

/-- The calls that were heard in a state. -/
def Life.Shape (l : Life) (calls : List AgentCall) : Prop :=
  match l.state with
  | .created => l.failed = false ∧ ∃ d setUp, d.kind = l.kind ∧ (∀ c ∈ setUp, c.IsSetUp l.kind) ∧
      calls = .create l.id d :: setUp
  | .started => ∃ d setUp work, d.kind = l.kind ∧ (∀ c ∈ setUp, c.IsSetUp l.kind) ∧ (∀ c ∈ work, c.IsWork l.kind) ∧
      work.countP AgentCall.isError = (if l.failed then 1 else 0) ∧
      calls = .create l.id d :: (setUp ++ .start l.id :: work)
  | .ended => Conversation l.id l.kind calls

theorem Heard.shape {l : Life} {calls : List AgentCall} (h : Heard l calls) : l.Shape calls := by
  induction h with
  | created id d => exact ⟨rfl, d, [], rfl, by simp, rfl⟩
  | @setUp l calls c _ hst hc ih =>
    obtain ⟨id, k, state, failed⟩ := l
    cases hst
    obtain ⟨hf, d, setUp, hd, hs, rfl⟩ := ih
    refine ⟨hf, d, setUp ++ [c], hd, fun c' hmem => ?_, rfl⟩
    rcases List.mem_append.1 hmem with hmem | hmem
    · exact hs c' hmem
    · rw [List.mem_singleton.1 hmem]
      exact hc
  | @started l calls _ hst ih =>
    obtain ⟨id, k, state, failed⟩ := l
    cases hst
    obtain ⟨rfl, d, setUp, hd, hs, rfl⟩ := ih
    exact ⟨d, setUp, [], hd, hs, by simp, rfl, by simp⟩
  | @worked l calls c _ hst hc he ih =>
    obtain ⟨id, k, state, failed⟩ := l
    cases hst
    obtain ⟨d, setUp, work, hd, hs, hw, hn, rfl⟩ := ih
    refine ⟨d, setUp, work ++ [c], hd, hs, fun c' hmem => ?_, by simpa [he] using hn, by simp⟩
    rcases List.mem_append.1 hmem with hmem | hmem
    · exact hw c' hmem
    · rw [List.mem_singleton.1 hmem]
      exact hc
  | @failed l calls className message _ hst hf ih =>
    obtain ⟨id, k, state, failed⟩ := l
    cases hst
    cases hf
    obtain ⟨d, setUp, work, hd, hs, hw, hn, rfl⟩ := ih
    -- There was no error so far, so this is the only one.
    refine ⟨d, setUp, work ++ [.error id className message], hd, hs, fun c' hmem => ?_, ?_, by simp⟩
    · rcases List.mem_append.1 hmem with hmem | hmem
      · exact hw c' hmem
      · rw [List.mem_singleton.1 hmem]
        trivial
    · simpa [AgentCall.isError] using hn
  | @ended l calls _ hst ih =>
    obtain ⟨id, k, state, failed⟩ := l
    cases state with
    | ended => exact absurd rfl hst
    | created =>
      obtain ⟨-, d, setUp, hd, hs, rfl⟩ := ih
      exact .unstarted hd hs
    | started =>
      obtain ⟨d, setUp, work, hd, hs, hw, hn, rfl⟩ := ih
      have he : work.countP AgentCall.isError ≤ 1 := by
        rw [hn]
        cases failed <;> simp
      have hwhole : Conversation id k _ := .started hd hs hw he
      simpa [Life.Shape] using hwhole

/-- It is the beginning of a conversation. -/
theorem Heard.isPrefix {l : Life} {calls : List AgentCall} (h : Heard l calls) :
    ∃ whole, Conversation l.id l.kind whole ∧ calls <+: whole := by
  by_cases hst : l.state = .ended
  · have hshape := h.shape
    unfold Life.Shape at hshape
    rw [hst] at hshape
    exact ⟨calls, hshape, List.prefix_refl calls⟩
  · exact ⟨_, (h.ended hst).shape, List.prefix_append calls _⟩

end CallPath
