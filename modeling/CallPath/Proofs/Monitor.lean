import CallPath.Proofs.Conversation
import Mathlib.Logic.Function.Basic
/-!
# Verdicts of the recorder

A recorder is a monitor of the calls that it hears. It judges a call by the recorded state of its tracer, which
comes from the earlier calls about the same tracer. So it judges the calls about each tracer for themselves, and it
does not matter whether it listens to one session or to several. It keeps one violation of every call that breaks
the protocol (`AgentCall.Breaks`) and none of any other: it is silent if and only if the calls about each tracer
keep to the protocol (`Recorder.silent_iff`), as conversations do (`Recorder.hearAll_of_heard`).

What is recorded of tracers stays as it is when a call breaks the protocol, unless the call is a creation: a tracer
that is created again starts anew, and is live even if it had ended (`Recorder.monitors`).
-/

namespace CallPath

/-! ## Calls and the states of their tracers -/

namespace AgentCall

/-- The states of a known tracer in which a call is allowed. -/
def allowed : AgentCall → List TracerState
  | create _ _ => []
  | update _ u => Recorder.updatableIn u.field
  | start _ | setIncomingTag _ _ => [.created]
  | ended _ => [.created, .started]
  | error _ _ _ | getOutgoingTag _ _ => [.started]

/-- The state that a call moves a known tracer to. -/
def next? : AgentCall → Option TracerState
  | start _ => some .started
  | ended _ => some .ended
  | _ => none

/-- The state of a tracer after a call, if the call is allowed. -/
def moves (c : AgentCall) : Option TracerState → Option TracerState
  | some st => if st ∈ c.allowed then some (c.next?.getD st) else none
  | none =>
    match c with
    | create _ _ => some .created
    | _ => none

/-- The call is against the protocol if its tracer is in the state. An unknown tracer is in none. -/
def Breaks : AgentCall → Option TracerState → Prop
  | create _ _, st => st ≠ none
  | _, none => True
  | start _, some st | setIncomingTag _ _, some st => st ≠ .created
  | update _ u, some st => if u.field.isEntry then st ≠ .created else st = .ended
  | ended _, some st => st = .ended
  | error _ _ _, some st | getOutgoingTag _ _, some st => st ≠ .started

/-- What a violation calls it. -/
def name : AgentCall → String
  | create _ _ => "create"
  | update _ u => u.field.name
  | start _ => "start"
  | ended _ => "end"
  | error _ _ _ => "error"
  | getOutgoingTag _ _ => "outgoing tag"
  | setIncomingTag _ _ => "incoming tag"

/-- What there is to say of the call if it breaks the protocol. -/
def complaint (c : AgentCall) : Option TracerState → Violation
  | none => .unknownTracer c.name c.id
  | some st =>
    match c with
    | create id _ => .createdTwice id
    | _ => .wrongState c.name c.id st

/-- Whether a tracer is created. -/
def isCreation : AgentCall → Bool
  | create _ _ => true
  | _ => false

variable {c : AgentCall} {st : Option TracerState}

theorem breaks_iff_of_known (hc : c.isCreation = false) (st : TracerState) :
    c.Breaks (some st) ↔ st ∉ c.allowed := by
  cases c with
  | create id d => cases hc
  | update id u => cases hu : u.field.isEntry <;> cases st <;> simp [Breaks, allowed, Recorder.updatableIn, hu]
  | _ => cases st <;> simp [Breaks, allowed]

theorem breaks_of_unknown (hc : c.isCreation = false) : c.Breaks none := by
  cases c with
  | create id d => cases hc
  | _ => trivial

/-- A call breaks the protocol if and only if it moves its tracer nowhere. -/
theorem moves_eq_none_iff (c : AgentCall) (st : Option TracerState) : c.moves st = none ↔ c.Breaks st := by
  cases hc : c.isCreation with
  | true =>
    cases c with
    | create id d => cases st <;> simp [moves, allowed, Breaks]
    | _ => cases hc
  | false =>
    cases st with
    | some st => simp [moves, breaks_iff_of_known hc]
    | none =>
      have hmoves : c.moves none = none := by
        cases c with
        | create id d => cases hc
        | _ => rfl
      simp [hmoves, breaks_of_unknown hc]

instance (c : AgentCall) (st : Option TracerState) : Decidable (c.Breaks st) :=
  decidable_of_iff (c.moves st = none) (c.moves_eq_none_iff st)

/-- What a recorder says of the call. -/
def verdict (c : AgentCall) (st : Option TracerState) : List Violation :=
  if c.Breaks st then [c.complaint st] else []

/-- The state that a recorder then enters for its tracer, if any. A creation is entered in any case. -/
def entered? (c : AgentCall) (st : Option TracerState) : Option TracerState :=
  if c.isCreation then some .created else if c.Breaks st then none else c.next?

/-- The recorded state of its tracer after the call. -/
def leaves (c : AgentCall) (st : Option TracerState) : Option TracerState :=
  (c.entered? st).or st

theorem verdict_eq_nil_iff : c.verdict st = [] ↔ ¬ c.Breaks st := by
  unfold verdict
  split <;> simp_all

/-- What is recorded after a call that keeps to the protocol is what the protocol says. -/
theorem moves_eq_leaves (h : ¬ c.Breaks st) : c.moves st = c.leaves st := by
  cases hc : c.isCreation with
  | true =>
    cases c with
    | create id d =>
      obtain rfl : st = none := not_not.1 h
      rfl
    | _ => cases hc
  | false =>
    cases st with
    | none => exact absurd (breaks_of_unknown hc) h
    | some st =>
      have hallowed : st ∈ c.allowed := not_not.1 (mt (breaks_iff_of_known hc st).2 h)
      simp only [moves, hallowed, if_true, leaves, entered?, hc, Bool.false_eq_true, if_false, h]
      cases c.next? <;> rfl

end AgentCall

/-- The state of a tracer after some calls about it, if they are allowed. -/
def statesAfter : List AgentCall → Option TracerState → Option (Option TracerState)
  | [], st => some st
  | c :: calls, st => (c.moves st).bind fun st' => statesAfter calls (some st')

theorem statesAfter_snoc {calls : List AgentCall} {c : AgentCall} {st st' : Option TracerState} {next : TracerState}
    (h : statesAfter calls st = some st') (hc : c.moves st' = some next) :
    statesAfter (calls ++ [c]) st = some (some next) := by
  induction calls generalizing st with
  | nil =>
    cases h
    simp [statesAfter, hc]
  | cons d calls ih =>
    obtain ⟨st₁, hd, h⟩ := Option.bind_eq_some_iff.1 h
    simp only [List.cons_append, statesAfter, hd, Option.bind_some]
    exact ih h

theorem statesAfter_cons_isSome_iff {calls : List AgentCall} {c : AgentCall} {st : Option TracerState} :
    (statesAfter (c :: calls) st).isSome ↔ ¬ c.Breaks st ∧ (statesAfter calls (c.leaves st)).isSome := by
  by_cases hb : c.Breaks st
  · simp [statesAfter, (c.moves_eq_none_iff st).2 hb, hb]
  · obtain ⟨st', hst'⟩ := Option.ne_none_iff_exists'.1 (mt (c.moves_eq_none_iff st).1 hb)
    rw [statesAfter, ← AgentCall.moves_eq_leaves hb, hst']
    simp [hb]

theorem statesAfter_eq_foldl {calls : List AgentCall} {st : Option TracerState} (h : (statesAfter calls st).isSome) :
    statesAfter calls st = some (calls.foldl (fun st c => c.leaves st) st) := by
  induction calls generalizing st with
  | nil => rfl
  | cons c calls ih =>
    obtain ⟨hb, hrest⟩ := statesAfter_cons_isSome_iff.1 h
    obtain ⟨st', hst'⟩ := Option.ne_none_iff_exists'.1 (mt (c.moves_eq_none_iff st).1 hb)
    rw [← AgentCall.moves_eq_leaves hb, hst'] at hrest
    rw [statesAfter, hst', Option.bind_some, ih hrest, ← hst', AgentCall.moves_eq_leaves hb]
    rfl

/-- A recorder allows what it hears of a tracer, and knows its state. -/
theorem Heard.statesAfter_eq {l : Life} {calls : List AgentCall} (h : Heard l calls) :
    statesAfter calls none = some (some l.state) := by
  induction h with
  | created id k => rfl
  | @setUp l calls c _ hst hc ih =>
    refine statesAfter_snoc ih ?_
    rw [hst]
    cases c with
    | update id u => cases hu : u.field.isEntry <;> simp [AgentCall.moves, AgentCall.allowed, AgentCall.next?,
        Recorder.updatableIn, hu]
    | setIncomingTag id tag => rfl
    | create | start | ended | error | getOutgoingTag => cases hc
  | started _ hst ih =>
    refine statesAfter_snoc ih ?_
    rw [hst]
    rfl
  | @worked l calls c _ hst hc he ih =>
    refine statesAfter_snoc ih ?_
    rw [hst]
    cases c with
    | update id u => simp [AgentCall.moves, AgentCall.allowed, AgentCall.next?, Recorder.updatableIn, hc.2]
    | getOutgoingTag id form => rfl
    | error id className message => cases he
    | create | start | ended | setIncomingTag => cases hc
  | failed className message _ hst _ ih =>
    refine statesAfter_snoc ih ?_
    rw [hst]
    rfl
  | @ended l calls _ hst ih =>
    refine statesAfter_snoc ih ?_
    cases hl : l.state with
    | ended => exact absurd hl hst
    | created => rfl
    | started => rfl

/-! ## One call -/

/-- The old value that counted counts no longer, and the new value does. -/
theorem Table.countP_insertIn {κ ν : Type} [DecidableEq κ] (p : ν → Bool) (k : κ) (v : ν) (bs : List (κ × ν)) :
    ((insertIn k v bs).map Prod.snd).countP p + (findIn k bs).toList.countP p =
      (bs.map Prod.snd).countP p + [v].countP p := by
  induction bs with
  | nil => simp [insertIn, findIn]
  | cons b bs ih =>
    by_cases hb : k = b.1
    · simp only [insertIn, findIn, hb, if_true, List.map_cons, Option.toList_some, List.countP_cons, List.countP_nil]
      omega
    · simp only [insertIn, findIn, hb, if_false, List.map_cons, List.countP_cons (a := b.2)]
      omega

/-- What a tracer in the state adds to the live ones. -/
def liveIn (st : Option TracerState) : Nat :=
  st.toList.countP (· ≠ .ended)

namespace Recorder

/-- The recorder after a call. -/
def hear (r : Recorder) : AgentCall → Recorder
  | .create id d => r.create id d
  | .update id u => r.update id u
  | .start id => r.start id
  | .ended id => r.endTracer id
  | .error id className message => r.error id className message
  | .getOutgoingTag id form => (r.getOutgoingTag id form).2
  | .setIncomingTag id tag => r.setIncomingTag id tag

variable (r : Recorder) (c : AgentCall)

/-- Every call but a creation follows a tracer that is known. -/
theorem hear_eq_follow (hc : c.isCreation = false) :
    r.hear c = (r.log c).follow c.name c.id c.allowed c.next? := by
  cases c with
  | create id d => cases hc
  | _ => rfl

theorem violation?_eq (hc : c.isCreation = false) : r.violation? c.name c.id c.allowed =
    if c.Breaks (r.tracerState c.id) then some (c.complaint (r.tracerState c.id)) else none := by
  unfold violation?
  cases r.tracerState c.id with
  | none => simp [AgentCall.breaks_of_unknown hc, AgentCall.complaint]
  | some st =>
    have hcomplaint : c.complaint (some st) = .wrongState c.name c.id st := by
      cases c with
      | create id d => cases hc
      | _ => rfl
    simp only [AgentCall.breaks_iff_of_known hc, hcomplaint, ite_not]

/-- All that a call does to a recorder. -/
theorem hear_eq : r.hear c =
    { r with
      calls := r.calls ++ [c]
      tracers := ((c.entered? (r.tracerState c.id)).map (r.tracers.insert c.id)).getD r.tracers
      violations := r.violations ++ c.verdict (r.tracerState c.id) } := by
  -- A creation is entered first and judged afterwards, any other call the other way round.
  cases hc : c.isCreation with
  | true =>
    cases c with
    | create id d =>
      have hstate : r.tracerState id = r.tracers.get? id := rfl
      cases hst : r.tracers.get? id <;>
        simp [hear, create, hst, hstate, log, complain, AgentCall.id, AgentCall.entered?, AgentCall.isCreation,
          AgentCall.verdict, AgentCall.Breaks, AgentCall.complaint]
    | _ => cases hc
  | false =>
    have hstate : (r.log c).tracerState c.id = r.tracerState c.id := rfl
    rw [hear_eq_follow r c hc]
    unfold follow
    rw [violation?_eq _ c hc, hstate]
    by_cases hb : c.Breaks (r.tracerState c.id)
    · simp [hb, AgentCall.verdict, AgentCall.entered?, hc, log, complain]
    · cases hnext : c.next? <;> simp [hb, AgentCall.verdict, AgentCall.entered?, hc, hnext, log]

@[simp] theorem calls_hear : (r.hear c).calls = r.calls ++ [c] := by
  rw [hear_eq]

theorem violations_hear : (r.hear c).violations = r.violations ++ c.verdict (r.tracerState c.id) := by
  rw [hear_eq]

theorem tracers_hear : (r.hear c).tracers =
    ((c.entered? (r.tracerState c.id)).map (r.tracers.insert c.id)).getD r.tracers := by
  rw [hear_eq]

/-- A call is about one tracer. -/
theorem tracerState_hear : (r.hear c).tracerState =
    Function.update r.tracerState c.id (c.leaves (r.tracerState c.id)) := by
  funext id
  rw [tracerState, tracers_hear, AgentCall.leaves]
  by_cases hid : id = c.id
  · subst hid
    rw [Function.update_self]
    cases c.entered? (r.tracerState c.id) with
    | none => rfl
    | some st => simp
  · rw [Function.update_of_ne hid]
    cases c.entered? (r.tracerState c.id) with
    | none => rfl
    | some st => simp [hid, tracerState]

/-- The live tracers become more or fewer as the tracer of the call does. -/
theorem liveTracers_hear : (r.hear c).liveTracers + liveIn (r.tracerState c.id) =
    r.liveTracers + liveIn (c.leaves (r.tracerState c.id)) := by
  unfold liveTracers AgentCall.leaves
  rw [tracers_hear, ← List.countP_eq_length_filter, ← List.countP_eq_length_filter]
  cases c.entered? (r.tracerState c.id) with
  | none => rfl
  | some st => exact Table.countP_insertIn _ c.id st r.tracers.bindings

/-- A tag is handed out if and only if it may be. -/
theorem getOutgoingTag_fst (id : TracerId) (form : TagForm) : (r.getOutgoingTag id form).1 =
    if (AgentCall.getOutgoingTag id form).Breaks (r.tracerState id) then [] else Tag.encode id form := by
  have hviolation : r.violation? "outgoing tag" id [.started] = _ := r.violation?_eq (.getOutgoingTag id form) rfl
  unfold getOutgoingTag
  dsimp only
  rw [hviolation, AgentCall.id]
  split <;> rfl

/-- What a recorder makes of a call. -/
structure Judges : Prop where
  /-- It keeps one violation if the call breaks the protocol, and none otherwise. -/
  verdict : (r.hear c).violations = r.violations ++
    if c.Breaks (r.tracerState c.id) then [c.complaint (r.tracerState c.id)] else []
  /-- A call that breaks the protocol changes nothing about any tracer, unless it is a creation. -/
  unchanged : c.Breaks (r.tracerState c.id) → c.isCreation = false →
    (∀ id, (r.hear c).tracerState id = r.tracerState id) ∧ (r.hear c).liveTracers = r.liveTracers
  /-- A tracer that is created again is the only one that changes. If it had ended, it is live again. -/
  recreated : ∀ id d st, c = .create id d → r.tracerState id = some st →
    (r.hear c).tracerState = Function.update r.tracerState id (some .created) ∧
      (r.hear c).liveTracers = r.liveTracers + if st = .ended then 1 else 0
  /-- Any other call moves its own tracer as the protocol says. -/
  moved : ¬ c.Breaks (r.tracerState c.id) →
    (r.hear c).tracerState = Function.update r.tracerState c.id (c.moves (r.tracerState c.id))
  /-- A tag is handed out if and only if it may be. -/
  tag : ∀ id form, c = .getOutgoingTag id form →
    (r.getOutgoingTag id form).1 = if c.Breaks (r.tracerState id) then [] else Tag.encode id form

theorem judges : r.Judges c where
  verdict := r.violations_hear c
  unchanged hb hc := by
    have hentered : c.entered? (r.tracerState c.id) = none := by simp [AgentCall.entered?, hc, hb]
    have htracers : (r.hear c).tracers = r.tracers := by
      rw [tracers_hear, hentered]
      rfl
    unfold tracerState liveTracers
    rw [htracers]
    exact ⟨fun _ => rfl, rfl⟩
  recreated := by
    rintro id d st rfl hst
    have hlive := r.liveTracers_hear (.create id d)
    rw [AgentCall.id, hst] at hlive
    refine ⟨r.tracerState_hear (.create id d), ?_⟩
    cases st <;> simpa [liveIn, AgentCall.leaves, AgentCall.entered?, AgentCall.isCreation] using hlive
  moved hb := by rw [tracerState_hear, AgentCall.moves_eq_leaves hb]
  tag := by
    rintro id form rfl
    exact r.getOutgoingTag_fst id form

/-! ## Many calls -/

/-- The recorder after some calls. -/
def hearAll (r : Recorder) (calls : List AgentCall) : Recorder :=
  calls.foldl hear r

/-- What is said of calls one after the other, by the states that they leave their tracers in. -/
def verdicts (states : TracerId → Option TracerState) : List AgentCall → List Violation
  | [] => []
  | c :: calls => c.verdict (states c.id) ++
      verdicts (Function.update states c.id (c.leaves (states c.id))) calls

theorem violations_hearAll (calls : List AgentCall) :
    (r.hearAll calls).violations = r.violations ++ verdicts r.tracerState calls := by
  induction calls generalizing r with
  | nil => exact (List.append_nil _).symm
  | cons c calls ih =>
    refine (ih (r.hear c)).trans ?_
    rw [violations_hear, tracerState_hear, List.append_assoc]
    rfl

/-- The recorded state of a tracer comes from the calls about it. -/
theorem tracerState_hearAll (calls : List AgentCall) (id : TracerId) : (r.hearAll calls).tracerState id =
    (calls.filter (·.id = id)).foldl (fun st c => c.leaves st) (r.tracerState id) := by
  induction calls generalizing r with
  | nil => rfl
  | cons c calls ih =>
    refine (ih (r.hear c)).trans ?_
    rw [tracerState_hear]
    by_cases hid : c.id = id
    · subst hid
      rw [List.filter_cons_of_pos (by simp), List.foldl_cons, Function.update_self]
    · rw [List.filter_cons_of_neg (by simpa using hid), Function.update_of_ne (Ne.symm hid)]

/-- There is nothing to say if and only if the calls about each tracer keep to the protocol. -/
theorem verdicts_eq_nil_iff (states : TracerId → Option TracerState) (calls : List AgentCall) :
    verdicts states calls = [] ↔ ∀ id, (statesAfter (calls.filter (·.id = id)) (states id)).isSome := by
  -- The first call matters for its own tracer only.
  induction calls generalizing states with
  | nil => simp [verdicts, statesAfter]
  | cons c calls ih =>
    rw [verdicts, List.append_eq_nil_iff, AgentCall.verdict_eq_nil_iff, ih]
    have hrest : ∀ id, (statesAfter ((c :: calls).filter (·.id = id)) (states id)).isSome ↔
        (id = c.id → ¬ c.Breaks (states c.id)) ∧ (statesAfter (calls.filter (·.id = id))
          (Function.update states c.id (c.leaves (states c.id)) id)).isSome := by
      intro id
      by_cases hid : id = c.id
      · subst hid
        rw [List.filter_cons_of_pos (by simp), statesAfter_cons_isSome_iff, Function.update_self]
        simp
      · rw [List.filter_cons_of_neg (by simpa using Ne.symm hid), Function.update_of_ne hid]
        simp [hid]
    simp only [hrest, forall_and, forall_eq]

/-- It is silent if and only if the calls about each tracer keep to the protocol. -/
theorem silent_iff (calls : List AgentCall) : (r.hearAll calls).violations = r.violations ↔
    ∀ id, (statesAfter (calls.filter (·.id = id)) (r.tracerState id)).isSome := by
  rw [violations_hearAll, List.append_right_eq_self, verdicts_eq_nil_iff]

/-- A recorder judges the calls about each tracer for themselves. -/
theorem hearAll_of_statesAfter {r : Recorder} {calls : List AgentCall}
    (h : ∀ id, (statesAfter (calls.filter (·.id = id)) (r.tracerState id)).isSome) :
    (r.hearAll calls).violations = r.violations ∧ ∀ id,
      some ((r.hearAll calls).tracerState id) = statesAfter (calls.filter (·.id = id)) (r.tracerState id) := by
  refine ⟨(r.silent_iff calls).2 h, fun id => ?_⟩
  rw [tracerState_hearAll, statesAfter_eq_foldl (h id)]

/-- The beginning of a conversation is allowed to somebody who never heard of the tracer. -/
theorem statesAfter_isSome {calls : List AgentCall} {id : TracerId}
    (h : calls.filter (·.id = id) = [] ∨ ∃ l, Heard l (calls.filter (·.id = id))) :
    (statesAfter (calls.filter (·.id = id)) (({} : Recorder).tracerState id)).isSome := by
  have hstart : ({} : Recorder).tracerState id = none := rfl
  rw [hstart]
  rcases h with e | ⟨l, hl⟩
  · rw [e]
    rfl
  · rw [hl.statesAfter_eq]
    rfl

/-- A recorder that heard beginnings of conversations finds no violation and knows every state. -/
theorem hearAll_of_heard {calls : List AgentCall}
    (h : ∀ id, calls.filter (·.id = id) = [] ∨ ∃ l, Heard l (calls.filter (·.id = id))) :
    (({} : Recorder).hearAll calls).violations = [] ∧
      ∀ id l, Heard l (calls.filter (·.id = id)) → (({} : Recorder).hearAll calls).tracerState id = some l.state := by
  obtain ⟨hv, ht⟩ := hearAll_of_statesAfter fun id => statesAfter_isSome (h id)
  refine ⟨hv, fun id l hl => ?_⟩
  have hst := ht id
  have hstart : ({} : Recorder).tracerState id = none := rfl
  rw [hstart, hl.statesAfter_eq] at hst
  exact Option.some.inj hst

/-- What a recorder makes of calls. -/
structure Monitors (calls : List AgentCall) : Prop where
  /-- Each call is judged with what is recorded by then. -/
  each : ∀ pre c post, calls = pre ++ c :: post → (r.hearAll pre).Judges c
  /-- What is recorded of a tracer comes from the calls about it. -/
  state : ∀ id, (r.hearAll calls).tracerState id =
    (calls.filter (·.id = id)).foldl (fun st c => c.leaves st) (r.tracerState id)
  /-- The violations are the verdicts on the calls, in their order. -/
  violations : (r.hearAll calls).violations = r.violations ++ verdicts r.tracerState calls
  /-- There are none if and only if the calls about each tracer keep to the protocol. -/
  silent : (r.hearAll calls).violations = r.violations ↔
    ∀ id, (statesAfter (calls.filter (·.id = id)) (r.tracerState id)).isSome

/-- A recorder judges every call as the protocol says. -/
theorem monitors (calls : List AgentCall) : r.Monitors calls where
  each pre c _ _ := (r.hearAll pre).judges c
  state := r.tracerState_hearAll calls
  violations := r.violations_hearAll calls
  silent := r.silent_iff calls

/-- A tracer that had ended is live after a violation, and may be started without another. -/
theorem recreated_afterEnd :
    let id := TracerId.ofNat 1
    let details := Details.customService ⟨"method", "service"⟩
    let r := ({} : Recorder).hearAll [.create id details, .ended id]
    let r' := r.hear (.create id details)
    r.tracerState id = some .ended ∧ r.liveTracers = 0 ∧ r.violations = [] ∧
      r'.violations = [.createdTwice id] ∧ r'.tracerState id = some .created ∧ r'.liveTracers = 1 ∧
      (r'.hear (.start id)).violations = r'.violations := by
  decide +kernel

end Recorder

end CallPath
