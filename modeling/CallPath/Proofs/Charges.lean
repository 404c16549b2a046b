import CallPath.Proofs.Bystanders
import CallPath.Proofs.Census
import CallPath.Proofs.Refusals
/-!
# What commands are charged

A refused call and a leak leave nothing at the nodes, and a tracer that ended because the program let it
go looks like any other that has ended. For these a command gets a `Bill`, and `Session.Charged` says by
how much the counters then move against the nodes. Every other effect of a command is free of charge.

Most commands are made of calls on tracers, which `Step.calls` lists. The refusals on the bill of a
command are those of its calls, and the rest depends on what it lets go (`Step.charged`).
-/

namespace CallPath

/-! ## Bills -/

/-- What is charged to a command. -/
structure Bill where
  /-- Calls on tracers that were refused. -/
  refusals : Nat := 0
  /-- Running tracers that were let go on their own thread. -/
  leaks : Nat := 0
  /-- Tracers that never ran and ended because they were let go. -/
  discards : Nat := 0
  /-- All tracers that were let go. -/
  released : List NodeRef := []

namespace Bill

/-- Two bills in one. -/
def add (b b' : Bill) : Bill where
  refusals := b.refusals + b'.refusals
  leaks := b.leaks + b'.leaks
  discards := b.discards + b'.discards
  released := b.released ++ b'.released

@[simp] theorem nil_add (b : Bill) : ({} : Bill).add b = b := by
  simp [add]

@[simp] theorem add_nil (b : Bill) : b.add {} = b := by
  simp [add]

/-- The bill for calls on tracers. -/
def ofCalls (calls : List Step) : Bill :=
  { refusals := (calls.filterMap (·.reply.error?)).length }

@[simp] theorem ofCalls_nil : ofCalls [] = {} := rfl

theorem ofCalls_append (calls calls' : List Step) :
    ofCalls (calls ++ calls') = (ofCalls calls).add (ofCalls calls') := by
  simp [ofCalls, add]

theorem ofCalls_cons (x : Step) (calls : List Step) : ofCalls (x :: calls) = (ofCalls [x]).add (ofCalls calls) :=
  ofCalls_append [x] calls

end Bill

/-- What the bills see of a node. -/
def Node.charge (m : Node) : Bool × Bool :=
  (decide (m.state = .ended), m.held)

/-- The counters that the bills see. -/
def Metrics.charge (m : Metrics) : Nat × Nat × Nat :=
  (m.usageErrors, m.leaked, m.ended)

namespace Session

variable {s s' s'' : Session} {t : Thread} {n : NodeRef} {b b' : Bill}

/-- How the counters and the nodes moved, up to what is charged. -/
structure Charged (b : Bill) (s s' : Session) : Prop where
  size : s.forest.size ≤ s'.forest.size
  usageErrors : s'.metrics.usageErrors = s.metrics.usageErrors + b.refusals
  leaked : s'.metrics.leaked = s.metrics.leaked + b.leaks
  ended : s'.forest.count (·.state = .ended) + s.metrics.ended =
    s.forest.count (·.state = .ended) + s'.metrics.ended + b.discards
  held : ∀ m < s.forest.size, (s'.forest.get m).held = true ↔ (s.forest.get m).held = true ∧ m ∉ b.released

namespace Charged

theorem trans (h : Charged b s s') (h' : Charged b' s' s'') : Charged (b.add b') s s'' where
  size := Nat.le_trans h.size h'.size
  usageErrors := by
    rw [h'.usageErrors, h.usageErrors]
    exact Nat.add_assoc ..
  leaked := by
    rw [h'.leaked, h.leaked]
    exact Nat.add_assoc ..
  ended := by
    have he := h.ended
    have he' := h'.ended
    simp only [Bill.add]
    omega
  held m hm := by
    rw [h'.held m (Nat.lt_of_lt_of_le hm h.size), h.held m hm]
    simp [Bill.add, and_assoc]

/-- Nothing is charged before. -/
theorem free_trans (h : Charged {} s s') (h' : Charged b s' s'') : Charged b s s'' := by
  simpa using h.trans h'

/-- Nothing is charged after. -/
theorem trans_free (h : Charged b s s') (h' : Charged {} s' s'') : Charged b s s'' := by
  simpa using h.trans h'

/-- Neither the nodes nor the counters show anything that could be charged. -/
theorem free (hs : s'.forest.size = s.forest.size) (hn : ∀ m, (s'.forest.get m).charge = (s.forest.get m).charge)
    (hm : s'.metrics.charge = s.metrics.charge) : Charged {} s s' := by
  simp only [Node.charge, Metrics.charge, Prod.mk.injEq] at hn hm
  obtain ⟨herrors, hleaked, hended⟩ := hm
  refine ⟨Nat.le_of_eq hs.symm, herrors, hleaked, ?_, fun m _ => ?_⟩
  · rw [Forest.count_congr (p := (·.state = .ended)) hs fun m => (hn m).1, hended]
    rfl
  · simp [(hn m).2]

theorem of_forest (hf : s'.forest = s.forest) (hm : s'.metrics.charge = s.metrics.charge) : Charged {} s s' := by
  refine free ?_ (fun m => ?_) hm <;> rw [hf]

theorem of_modify {g : Node → Node} (hg : ∀ m, (g m).charge = m.charge) (hf : s'.forest = s.forest.modify n g)
    (hm : s'.metrics.charge = s.metrics.charge) : Charged {} s s' := by
  refine free ?_ (fun m => ?_) hm <;> rw [hf]
  · exact Forest.size_modify ..
  · exact Forest.get_modify_same hg s.forest n m

/-- A refusal. -/
theorem of_refused (n : NodeRef) (e : UsageError) : Charged { refusals := 1 } s (s.refused n e) :=
  ⟨Nat.le_refl _, rfl, rfl, rfl, fun _ _ => by simp [refused, log]⟩

/-- A tracer has ended, and that was counted or is charged. -/
theorem of_ended {discards : Nat} (hst : (s.forest.get n).state ≠ .ended)
    (hf : s'.forest = s.forest.modify n (·.enter .ended s.clock)) (hu : s'.metrics.usageErrors = s.metrics.usageErrors)
    (hl : s'.metrics.leaked = s.metrics.leaked) (he : s'.metrics.ended + discards = s.metrics.ended + 1) :
    Charged { discards } s s' := by
  have hcount := Forest.count_modify (p := (·.state = .ended)) (Forest.lt_size_of_state hst) (·.enter .ended s.clock)
  have hbefore : decide ((s.forest.get n).state = .ended) = false := decide_eq_false hst
  have hafter : decide (((s.forest.get n).enter .ended s.clock).state = .ended) = true := rfl
  rw [hbefore, hafter, ← hf, Bool.toNat_false, Bool.toNat_true] at hcount
  refine ⟨?_, hu, hl, ?_, fun m _ => ?_⟩
  · rw [hf, Forest.size_modify]
  · dsimp only
    omega
  · rw [hf, Forest.get_modify_same (g := (·.enter .ended s.clock)) (p := Node.held) fun _ => rfl]
    simp

/-- Tracers that were not there before do not matter. -/
theorem unborn (h : Charged b s s') (hb : ∀ m ∈ b.released, s.forest.size ≤ m) :
    Charged { b with released := [] } s s' where
  size := h.size
  usageErrors := h.usageErrors
  leaked := h.leaked
  ended := h.ended
  held m hm := by
    have hnot : m ∉ b.released := fun hmem => absurd (hb m hmem) (Nat.not_le_of_lt hm)
    simp [h.held m hm, hnot]

end Charged

/-! ## Single calls -/

theorem begun_charged (hst : (s.forest.get n).state = .created) : Charged {} s (s.begun t n) := by
  refine .free ?_ (fun m => ?_) rfl
  · simp [begun]
  · have hnest := fun m => Forest.get_nest_same (p := Node.charge) (fun _ _ => rfl) s.forest (s.active? t) n m
    show ((Forest.modify _ n _).get m).charge = _
    rw [Forest.get_modify_eq, ← hnest m]
    split
    · rename_i e
      have hstate : ((s.forest.nest (s.active? t) n).get n).state = .created :=
        (Forest.get_nest_same (p := Node.state) (fun _ _ => rfl) s.forest _ n n).trans hst
      simp [← e.1, Node.charge, Node.enter, hstate]
    · rfl

theorem Charged.of_error {c : Command} {r : Reply} {e : UsageError} (h : s.perform t c = (r, s.refused n e))
    (hr : r.error? = some e) : Charged (.ofCalls [⟨s, t, c⟩]) s (s.perform t c).2 := by
  have hreply : Step.reply ⟨s, t, c⟩ = r := congrArg Prod.fst h
  simpa [Bill.ofCalls, hreply, hr, h] using Charged.of_refused n e

theorem Charged.of_ok {c : Command} {r : Reply} (h : s.perform t c = (r, s')) (hr : r.error? = none)
    (hs : Charged {} s s') : Charged (.ofCalls [⟨s, t, c⟩]) s (s.perform t c).2 := by
  have hreply : Step.reply ⟨s, t, c⟩ = r := congrArg Prod.fst h
  simpa [Bill.ofCalls, hreply, hr, h] using hs

/-- A call on a tracer is charged if it was refused, and for nothing else. -/
theorem call_charged {c : Command} (hc : c.isTracerCall = true) :
    Charged (.ofCalls [⟨s, t, c⟩]) s (s.perform t c).2 := by
  cases c with
  | start n =>
    rcases s.start_cases t n with ⟨e, h⟩ | ⟨-, hst, -, h⟩ <;> have h := congrArg (Prod.map Reply.done id) h
    · exact .of_error h rfl
    · exact .of_ok h rfl (begun_charged hst)
  | endTracer n =>
    rcases s.endTracer_cases t n with ⟨e, h⟩ | ⟨-, -, h⟩ | ⟨-, hst, h⟩ | ⟨-, hst, -, rest, -, h⟩ <;>
      have h := congrArg (Prod.map Reply.done id) h
    · exact .of_error h rfl
    · exact .of_ok h rfl (.of_forest rfl rfl)
    · exact .of_ok h rfl (.of_ended (by simp [hst]) rfl rfl rfl rfl)
    · refine .of_ok h rfl ?_
      dsimp only [id]
      split
      · have hm := metrics_completePath (s.unwound t n []) n
        have hf := (completePath_same (s.unwound t n []) n).1
        exact .of_ended (by simp [hst]) hf (by rw [hm]; rfl) (by rw [hm]; rfl) (by rw [hm]; rfl)
      · exact .of_ended (by simp [hst]) rfl rfl rfl rfl
  | update n u =>
    rcases s.update_cases t n u with ⟨e, h⟩ | ⟨-, -, -, d, -, h⟩ <;> have h := congrArg (Prod.map Reply.done id) h
    · exact .of_error h rfl
    · exact .of_ok h rfl (.of_modify (g := fun m => { m with details := d }) (fun _ => rfl) rfl rfl)
  | markFailed n className message =>
    rcases s.markFailed_cases t n className message with ⟨e, h⟩ | ⟨-, -, -, -, h⟩ <;>
      have h := congrArg (Prod.map Reply.done id) h
    · exact .of_error h rfl
    · exact .of_ok h rfl
        (.of_modify (g := fun m => { m with error := some ⟨className, message⟩ }) (fun _ => rfl) rfl rfl)
  | outgoingTag n form =>
    rcases s.outgoingTag_cases t n form with ⟨e, h⟩ | ⟨-, -, -, h⟩ <;> have h := congrArg (Prod.map Reply.tag id) h
    · exact .of_error h rfl
    · exact .of_ok h rfl (.of_forest rfl rfl)
  | setIncomingTag n tag =>
    rcases s.setIncomingTag_cases t n tag with ⟨e, h⟩ | ⟨-, -, -, h⟩ <;> have h := congrArg (Prod.map Reply.done id) h
    · exact .of_error h rfl
    · refine .of_ok h rfl ?_
      dsimp only [id]
      split <;>
        exact .of_modify (g := fun m => { m with receipt := .ofDecoded tag.decode }) (fun _ => rfl) rfl rfl
  | _ => cases hc

/-! ## Calls one after the other -/

/-- The calls that set fields one by one, up to the first that is refused. -/
def updateCalls (s : Session) (t : Thread) (n : NodeRef) : List Update → List Step
  | [] => []
  | u :: us => ⟨s, t, .update n u⟩ :: match s.update t n u with
    | (.ok (), s') => s'.updateCalls t n us
    | (.error _, _) => []

theorem updateAll_charged (us : List Update) : Charged (.ofCalls (s.updateCalls t n us)) s (s.updateAll t n us).2 := by
  induction us generalizing s with
  | nil => exact .of_forest rfl rfl
  | cons u us ih =>
    have hu : Charged (.ofCalls [⟨s, t, .update n u⟩]) s (s.update t n u).2 := call_charged rfl
    unfold updateAll updateCalls
    rw [Bill.ofCalls_cons]
    cases h : s.update t n u with
    | mk result s' =>
      rw [h] at hu
      cases result with
      | error e => simpa using hu
      | ok _ => exact hu.trans ih

/-- The call that gives a tracer the only tag there is. -/
def tagCalls (s : Session) (t : Thread) (n : NodeRef) (tags : IncomingTags) : List Step :=
  match tags.string, tags.bytes with
  | some text, none => [⟨s, t, .setIncomingTag n (.string text)⟩]
  | none, some data => [⟨s, t, .setIncomingTag n (.bytes data)⟩]
  | _, _ => []

theorem applyIncomingTags_charged (tags : IncomingTags) :
    Charged (.ofCalls (s.tagCalls t n tags)) s (s.applyIncomingTags t n tags).2 := by
  obtain ⟨_ | text, _ | data⟩ := tags
  · exact .of_forest rfl rfl
  · exact call_charged (c := .setIncomingTag n _) rfl
  · exact call_charged (c := .setIncomingTag n _) rfl
  · exact .of_forest rfl rfl

/-- The calls that set up a new tracer. -/
def setUpCalls (s : Session) (t : Thread) (n : NodeRef) (kind : Kind) (o : TraceOptions) : List Step :=
  s.updateCalls t n (o.updates kind) ++ match s.updateAll t n (o.updates kind) with
    | (.ok (), s') => if kind.acceptsTag then s'.tagCalls t n o.tags else []
    | (.error _, _) => []

theorem setUp_charged (kind : Kind) (o : TraceOptions) :
    Charged (.ofCalls (s.setUpCalls t n kind o)) s (s.setUp t n kind o).2 := by
  have hu := updateAll_charged (s := s) (t := t) (n := n) (o.updates kind)
  unfold setUp setUpCalls
  rw [Bill.ofCalls_append]
  cases h : s.updateAll t n (o.updates kind) with
  | mk result s' =>
    rw [h] at hu
    cases result with
    | error e => simpa using hu
    | ok _ =>
      dsimp only
      split
      · exact hu.trans (applyIncomingTags_charged o.tags)
      · simpa using hu

/-- The call that attaches an error, unless there is one. -/
def attachCalls (s : Session) (t : Thread) (n : NodeRef) (failure : Failure) : List Step :=
  if (s.forest.get n).error.isSome then [] else [⟨s, t, .markFailed n failure.className failure.text⟩]

theorem attach_charged (failure : Failure) :
    Charged (.ofCalls (s.attachCalls t n failure)) s (s.attach t n failure) := by
  unfold attach attachCalls
  split
  · exact .of_forest rfl rfl
  · have hm : Charged (.ofCalls [⟨s, t, .markFailed n failure.className failure.text⟩]) s
        (s.markFailed t n failure.className failure.text).2 := call_charged rfl
    split <;> rename_i h <;> rw [h] at hm
    · exact hm
    · exact hm.trans_free (.of_forest rfl rfl)

theorem endAfterFailure_charged : Charged (.ofCalls [⟨s, t, .endTracer n⟩]) s (s.endAfterFailure t n) := by
  have he : Charged (.ofCalls [⟨s, t, .endTracer n⟩]) s (s.endTracer t n).2 := call_charged rfl
  unfold endAfterFailure
  split <;> rename_i h <;> rw [h] at he
  · exact he
  · exact he.trans_free (.of_forest rfl rfl)

/-- The calls that a scope makes at its end. -/
def leaveCalls {α : Type} (s : Session) (t : Thread) (n : NodeRef) : Outcome α → List Step
  | .returned _ => [⟨s, t, .endTracer n⟩]
  | .failed failure => s.attachCalls t n failure ++ [⟨s.attach t n failure, t, .endTracer n⟩]
  | .interrupted text =>
    s.attachCalls t n (interruption text) ++ [⟨s.attach t n (interruption text), t, .endTracer n⟩]

theorem leave_charged {α : Type} (outcome : Outcome α) :
    Charged (.ofCalls (s.leaveCalls t n outcome)) s (s.leave t n outcome).2 := by
  have failing : ∀ failure,
      Charged (.ofCalls (s.attachCalls t n failure ++ [⟨s.attach t n failure, t, .endTracer n⟩])) s
        ((s.attach t n failure).endAfterFailure t n) := fun failure => by
    rw [Bill.ofCalls_append]
    exact (attach_charged failure).trans endAfterFailure_charged
  cases outcome with
  | returned value =>
    have he : Charged (.ofCalls [⟨s, t, .endTracer n⟩]) s (s.endTracer t n).2 := call_charged rfl
    unfold leave
    dsimp only
    split <;> rename_i h <;> rw [h] at he <;> exact he
  | failed failure => exact failing failure
  | interrupted text => exact failing _

/-! ## Letting go -/

/-- What is charged for letting go of a tracer. -/
def dropBill (s : Session) (t : Thread) (n : NodeRef) : Bill where
  leaks := if (s.forest.get n).owner = t ∧ (s.forest.get n).state = .started then 1 else 0
  discards := if (s.forest.get n).owner = t ∧ (s.forest.get n).state = .created then 1 else 0
  released := [n]

theorem released_charged (s : Session) (n : NodeRef) : Charged { released := [n] } s (s.released n) := by
  have hstate := (released_sameShape s n).forest
  refine ⟨Nat.le_of_eq hstate.size.symm, rfl, rfl, ?_, fun m hm => ?_⟩
  · rw [Forest.count_congr (p := (·.state = .ended)) hstate.size fun m => by rw [(hstate.node m).state]]
    rfl
  · show ((s.forest.modify n _).get m).held = true ↔ _
    rw [Forest.get_modify _ _ _ _ hm]
    split
    · rename_i e
      simp [e]
    · rename_i e
      simp [Ne.symm e]

theorem drop_charged (s : Session) (t : Thread) (n : NodeRef) : Charged (s.dropBill t n) s (s.drop t n) := by
  have hr := released_charged s n
  have hstate : ((s.released n).forest.get n).state = (s.forest.get n).state :=
    ((released_sameShape s n).forest.node n).state
  unfold dropBill
  rcases s.drop_cases t n with ⟨hst, h⟩ | ⟨ho, m, h⟩ | ⟨ho, hst, h⟩ | ⟨ho, hst, h⟩
  · rw [h]
    simpa [hst] using hr
  · have hw : Charged {} (s.released n) ((s.released n).warn m) := .of_forest rfl rfl
    rw [h]
    simpa [ho] using hr.trans_free hw
  · have hd : Charged { discards := 1 } (s.released n) ((s.released n).discarded n) :=
      .of_ended (by simp [hstate, hst]) rfl rfl rfl rfl
    rw [h]
    simpa [ho, hst, Bill.add] using hr.trans hd
  · have hl : Charged { leaks := 1 } (s.released n) { s.released n with metrics := s.metrics.recordLeaked } :=
      ⟨Nat.le_refl _, rfl, rfl, rfl, fun _ _ => by simp⟩
    have hall : Charged { leaks := 1, released := [n] } s { s.released n with metrics := s.metrics.recordLeaked } := by
      simpa [Bill.add] using hr.trans hl
    rcases h with h | ⟨m, h⟩ <;> rw [h]
    · simpa [ho, hst] using hall
    · have hw : Charged {} { s.released n with metrics := s.metrics.recordLeaked }
          (Session.warn { s.released n with metrics := s.metrics.recordLeaked } m) := .of_forest rfl rfl
      simpa [ho, hst] using hall.trans_free hw

/-! ## New tracers -/

theorem create_charged (s : Session) (t : Thread) (id : TracerId) (d : Details) :
    Charged {} s (s.create t id d).2 := by
  refine ⟨by simp, rfl, rfl, ?_, fun m hm => ?_⟩
  · show (s.forest.add _).2.count _ + _ = _
    rw [Forest.count_add]
    rfl
  · rw [get_create, if_neg (Nat.ne_of_lt hm)]
    simp

/-- The calls that a trace makes. -/
def traceCalls (s : Session) (t : Thread) (id : TracerId) (op : Operation) (o : TraceOptions) : List Step :=
  match s.createFor t id op with
  | (.error _, _) => []
  | (.ok n, s) => s.setUpCalls t n op.kind o ++ match s.setUp t n op.kind o with
    | (.ok (), _) => []
    | (.error _, s) => [⟨s, t, .endTracer n⟩]

/-- A trace that fails lets go of its tracer when that has ended, which is free. -/
theorem trace_charged (id : TracerId) (op : Operation) (o : TraceOptions) :
    Charged (.ofCalls (s.traceCalls t id op o)) s (s.trace t id op o).2 := by
  cases hd : op.details with
  | error e =>
    unfold trace traceCalls createFor
    rw [hd]
    exact .of_forest rfl rfl
  | ok d =>
    have hcalls : s.traceCalls t id op o = (s.create t id d).2.setUpCalls t s.forest.size op.kind o ++
        match (s.create t id d).2.setUp t s.forest.size op.kind o with
        | (.ok (), _) => []
        | (.error _, s') => [⟨s', t, .endTracer s.forest.size⟩] := by
      unfold traceCalls createFor
      rw [hd]
      rfl
    obtain ⟨s', -, hshape, ⟨hset, h⟩ | ⟨e, hset, h⟩⟩ := trace_cases (s := s) (t := t) id o hd
    all_goals
      have hs := (create_charged s t id d).free_trans (setUp_charged (t := t) (n := s.forest.size) op.kind o)
      rw [hset] at hs hcalls
      rw [hcalls, h]
    · simpa using hs
    · have hnode := hshape.forest.node s.forest.size
      rw [get_created] at hnode
      have hend : Charged (.ofCalls [⟨s', t, .endTracer s.forest.size⟩]) s' (s'.endTracer t s.forest.size).2 :=
        call_charged rfl
      rw [endTracer_of_created hnode.owner hnode.state] at hend
      have hended : ((s'.finish s.forest.size).forest.get s.forest.size).state = .ended := by
        have hlt : s.forest.size < s'.forest.size := by
          rw [hshape.forest.size]
          simp
        simp [finish, Forest.get_modify _ _ _ _ hlt, Node.enter]
      have hdrop := drop_charged (s'.finish s.forest.size) t s.forest.size
      have hall := ((hs.trans hend).trans hdrop).unborn (by simp [Bill.ofCalls, Bill.add, dropBill])
      rw [Bill.ofCalls_append]
      simpa [Bill.ofCalls, Bill.add, dropBill, hended] using hall

/-! ## Everything else is free -/

theorem addAttribute_charged (key : String) (value : AttributeValue) :
    Charged {} s (s.addAttribute t key value).2 := by
  rcases s.addAttribute_cases t key value with ⟨e, h⟩ | ⟨-, n, -, h⟩ | ⟨-, -, m, h⟩ <;> rw [h]
  · exact .of_forest rfl rfl
  · exact .of_modify (g := fun m => { m with attributes := m.attributes ++ [(key, value)] }) (fun _ => rfl) rfl rfl
  · exact .of_forest rfl rfl

theorem addEach_charged (pairs : List (String × AttributeValue)) : Charged {} s (s.addEach t pairs).2 := by
  induction pairs generalizing s with
  | nil => exact .of_forest rfl rfl
  | cons p pairs ih =>
    have ha := addAttribute_charged (s := s) (t := t) p.1 p.2
    unfold addEach
    split
    · rename_i s' h
      rw [h] at ha
      exact ha.free_trans ih
    · exact ha

theorem resolvePass_charged (hm : s'.metrics.charge = s.metrics.charge)
    (hf : s'.forest = (s.forest.resolvePass s.archive).2) : Charged {} s s' := by
  obtain ⟨hsize, hnode⟩ :=
    Forest.resolvePass_same (q := Node.charge) (fun _ _ => rfl) (fun _ _ => rfl) s.forest s.archive
  refine .free ?_ ?_ hm <;> rw [hf]
  · exact hsize
  · exact hnode

theorem warnUnresolved_charged (ns : List NodeRef) : Charged {} s (ns.foldl warnUnresolved s) := by
  induction ns generalizing s with
  | nil => exact .of_forest rfl rfl
  | cons n ns ih =>
    have hw : Charged {} s (s.warnUnresolved n) := .of_forest rfl rfl
    exact hw.free_trans ih

theorem resolve_charged (s : Session) (warnOfUnresolved : Bool) : Charged {} s (s.resolve warnOfUnresolved).2 := by
  have hp : Charged {} s (s.resolve false).2 := resolvePass_charged rfl rfl
  cases warnOfUnresolved with
  | false => exact hp
  | true => exact hp.free_trans (warnUnresolved_charged _)

end Session

/-! ## Every command -/

namespace Step

/-- The calls on tracers that the command is made of, each with the session that it met. -/
def calls (x : Step) : List Step :=
  match x.command with
  | .trace id op o => x.before.traceCalls x.thread id op o
  | .updateAll n us => x.before.updateCalls x.thread n us
  | .applyIncomingTags n tags => x.before.tagCalls x.thread n tags
  | .leave n outcome => x.before.leaveCalls x.thread n outcome
  | c => if c.isTracerCall then [x] else []

/-- The errors that the calls gave back. -/
def refusals (x : Step) : List UsageError :=
  x.calls.filterMap (·.reply.error?)

/-- The tracer that the command let go of, if it was in the state. -/
def dropped (x : Step) (st : TracerState) : List NodeRef :=
  x.command.dropped?.toList.filter fun n => (x.before.forest.get n).state = st

/-- The tracer belongs to the thread of the command. -/
def isHome (x : Step) (n : NodeRef) : Bool :=
  (x.before.forest.get n).owner = x.thread

/-- What is charged for the command. -/
def bill (x : Step) : Bill where
  refusals := x.refusals.length
  leaks := ((x.dropped .started).filter x.isHome).length
  discards := ((x.dropped .created).filter x.isHome).length
  released := x.command.dropped?.toList

theorem bill_drop (s : Session) (t : Thread) (n : NodeRef) : bill ⟨s, t, .drop n⟩ = s.dropBill t n := by
  have hlength : ∀ st, ((dropped ⟨s, t, .drop n⟩ st).filter (isHome ⟨s, t, .drop n⟩)).length =
      if (s.forest.get n).owner = t ∧ (s.forest.get n).state = st then 1 else 0 := by
    intro st
    by_cases hst : (s.forest.get n).state = st <;> by_cases ho : (s.forest.get n).owner = t <;>
      simp [dropped, isHome, Command.dropped?, hst, ho]
  unfold bill Session.dropBill
  rw [hlength, hlength]
  rfl

theorem charged (x : Step) : x.before.Charged x.bill x.after := by
  obtain ⟨s, t, c⟩ := x
  cases c with
  | create id d => exact s.create_charged t id d
  | trace id op o => exact Session.trace_charged id op o
  | start n => exact Session.call_charged rfl
  | endTracer n => exact Session.call_charged rfl
  | update n u => exact Session.call_charged rfl
  | markFailed n className message => exact Session.call_charged rfl
  | outgoingTag n form => exact Session.call_charged rfl
  | setIncomingTag n tag => exact Session.call_charged rfl
  | updateAll n us => exact Session.updateAll_charged us
  | applyIncomingTags n tags => exact Session.applyIncomingTags_charged tags
  | leave n outcome => exact Session.leave_charged outcome
  | drop n =>
    rw [bill_drop]
    exact s.drop_charged t n
  | addAttribute key value => exact Session.addAttribute_charged key value
  | addAttributes keys values count => exact Session.addEach_charged _
  | resolvePending => exact Session.resolvePass_charged rfl rfl
  | resolve warnOfUnresolved => exact s.resolve_charged warnOfUnresolved
  | activateAgent options => exact .of_forest rfl rfl
  | _ => exact .of_forest rfl rfl

end Step

end CallPath
