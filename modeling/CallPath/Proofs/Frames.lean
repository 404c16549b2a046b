import CallPath.Proofs.Effects
/-!
# What commands leave alone

The work of a tracer, from its start to its end, changes its state, its fields, its error and its
attributes, and nests tracers in one another. Whatever of a node does not show any of that is
`Inert`, and `perform_keeps` says that it is the same after every command but those that create
tracers, give them tags or resolve tags.
-/

namespace CallPath

variable {α : Type} {p : Node → α}

/-- The work of tracers does not show in `p`, unless it is in their attributes. -/
structure Node.Untouched (p : Node → α) : Prop where
  enter : ∀ m state now, p (m.enter state now) = p m
  nest : ∀ m child, p (m.link .child child) = p m
  fields : ∀ m u details, Update.apply u m.details = .ok details → p { m with details } = p m
  failed : ∀ m error, p { m with error } = p m
  held : ∀ m held, p { m with held } = p m

/-- The work of tracers does not show in `p`. -/
structure Node.Inert (p : Node → α) : Prop extends Node.Untouched p where
  attributes : ∀ m attributes, p { m with attributes } = p m

namespace Session

/-- What `p` shows of any node is the same in both sessions. -/
def Keeps (p : Node → α) (s s' : Session) : Prop :=
  ∀ n, p (s'.forest.get n) = p (s.forest.get n)

variable {s s' s'' : Session} {t : Thread} {n : NodeRef}

theorem Keeps.of_forest (h : s'.forest = s.forest) : Keeps p s s' := by
  intro n
  rw [h]

theorem Keeps.trans (h : Keeps p s s') (h' : Keeps p s' s'') : Keeps p s s'' := fun n =>
  (h' n).trans (h n)

theorem Keeps.of_modify {g : Node → Node} (hg : ∀ m, p (g m) = p m) (h : s'.forest = s.forest.modify n g) :
    Keeps p s s' := by
  intro m
  rw [h]
  exact Forest.get_modify_same hg s.forest n m

/-! ## Starts and ends -/

theorem start_keeps (hp : Node.Untouched p) : Keeps p s (s.start t n).2 := by
  rcases s.start_cases t n with ⟨e, h⟩ | ⟨-, -, -, h⟩ <;> rw [h]
  · exact .of_forest rfl
  · exact fun m => (Forest.get_modify_same (fun m => hp.enter m _ _) _ n m).trans
      (Forest.get_nest_same (fun m c => hp.nest m c) s.forest _ n m)

theorem endTracer_keeps (hp : Node.Untouched p) : Keeps p s (s.endTracer t n).2 := by
  have hend : ∀ m : Node, p (m.enter .ended s.clock) = p m := fun m => hp.enter m _ _
  rcases s.endTracer_cases t n with ⟨e, h⟩ | ⟨-, -, h⟩ | ⟨-, -, h⟩ | ⟨-, -, -, rest, -, h⟩ <;> rw [h]
  · exact .of_forest rfl
  · exact .of_forest rfl
  · exact .of_modify hend rfl
  · dsimp only
    split
    · exact .of_modify hend (completePath_same (s.unwound t n []) n).1
    · exact .of_modify hend rfl

theorem drop_keeps (hp : Node.Untouched p) : Keeps p s (s.drop t n) := by
  have hrel : Keeps p s (s.released n) := .of_modify (fun m => hp.held m _) rfl
  rcases s.drop_cases t n with ⟨-, h⟩ | ⟨-, _, h⟩ | ⟨-, -, h⟩ | ⟨-, -, h | ⟨_, h⟩⟩ <;> rw [h]
  · exact hrel
  · exact hrel.trans (.of_forest rfl)
  · exact hrel.trans (.of_modify (fun m => hp.enter m _ _) rfl)
  · exact hrel.trans (.of_forest rfl)
  · exact hrel.trans (.of_forest rfl)

/-! ## Fields, errors and attributes -/

theorem update_keeps (hp : Node.Untouched p) (u : Update) : Keeps p s (s.update t n u).2 := by
  rcases s.update_cases t n u with ⟨e, h⟩ | ⟨-, -, -, d, hd, h⟩ <;> rw [h]
  · exact .of_forest rfl
  · intro m
    show p ((s.forest.modify n _).get m) = _
    rw [Forest.get_modify_eq]
    split
    · rename_i e
      rw [e.1] at hd
      exact hp.fields _ u d hd
    · rfl

theorem updateAll_keeps (hp : Node.Untouched p) (us : List Update) : Keeps p s (s.updateAll t n us).2 := by
  induction us generalizing s with
  | nil => exact .of_forest rfl
  | cons u us ih =>
    have hu := update_keeps (s := s) (t := t) (n := n) hp u
    unfold updateAll
    split
    · rename_i s' h
      rw [h] at hu
      exact hu.trans ih
    · exact hu

theorem markFailed_keeps (hp : Node.Untouched p) (className message : String) :
    Keeps p s (s.markFailed t n className message).2 := by
  rcases s.markFailed_cases t n className message with ⟨e, h⟩ | ⟨-, -, -, -, h⟩ <;> rw [h]
  · exact .of_forest rfl
  · exact .of_modify (fun m => hp.failed m _) rfl

theorem outgoingTag_keeps (form : TagForm) : Keeps p s (s.outgoingTag t n form).2 := by
  rcases s.outgoingTag_cases t n form with ⟨e, h⟩ | ⟨-, -, -, h⟩ <;> rw [h] <;> exact .of_forest rfl

theorem addAttribute_keeps (hp : Node.Inert p) (key : String) (value : AttributeValue) :
    Keeps p s (s.addAttribute t key value).2 := by
  rcases s.addAttribute_cases t key value with ⟨e, h⟩ | ⟨-, n, -, h⟩ | ⟨-, -, m, h⟩ <;> rw [h]
  · exact .of_forest rfl
  · exact .of_modify (fun m => hp.attributes m _) rfl
  · exact .of_forest rfl

theorem addEach_keeps (hp : Node.Inert p) (pairs : List (String × AttributeValue)) :
    Keeps p s (s.addEach t pairs).2 := by
  induction pairs generalizing s with
  | nil => exact .of_forest rfl
  | cons a pairs ih =>
    have ha := addAttribute_keeps (s := s) (t := t) hp a.1 a.2
    unfold addEach
    split
    · rename_i s' h
      rw [h] at ha
      exact ha.trans ih
    · exact ha

/-! ## Scopes -/

theorem attach_keeps (hp : Node.Untouched p) (failure : Failure) : Keeps p s (s.attach t n failure) := by
  have hm := markFailed_keeps (s := s) (t := t) (n := n) hp failure.className failure.text
  unfold attach
  split
  · exact .of_forest rfl
  · split <;> rename_i h <;> rw [h] at hm
    · exact hm
    · exact hm.trans (.of_forest rfl)

theorem endAfterFailure_keeps (hp : Node.Untouched p) : Keeps p s (s.endAfterFailure t n) := by
  have he := endTracer_keeps (s := s) (t := t) (n := n) hp
  unfold endAfterFailure
  split <;> rename_i h <;> rw [h] at he
  · exact he
  · exact he.trans (.of_forest rfl)

theorem leave_keeps (hp : Node.Untouched p) (outcome : Outcome Unit) : Keeps p s (s.leave t n outcome).2 := by
  cases outcome with
  | returned value =>
    have he := endTracer_keeps (s := s) (t := t) (n := n) hp
    unfold leave
    dsimp only
    split <;> rename_i h <;> rw [h] at he <;> exact he
  | failed failure => exact (attach_keeps hp failure).trans (endAfterFailure_keeps hp)
  | interrupted text => exact (attach_keeps hp _).trans (endAfterFailure_keeps hp)

/-! ## Tags -/

theorem setIncomingTag_keeps (hr : ∀ m receipt, p { m with receipt } = p m) (tag : IncomingTag) :
    Keeps p s (s.setIncomingTag t n tag).2 := by
  rcases s.setIncomingTag_cases t n tag with ⟨e, h⟩ | ⟨-, -, -, h⟩ <;> rw [h]
  · exact .of_forest rfl
  · dsimp only
    split <;> exact .of_modify (fun m => hr m _) rfl

theorem applyIncomingTags_keeps (hr : ∀ m receipt, p { m with receipt } = p m) (tags : IncomingTags) :
    Keeps p s (s.applyIncomingTags t n tags).2 := by
  unfold applyIncomingTags
  split
  · exact .of_forest rfl
  · exact setIncomingTag_keeps hr _
  · exact setIncomingTag_keeps hr _
  · exact .of_forest rfl

theorem setUp_keeps (hp : Node.Untouched p) (hr : ∀ m receipt, p { m with receipt } = p m) (kind : Kind)
    (o : TraceOptions) : Keeps p s (s.setUp t n kind o).2 := by
  have hu := updateAll_keeps (s := s) (t := t) (n := n) hp (o.updates kind)
  unfold setUp
  split
  · rename_i s' h
    rw [h] at hu
    split
    · exact hu.trans (applyIncomingTags_keeps hr o.tags)
    · exact hu
  · exact hu

/-- A trace keeps what the creation of its tracer keeps. -/
theorem trace_keeps (hp : Node.Untouched p) (hr : ∀ m receipt, p { m with receipt } = p m) {id : TracerId}
    (hc : ∀ d, Keeps p s (s.create t id d).2) (op : Operation) (o : TraceOptions) :
    Keeps p s (s.trace t id op o).2 := by
  unfold trace createFor
  cases op.details with
  | error e => exact .of_forest rfl
  | ok d =>
    have hs := setUp_keeps (s := (s.create t id d).2) (t := t) (n := (s.create t id d).1) hp hr op.kind o
    dsimp only
    split
    · rename_i s' h
      rw [h] at hs
      exact (hc d).trans hs
    · rename_i e s' h
      rw [h] at hs
      exact (hc d).trans (hs.trans ((endTracer_keeps hp).trans (drop_keeps hp)))

/-- Giving a tracer a tag changes no other node at all. -/
theorem setIncomingTag_get_ne (tag : IncomingTag) {m : NodeRef} (h : m ≠ n) :
    (s.setIncomingTag t n tag).2.forest.get m = s.forest.get m := by
  rcases s.setIncomingTag_cases t n tag with ⟨e, h'⟩ | ⟨-, -, -, h'⟩ <;> rw [h']
  · rfl
  · dsimp only
    split <;> exact Forest.get_modify_ne (Ne.symm h)

theorem applyIncomingTags_get_ne (tags : IncomingTags) {m : NodeRef} (h : m ≠ n) :
    (s.applyIncomingTags t n tags).2.forest.get m = s.forest.get m := by
  unfold applyIncomingTags
  split
  · rfl
  · exact setIncomingTag_get_ne _ h
  · exact setIncomingTag_get_ne _ h
  · rfl

theorem warnUnresolved_forest (ns : List NodeRef) : (ns.foldl warnUnresolved s).forest = s.forest := by
  induction ns generalizing s with
  | nil => rfl
  | cons n ns ih => exact ih

end Session

/-! ## Commands -/

/-- Whether a command is neither about a new tracer nor about tags. -/
def Command.isWork : Command → Bool
  | create .. | trace .. | setIncomingTag .. | applyIncomingTags .. | resolvePending | resolve _ => false
  | _ => true

/-- Whether a command is about custom attributes. -/
def Command.addsAttributes : Command → Bool
  | addAttribute .. | addAttributes .. => true
  | _ => false

namespace Session

/-- What does not show the work of tracers shows it after commands about attributes at most. -/
theorem perform_keeps_untouched (hp : Node.Untouched p) (s : Session) (t : Thread) {c : Command}
    (hc : c.isWork = true) (ha : c.addsAttributes = false) : Keeps p s (s.perform t c).2 := by
  cases c with
  | start n => exact start_keeps hp
  | endTracer n => exact endTracer_keeps hp
  | update n u => exact update_keeps hp u
  | updateAll n us => exact updateAll_keeps hp us
  | markFailed n className message => exact markFailed_keeps hp className message
  | outgoingTag n form => exact outgoingTag_keeps form
  | leave n outcome => exact leave_keeps hp outcome
  | drop n => exact drop_keeps hp
  | addAttribute | addAttributes => cases ha
  | create | trace | setIncomingTag | applyIncomingTags | resolvePending | resolve => cases hc
  | _ => exact .of_forest rfl

theorem perform_keeps (hp : Node.Inert p) (s : Session) (t : Thread) {c : Command} (hc : c.isWork = true) :
    Keeps p s (s.perform t c).2 := by
  cases ha : c.addsAttributes with
  | false => exact perform_keeps_untouched hp.toUntouched s t hc ha
  | true =>
    cases c with
    | addAttribute key value => exact addAttribute_keeps hp key value
    | addAttributes keys values count => exact addEach_keeps hp _
    | _ => cases ha

end Session

end CallPath
