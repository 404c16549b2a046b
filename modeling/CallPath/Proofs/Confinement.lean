import CallPath.Proofs.Accounts
import CallPath.Proofs.Bystanders
import CallPath.Proofs.Links
import Mathlib.Algebra.BigOperators.Group.List.Basic
import Mathlib.Algebra.Ring.Int.Defs
/-!
# Threads do not get in each other's way

The commands of several threads may be asked of one session in different orders. As long as each thread
asks the same in the same order, and names its tracers by their ids, the orders come to the same: what
each command answers, the nodes, the paths and the counters, and for each thread the order of its roots
in the archive (`Run.confined`).

The proof follows one thread at a time. Its steps in both logs are `Aligned`; steps of other threads
leave alone what it finds (`Session.perform_spares`), and two steps of its own that ask for the same
keep both sides alike (`Step.echo`). What a thread can learn of a tracer of another one is its owner and
its kind, which are fixed when it is created (`Session.Registered`).
-/

namespace CallPath

/-! ## What is asked and what is answered -/

namespace Command

/-- The command about the tracer at another position. -/
def retarget (n : NodeRef) : Command → Command
  | start _ => start n
  | endTracer _ => endTracer n
  | update _ u => update n u
  | updateAll _ us => updateAll n us
  | markFailed _ className message => markFailed n className message
  | outgoingTag _ form => outgoingTag n form
  | setIncomingTag _ tag => setIncomingTag n tag
  | applyIncomingTags _ tags => applyIncomingTags n tags
  | leave _ outcome => leave n outcome
  | drop _ => drop n
  | c => c

theorem retarget_retarget (c : Command) (n m : NodeRef) : (c.retarget n).retarget m = c.retarget m := by
  cases c <;> rfl

theorem retarget_target (c : Command) : c.retarget (c.target?.getD 0) = c := by
  cases c <;> rfl

theorem newId?_retarget (c : Command) (n : NodeRef) : (c.retarget n).newId? = c.newId? := by
  cases c <;> rfl

end Command

namespace Reply

/-- The position of a new tracer. -/
def newRef? : Reply → Option NodeRef
  | created (.ok n) => some n
  | _ => none

/-- The reply without the position of a new tracer. -/
def unplaced : Reply → Reply
  | created (.ok _) => created (.ok 0)
  | r => r

end Reply

namespace Step

variable (x : Step)

/-- What was asked, with the id of the tracer in place of its position. -/
def request : Option TracerId × Command :=
  (x.command.target?.map x.before.forest.idOf, x.command.retarget 0)

/-- What was answered, with the id of a new tracer in place of its position. -/
def answer : Reply × Option TracerId :=
  (x.reply.unplaced, x.reply.newRef?.map x.after.forest.idOf)

/-- How far a command moved each of the counters. -/
def moved (c : Counter) : Int :=
  x.after.metrics.read c - x.before.metrics.read c

/-- What the step shows to the outside. -/
def trail : Thread × (Reply × Option TracerId) × (Counter → Int) :=
  (x.thread, x.answer, x.moved)

/-- The command is about tracers of one thread, and a tracer is dropped on the thread that created it. -/
structure IsConfined : Prop where
  command : x.command.isConfined = true
  drop : ∀ n ∈ x.command.dropped?, (x.before.forest.get n).owner = x.thread

instance : Decidable x.IsConfined :=
  decidable_of_iff (x.command.isConfined = true ∧ ∀ n ∈ x.command.dropped?, (x.before.forest.get n).owner = x.thread)
    ⟨fun h => ⟨h.1, h.2⟩, fun h => ⟨h.command, h.drop⟩⟩

end Step

/-- What a log tells of one thread. -/
def onThread {α : Type} (p : Step → α) (t : Thread) (log : List Step) : List α :=
  (log.filter (·.thread = t)).map p

/-- Each thread asked for the same, in the same order. -/
def SameRequests (log log' : List Step) : Prop :=
  ∀ t, onThread Step.request t log' = onThread Step.request t log

/-- Only the threads that asked for something matter. -/
theorem sameRequests_iff {log log' : List Step} : SameRequests log log' ↔
    ∀ t ∈ (log ++ log').map Step.thread, onThread Step.request t log' = onThread Step.request t log := by
  refine ⟨fun h t _ => h t, fun h t => ?_⟩
  by_cases ht : t ∈ (log ++ log').map Step.thread
  · exact h t ht
  · have hnone : ∀ l, l ⊆ log ++ log' → onThread Step.request t l = [] := by
      intro l hl
      simp only [onThread, List.map_eq_nil_iff, List.filter_eq_nil_iff, decide_eq_true_iff]
      rintro x hx rfl
      exact ht (List.mem_map_of_mem (hl hx))
    rw [hnone log' (List.subset_append_right ..), hnone log (List.subset_append_left ..)]

instance (log log' : List Step) : Decidable (SameRequests log log') :=
  decidable_of_iff _ sameRequests_iff.symm

/-! ## Owners and kinds -/

/-- The node of a tracer that was born so. -/
structure Birth.Of (b : Birth) (m : Node) : Prop where
  id : m.id = b.id
  owner : m.owner = b.owner
  kind : m.kind = b.details.kind

theorem Birth.Of.later {b : Birth} {m m' : Node} (h : b.Of m) (hl : m.Later m') : b.Of m' :=
  ⟨hl.id.trans h.id, hl.owner.trans h.owner, hl.kind.trans h.kind⟩

/-- The births tell of all nodes, and of no others. -/
structure Session.Registered (s : Session) (births : List Birth) : Prop where
  here : ∀ n < s.forest.size, ∃ b ∈ births, b.Of (s.forest.get n)
  there : ∀ b ∈ births, ∃ n < s.forest.size, b.Of (s.forest.get n)

namespace Session.Registered

variable {s s' : Session} {births : List Birth}

theorem later (h : s.Registered births) (hl : s.forest.Later s'.forest) (hs : s'.forest.size = s.forest.size) :
    s'.Registered births := by
  refine ⟨?_, ?_⟩
  · intro n hn
    rw [hs] at hn
    obtain ⟨b, hb, hof⟩ := h.here n hn
    exact ⟨b, hb, hof.later (hl.node n hn)⟩
  · intro b hb
    obtain ⟨n, hn, hof⟩ := h.there b hb
    exact ⟨n, hs ▸ hn, hof.later (hl.node n hn)⟩

theorem created (h : s.Registered births) (b : Birth) :
    (s.create b.owner b.id b.details).2.Registered (births ++ [b]) := by
  have hsize := size_create s b.owner b.id b.details
  have hnew : b.Of ((s.create b.owner b.id b.details).2.forest.get s.forest.size) := by
    rw [get_created]
    exact ⟨rfl, rfl, rfl⟩
  have hold : ∀ n < s.forest.size, (s.create b.owner b.id b.details).2.forest.get n = s.forest.get n := by
    intro n hn
    rw [get_create, if_neg (Nat.ne_of_lt hn)]
  refine ⟨?_, ?_⟩
  · intro n hn
    rcases Nat.lt_or_eq_of_le (Nat.le_of_lt_succ (hsize ▸ hn)) with hlt | rfl
    · obtain ⟨b', hb, hof⟩ := h.here n hlt
      exact ⟨b', List.mem_append_left _ hb, hold n hlt ▸ hof⟩
    · exact ⟨b, by simp, hnew⟩
  · intro b' hb
    rcases List.mem_append.1 hb with hb | hb
    · obtain ⟨n, hn, hof⟩ := h.there b' hb
      exact ⟨n, by omega, (hold n hn).symm ▸ hof⟩
    · rw [List.mem_singleton.1 hb]
      exact ⟨s.forest.size, by omega, hnew⟩

end Session.Registered

theorem Run.registered {s₀ s : Session} {log : List Step} (h : Run s₀ s log) (h0 : s₀.IsNew) :
    s.Registered (log.flatMap Step.births) := by
  induction h with
  | nil =>
    refine ⟨?_, by simp⟩
    intro n hn
    rw [h0.forest] at hn
    exact absurd hn (Nat.not_lt_zero n)
  | @step s log t c h hc ih =>
    rw [List.flatMap_append, List.flatMap_singleton]
    rcases Step.births_cases (x := ⟨s, t, c⟩) hc with ⟨hb, hms⟩ | ⟨b, hb, rfl, -, he⟩
    · rw [hb, List.append_nil]
      have he := Step.effects (x := ⟨s, t, c⟩) hc
      exact ih.later he.later (he.size_eq hms)
    · rw [hb]
      exact (ih.created b).later he.later (he.size_eq rfl)

/-- A birth shows in what was asked. -/
theorem Step.births_eq {x x' : Step} (ht : x'.thread = x.thread) (hr : x'.request = x.request) :
    x'.births = x.births := by
  have hbirths : ∀ x : Step, x.births = Step.births ⟨x.before, x.thread, x.request.2⟩ := by
    rintro ⟨s, t, c⟩
    cases c <;> rfl
  rw [hbirths x, hbirths x', ht, hr]
  rfl

/-- The tracers of both sessions with the same id have the same owner and the same kind. -/
def Forest.Agree (f f' : Forest) : Prop :=
  ∀ n < f.size, ∀ n' < f'.size, f'.idOf n' = f.idOf n →
    (f'.get n').owner = (f.get n).owner ∧ (f'.get n').kind = (f.get n).kind

theorem Forest.Agree.earlier {f f' f₁ f₁' : Forest} (h : f₁.Agree f₁') (hl : f.Later f₁) (hl' : f'.Later f₁') :
    f.Agree f' := by
  intro n hn n' hn' hid
  have hnode := hl.node n hn
  have hnode' := hl'.node n' hn'
  obtain ⟨ho, hk⟩ := h n (Nat.lt_of_lt_of_le hn hl.size) n' (Nat.lt_of_lt_of_le hn' hl'.size)
    (hnode'.id.trans (hid.trans hnode.id.symm))
  exact ⟨hnode'.owner.symm.trans (ho.trans hnode.owner), hnode'.kind.symm.trans (hk.trans hnode.kind)⟩

theorem Session.Registered.agree {s s' : Session} {births births' : List Birth} (h : s.Registered births)
    (h' : s'.Registered births') (hb : ∀ b ∈ births, b ∈ births')
    (hd : ∀ m n, m < s'.forest.size → n < s'.forest.size → s'.forest.idOf m = s'.forest.idOf n → m = n) :
    s.forest.Agree s'.forest := by
  intro n hn n' hn' hid
  obtain ⟨b, hmem, hof⟩ := h.here n hn
  obtain ⟨k, hk, hof'⟩ := h'.there b (hb b hmem)
  obtain rfl := hd k n' hk hn' (hof'.id.trans (hof.id.symm.trans hid.symm))
  exact ⟨hof'.owner.trans hof.owner.symm, hof'.kind.trans hof.kind.symm⟩

/-! ## Steps of the thread -/

namespace Step

variable {x x' : Step}

theorem answer_eq (hr : x'.reply = x.reply) (hn : x.reply.newRef? = none) : x'.answer = x.answer := by
  unfold answer
  rw [hr, hn]
  rfl

theorem answer_eq_of_created {n n' : NodeRef} (hr : x.reply = .created (.ok n)) (hr' : x'.reply = .created (.ok n'))
    (hid : x'.after.forest.idOf n' = x.after.forest.idOf n) : x'.answer = x.answer := by
  unfold answer
  rw [hr, hr']
  exact Prod.ext rfl (congrArg some hid)

/-- A request is about the same tracer, or about none on both sides. -/
theorem command_eq (hr : x'.request = x.request) : ∃ n', x'.command = x.command.retarget n' ∧
    ∀ n ∈ x.command.target?, n' ∈ x'.command.target? ∧ x'.before.forest.idOf n' = x.before.forest.idOf n := by
  obtain ⟨hid, hc⟩ := Prod.ext_iff.1 hr
  have hcommand : x'.command = x.command.retarget (x'.command.target?.getD 0) := by
    rw [← x.command.retarget_retarget 0, ← show x'.command.retarget 0 = x.command.retarget 0 from hc,
      Command.retarget_retarget, Command.retarget_target]
  refine ⟨x'.command.target?.getD 0, hcommand, ?_⟩
  intro n hn
  have hid : x'.command.target?.map x'.before.forest.idOf = x.command.target?.map x.before.forest.idOf := hid
  rw [Option.mem_def.1 hn] at hid
  obtain ⟨n', hn', hid⟩ := Option.map_eq_some_iff.1 hid
  rw [hn']
  exact ⟨rfl, hid⟩

end Step

namespace Session

variable {s s' : Session} {t : Thread} {m m' : Metrics}

theorem idOf_traced {id : TracerId} {op : Operation} {o : TraceOptions} {n : NodeRef}
    (h : (s.trace t id op o).1 = .ok n) : (s.trace t id op o).2.forest.idOf s.forest.size = id := by
  cases hd : op.details with
  | error e =>
    unfold trace createFor at h
    rw [hd] at h
    cases h
  | ok d =>
    have he : Effects t (s.create t id d).2 [] (s.trace t id op o).2 := trace_setUp_effects o hd
    exact (he.later.node s.forest.size (by simp)).id.trans (idOf_created s t id d)

/-- What operations give back is what the commands answer, unless that is a new tracer. -/
theorem Echo.performed {β : Type} {f : β → Reply} {y y' : β × Session} {c c' : Command} (h : Echo t m m' y y')
    (hf : ∀ a, (f a).newRef? = none) (hy : s.perform t c = y.map f id) (hy' : s'.perform t c' = y'.map f id) :
    (⟨s', t, c'⟩ : Step).answer = (⟨s, t, c⟩ : Step).answer ∧
      (s.perform t c).2.Alike t m m' (s'.perform t c').2 := by
  have hreply : (s'.perform t c').1 = (s.perform t c).1 := by
    rw [hy, hy']
    exact congrArg f h.answer
  have hnew : (s.perform t c).1.newRef? = none := by
    rw [hy]
    exact hf _
  refine ⟨Step.answer_eq hreply hnew, ?_⟩
  rw [hy, hy']
  exact h.alike

/-- The same is asked of a thread that finds the same. -/
theorem perform_echo (h : s.Alike t m m' s') (hs : s.Sound) (hs' : s'.Sound) (hi : s.InStep) (hi' : s'.InStep)
    (hf : s'.agent.isFound = s.agent.isFound) {c : Command} (n' : NodeRef) (hc : c.isConfined = true)
    (hdrop : ∀ n ∈ c.dropped?, (s.forest.get n).owner = t) (hn : ∀ n ∈ c.target?, s.Facing s' n n')
    (hid : ∀ id ∈ c.newId?, id ∉ s.forest.ids ∧ id ∉ s'.forest.ids) :
    (⟨s', t, c.retarget n'⟩ : Step).answer = (⟨s, t, c⟩ : Step).answer ∧
      (s.perform t c).2.Alike t m m' (s'.perform t (c.retarget n')).2 := by
  cases c with
  | create id d =>
    obtain ⟨hid, hid'⟩ := hid id rfl
    have hnew := (idOf_created s' t id d).trans (idOf_created s t id d).symm
    exact ⟨Step.answer_eq_of_created rfl rfl hnew, h.create hs hs' d hid hid'⟩
  | trace id op o =>
    obtain ⟨hid, hid'⟩ := hid id rfl
    obtain ⟨halike, htrace⟩ := trace_echo h hs hs' op o hid hid'
    refine ⟨?_, halike⟩
    rcases htrace with ⟨e, he, he'⟩ | ⟨hn, hn'⟩
    · refine Step.answer_eq (congrArg Reply.created (he'.trans he.symm)) ?_
      show (Reply.created (s.trace t id op o).1).newRef? = none
      rw [he]
      rfl
    · have hnew := (idOf_traced hn').trans (idOf_traced hn).symm
      exact Step.answer_eq_of_created (congrArg Reply.created hn) (congrArg Reply.created hn') hnew
  | start n => exact (start_echo h (hn n rfl) hs hs').performed (fun _ => rfl) rfl rfl
  | endTracer n => exact (endTracer_echo h (hn n rfl) hs hs').performed (fun _ => rfl) rfl rfl
  | update n u => exact (update_echo h (hn n rfl) u).performed (fun _ => rfl) rfl rfl
  | updateAll n us => exact (updateAll_echo us h (hn n rfl)).performed (fun _ => rfl) rfl rfl
  | markFailed n className message =>
    exact (markFailed_echo h (hn n rfl) className message).performed (fun _ => rfl) rfl rfl
  | outgoingTag n form => exact (outgoingTag_echo h (hn n rfl) hi hi' hf form).performed (fun _ => rfl) rfl rfl
  | setIncomingTag n tag => exact (setIncomingTag_echo h (hn n rfl) tag).performed (fun _ => rfl) rfl rfl
  | applyIncomingTags n tags => exact (applyIncomingTags_echo h (hn n rfl) tags).performed (fun _ => rfl) rfl rfl
  | drop n => exact ⟨rfl, h.drop ((hn n rfl).twin h (hdrop n rfl))⟩
  | addAttribute key value => exact (addAttribute_echo h hs hs' key value).performed (fun _ => rfl) rfl rfl
  | addAttributes keys values count => exact (addEach_echo _ h hs hs').performed (fun _ => rfl) rfl rfl
  | createLink =>
    exact ⟨Step.answer_eq (congrArg Reply.link (createLink_eq h hs hs')) rfl, h⟩
  | leave | drain | clearArchive | resolvePending | resolve | activateAgent | shutdownAgent | setAgentState
  | setCallback | warn => cases hc

end Session

/-! ## Steps of other threads -/

/-- What a step of another thread leaves is still alike. -/
theorem Step.spared {x : Step} {s' : Session} {t : Thread} {m m' : Metrics} (h : x.before.Alike t m m' s')
    (hx : x.before.Admits x.command) (hc : x.IsConfined) (hut : x.thread ≠ t) (hs : x.before.Sound)
    (hr : x.after.forest.Regular) : x.after.Alike t x.after.metrics s'.metrics s' := by
  have hspares := Session.perform_spares hut hs hc.command hc.drop
  have hlater := Step.later hx
  refine ⟨h.forest.grown hr hlater hspares.get ?_, ?_, h.settings.trans hspares.settings.symm,
    h.archive.trans hspares.archive.symm, .refl _ _⟩
  · intro n hn ho
    by_contra hge
    rw [Step.owner hx hn, if_neg hge] at ho
    exact hut ho
  · have hpath : x.after.paths.get t = x.before.paths.get t := hspares.path
    rw [hpath, h.path]
    exact List.map_congr_left fun n hn => (hlater.node n ((hs.fits.mem_iff t n).1 hn).1).id.symm

/-! ## Two runs -/

/-- The steps of a thread in two logs match, one for one, and others may be in between. -/
inductive Aligned (t : Thread) : List Step → List Step → Prop
  | nil : Aligned t [] []
  | left {log log' : List Step} {x : Step} : x.thread ≠ t → Aligned t log log' → Aligned t (log ++ [x]) log'
  | right {log log' : List Step} {x' : Step} : x'.thread ≠ t → Aligned t log log' → Aligned t log (log' ++ [x'])
  | both {log log' : List Step} {x x' : Step} : x.thread = t → x'.thread = t → x'.request = x.request →
      Aligned t log log' → Aligned t (log ++ [x]) (log' ++ [x'])

section OnThread

variable {α : Type} {p : Step → α} {t : Thread}

theorem onThread_snoc_ne {x : Step} (h : x.thread ≠ t) (log : List Step) :
    onThread p t (log ++ [x]) = onThread p t log := by
  simp [onThread, h]

theorem onThread_snoc_eq {x : Step} (h : x.thread = t) (log : List Step) :
    onThread p t (log ++ [x]) = onThread p t log ++ [p x] := by
  simp [onThread, h]

theorem Aligned.of_requests {log log' : List Step}
    (h : onThread Step.request t log' = onThread Step.request t log) : Aligned t log log' := by
  induction log using List.reverseRecOn generalizing log' with
  | nil =>
    induction log' using List.reverseRecOn with
    | nil => exact .nil
    | append_singleton log' x' ih =>
      by_cases hx : x'.thread = t
      · rw [onThread_snoc_eq hx] at h
        simp [onThread] at h
      · rw [onThread_snoc_ne hx] at h
        exact .right hx (ih h)
  | append_singleton log x ih =>
    by_cases hx : x.thread = t
    · induction log' using List.reverseRecOn with
      | nil =>
        rw [onThread_snoc_eq hx] at h
        simp [onThread] at h
      | append_singleton log' x' ih' =>
        by_cases hx' : x'.thread = t
        · rw [onThread_snoc_eq hx, onThread_snoc_eq hx'] at h
          obtain ⟨hrest, hlast⟩ := List.append_inj' h rfl
          exact .both hx hx' (List.singleton_inj.1 hlast) (ih hrest)
        · rw [onThread_snoc_ne hx'] at h
          exact .right hx' (ih' h)
    · rw [onThread_snoc_ne hx] at h
      exact .left hx (ih h)

end OnThread

theorem Run.append {s₀ s s' : Session} {log log' : List Step} (h : Run s₀ s log) (h' : Run s s' log') :
    Run s₀ s' (log ++ log') := by
  induction h' with
  | nil => simpa using h
  | step t c _ hc ih =>
    rw [← List.append_assoc]
    exact ih.step t c hc

theorem Run.eq_of_nil {s₀ s : Session} (h : Run s₀ s []) : s = s₀ := by
  generalize hl : [] = l at h
  cases h with
  | nil => rfl
  | step t c h hc => simp at hl

/-- The last step of a run. -/
theorem Run.last {s₀ s : Session} {log : List Step} {x : Step} (h : Run s₀ s (log ++ [x])) :
    Run s₀ x.before log ∧ x.before.Admits x.command ∧ s = x.after := by
  generalize hl : log ++ [x] = l at h
  cases h with
  | nil => simp at hl
  | step t c h hc =>
    obtain ⟨rfl, hx⟩ := List.append_inj' hl rfl
    obtain rfl := List.singleton_inj.1 hx
    exact ⟨h, hc, rfl⟩

theorem Run.isFound_eq {s₀ s : Session} {log : List Step} (h : Run s₀ s log) :
    s.agent.isFound = s₀.agent.isFound :=
  h.inv (I := fun s => s.agent.isFound = s₀.agent.isFound) (fun _ _ _ _ he hs => he.tells.isFound_eq.trans hs) rfl

theorem Run.regular {s₀ s : Session} {log : List Step} (h : Run s₀ s log) (h0 : s₀.IsNew) : s.forest.Regular where
  distinct := (h.inStep h0).distinct
  bounded n c hc := by
    obtain ⟨kind, c⟩ := c
    cases kind with
    | child =>
      have hentry : c ∈ (s.forest.get n).childRefs := by simpa [Node.childRefs] using hc
      exact (h.sound h0).nesting.bounded n c hentry
    | tagLinked =>
      have hentry : c ∈ (s.forest.get n).tagLinkedRefs := by simpa [Node.tagLinkedRefs] using hc
      exact Session.lt_of_producer (((h.linksFit h0).entry_iff n c).1 hentry)

/-- Two steps of a thread that ask for the same. -/
theorem Step.echo {x x' : Step} {m m' : Metrics} (h : x.before.Alike x.thread m m' x'.before)
    (ht : x'.thread = x.thread) (hr : x'.request = x.request) (hx : x.before.Admits x.command)
    (hx' : x'.before.Admits x'.command) (hc : x.IsConfined) (hs : x.before.Sound) (hs' : x'.before.Sound)
    (hi : x.before.InStep) (hi' : x'.before.InStep) (hf : x'.before.agent.isFound = x.before.agent.isFound)
    (hagree : x.before.forest.Agree x'.before.forest) :
    x'.answer = x.answer ∧ x.after.Alike x.thread m m' x'.after := by
  obtain ⟨n', hcommand, htarget⟩ := Step.command_eq hr
  obtain ⟨s, t, c⟩ := x
  obtain ⟨s', t', c'⟩ := x'
  obtain rfl : t' = t := ht
  obtain rfl : c' = c.retarget n' := hcommand
  refine Session.perform_echo h hs hs' hi hi' hf n' hc.command hc.drop ?_ ?_
  · intro n hn
    obtain ⟨hn', hid⟩ := htarget n hn
    have hlt := (hx.1 n hn).1
    have hlt' := (hx'.1 n' hn').1
    obtain ⟨ho, hk⟩ := hagree n hlt n' hlt' hid
    exact ⟨hlt, hlt', hid, ho, hk⟩
  · intro id hid
    refine ⟨hx.2 id hid, hx'.2 id ?_⟩
    rw [Command.newId?_retarget]
    exact hid

/-- What a thread finds after two runs in which it asked for the same. -/
theorem Aligned.alike {s₀ s s₁ s₂ : Session} {log log₁ log₂ : List Step} {t : Thread} (ha : Aligned t log₁ log₂)
    (h : Run s₀ s log) (h0 : s₀.IsNew) (h₁ : Run s s₁ log₁) (h₂ : Run s s₂ log₂) (hc₁ : ∀ x ∈ log₁, x.IsConfined)
    (hc₂ : ∀ x ∈ log₂, x.IsConfined) (hagree : s₁.forest.Agree s₂.forest) :
    s₁.Alike t s₁.metrics s₂.metrics s₂ ∧ onThread Step.trail t log₂ = onThread Step.trail t log₁ := by
  induction ha generalizing s₁ s₂ with
  | nil =>
    rw [h₁.eq_of_nil, h₂.eq_of_nil]
    exact ⟨.refl (h.regular h0) t, rfl⟩
  | @left log₁ log₂ x hx _ ih =>
    obtain ⟨h₁', ha, rfl⟩ := h₁.last
    obtain ⟨halike, htrail⟩ := ih h₁' h₂ (fun y hy => hc₁ y (List.mem_append_left _ hy)) hc₂
      (hagree.earlier (Step.later ha) (.refl _))
    refine ⟨Step.spared halike ha (hc₁ x (by simp)) hx ((h.append h₁').sound h0) ((h.append h₁).regular h0), ?_⟩
    rw [onThread_snoc_ne hx, htrail]
  | @right log₁ log₂ x' hx _ ih =>
    obtain ⟨h₂', ha, rfl⟩ := h₂.last
    obtain ⟨halike, htrail⟩ := ih h₁ h₂' hc₁ (fun y hy => hc₂ y (List.mem_append_left _ hy))
      (hagree.earlier (.refl _) (Step.later ha))
    have hspared := Step.spared halike.symm ha (hc₂ x' (by simp)) hx ((h.append h₂').sound h0)
      ((h.append h₂).regular h0)
    refine ⟨hspared.symm, ?_⟩
    rw [onThread_snoc_ne hx, htrail]
  | @both log₁ log₂ x x' hx hx' hr _ ih =>
    obtain ⟨h₁', ha₁, rfl⟩ := h₁.last
    obtain ⟨h₂', ha₂, rfl⟩ := h₂.last
    have hbefore := hagree.earlier (Step.later ha₁) (Step.later ha₂)
    obtain ⟨halike, htrail⟩ := ih h₁' h₂' (fun y hy => hc₁ y (List.mem_append_left _ hy))
      (fun y hy => hc₂ y (List.mem_append_left _ hy)) hbefore
    have hrun₁ := h.append h₁'
    have hrun₂ := h.append h₂'
    subst hx
    obtain ⟨hanswer, hafter⟩ := Step.echo halike hx' hr ha₁ ha₂ (hc₁ x (by simp)) (hrun₁.sound h0)
      (hrun₂.sound h0) (hrun₁.inStep h0) (hrun₂.inStep h0) (hrun₂.isFound_eq.trans hrun₁.isFound_eq.symm) hbefore
    refine ⟨hafter.rebase, ?_⟩
    have hmoved : x'.moved = x.moved := by
      funext c
      have hc := hafter.counters c
      unfold Step.moved
      omega
    rw [onThread_snoc_eq rfl, onThread_snoc_eq hx', htrail, Step.trail, Step.trail, hx', hanswer, hmoved]

/-! ## All threads together -/

/-- What two orders of the same commands come to. -/
structure Session.Confluent (s s' : Session) : Prop where
  ids : s'.forest.ids.Perm s.forest.ids
  /-- Nodes with the same id agree in all that they hold, be it their own or of their children. -/
  node : ∀ n < s.forest.size, ∀ n' < s'.forest.size, s'.forest.idOf n' = s.forest.idOf n →
    s'.forest.portrait n' = s.forest.portrait n
  path : ∀ t, (s'.paths.get t).stack.map s'.forest.idOf = (s.paths.get t).stack.map s.forest.idOf
  counters : ∀ c, s'.metrics.read c = s.metrics.read c
  archive : (s'.archive.roots.map s'.forest.idOf).Perm (s.archive.roots.map s.forest.idOf)
  order : ∀ t, s'.archivedOf t = s.archivedOf t

/-- Lists that have the same under every key, in the same order, have the same in some order. -/
theorem perm_of_filters {α κ : Type} [DecidableEq κ] (key : α → κ) {l l' : List α}
    (h : ∀ k, l'.filter (key · = k) = l.filter (key · = k)) : l'.Perm l := by
  classical
  rw [List.perm_iff_count]
  intro a
  have hcount : ∀ l : List α, l.count a = (l.filter (key · = key a)).count a := by
    intro l
    rw [List.count_filter]
    simp
  rw [hcount l', hcount l, h]

/-- The counters after a run are what the steps add up to. -/
theorem Run.counters {s s' : Session} {log : List Step} (h : Run s s' log) (c : Counter) :
    (s'.metrics.read c : Int) = s.metrics.read c + (log.map (·.moved c)).sum := by
  induction h with
  | nil => simp
  | @step s₁ log t c' _ _ ih =>
    have hmoved : (⟨s₁, t, c'⟩ : Step).moved c = (s₁.perform t c').2.metrics.read c - s₁.metrics.read c := rfl
    rw [List.map_append, List.sum_append, List.map_singleton, List.sum_singleton]
    omega

theorem Session.confluent {s s' : Session} (hr : s.forest.Regular) (hr' : s'.forest.Regular)
    (h : ∀ t, s.Alike t s.metrics s'.metrics s') (hc : ∀ c, s'.metrics.read c = s.metrics.read c) :
    s.Confluent s' := by
  have hids : ∀ id, id ∈ s'.forest.ids ↔ id ∈ s.forest.ids := by
    intro id
    constructor
    · intro hid
      obtain ⟨n', hn', rfl⟩ := Forest.mem_ids hid
      obtain ⟨n, hn, e⟩ := (h (s'.forest.get n').owner).forest.there n' hn' rfl
      exact Forest.idOf_eq_of_portrait e ▸ Forest.idOf_mem_ids hn
    · intro hid
      obtain ⟨n, hn, rfl⟩ := Forest.mem_ids hid
      obtain ⟨n', hn', e⟩ := (h (s.forest.get n).owner).forest.here n hn rfl
      exact Forest.idOf_eq_of_portrait e ▸ Forest.idOf_mem_ids hn'
  have hroots : ∀ (s : Session) t, ((s.archive.roots.map fun r => ((s.forest.get r).owner, s.forest.idOf r)).filter
      fun p => p.1 = t) = (s.archivedOf t).map (t, ·) := by
    intro s t
    unfold archivedOf
    rw [List.filter_map, List.map_map]
    refine List.map_congr_left fun r hr => ?_
    exact Prod.ext (by simpa using (List.mem_filter.1 hr).2) rfl
  have harchive : (s'.archive.roots.map fun r => ((s'.forest.get r).owner, s'.forest.idOf r)).Perm
      (s.archive.roots.map fun r => ((s.forest.get r).owner, s.forest.idOf r)) :=
    perm_of_filters Prod.fst fun t => by rw [hroots, hroots, (h t).archive]
  refine ⟨(List.perm_ext_iff_of_nodup hr'.nodup_ids hr.nodup_ids).2 hids, ?_, fun t => (h t).path, hc, ?_,
    fun t => (h t).archive⟩
  · intro n hn n' hn' hid
    exact ((h (s.forest.get n).owner).forest.twin hn hn' hid rfl).portrait
  · have hperm := harchive.map Prod.snd
    rw [List.map_map, List.map_map] at hperm
    exact hperm

/-- Births show in what was asked, thread by thread. -/
theorem mem_births_of_requests {log log' : List Step}
    (h : SameRequests log log') {b : Birth}
    (hb : b ∈ log.flatMap Step.births) : b ∈ log'.flatMap Step.births := by
  obtain ⟨x, hx, hb⟩ := List.mem_flatMap.1 hb
  have hrequest : x.request ∈ onThread Step.request x.thread log :=
    List.mem_map_of_mem (List.mem_filter.2 ⟨hx, by simp⟩)
  rw [← h] at hrequest
  obtain ⟨x', hx', hr⟩ := List.mem_map.1 hrequest
  obtain ⟨hx', ht⟩ := List.mem_filter.1 hx'
  refine List.mem_flatMap.2 ⟨x', hx', ?_⟩
  rw [Step.births_eq (of_decide_eq_true ht) hr]
  exact hb

/-- Runs that go on from the same session, and in which each thread asks for the same, come to the same,
whatever the order of the steps of different threads, and every command is answered alike. -/
theorem Run.confined {s₀ s s₁ s₂ : Session} {log log₁ log₂ : List Step} (h : Run s₀ s log) (h0 : s₀.IsNew)
    (h₁ : Run s s₁ log₁) (h₂ : Run s s₂ log₂) (hc₁ : ∀ x ∈ log₁, x.IsConfined) (hc₂ : ∀ x ∈ log₂, x.IsConfined)
    (hsame : SameRequests log₁ log₂) :
    s₁.Confluent s₂ ∧ ∀ t, onThread Step.answer t log₂ = onThread Step.answer t log₁ := by
  have hrun₁ := h.append h₁
  have hrun₂ := h.append h₂
  have hagree : s₁.forest.Agree s₂.forest := by
    refine (hrun₁.registered h0).agree (hrun₂.registered h0) ?_ (hrun₂.regular h0).distinct
    intro b hb
    rw [List.flatMap_append, List.mem_append] at hb ⊢
    exact hb.imp_right (mem_births_of_requests hsame)
  have halike := fun t => (Aligned.of_requests (hsame t)).alike h h0 h₁ h₂ hc₁ hc₂ hagree
  have htrails : (log₂.map Step.trail).Perm (log₁.map Step.trail) := by
    refine perm_of_filters Prod.fst fun t => ?_
    rw [List.filter_map, List.filter_map]
    exact (halike t).2
  refine ⟨Session.confluent (hrun₁.regular h0) (hrun₂.regular h0) (fun t => (halike t).1) ?_, ?_⟩
  · intro c
    have hmoved := (htrails.map fun x => x.2.2 c).sum_eq
    rw [List.map_map, List.map_map] at hmoved
    have hcounters₁ := h₁.counters c
    have hcounters₂ := h₂.counters c
    have hsum : (log₂.map (·.moved c)).sum = (log₁.map (·.moved c)).sum := hmoved
    omega
  · intro t
    have hanswers := congrArg (List.map fun x => x.2.1) (halike t).2
    unfold onThread at hanswers ⊢
    rw [List.map_map, List.map_map] at hanswers
    exact hanswers

/-- Two threads have a tracer each, and know the tracer of the other. -/
def bothCreated : List (Thread × Command) :=
  let incoming := Details.incomingRemoteCall ⟨"method", "service", "endpoint", none, none⟩
  [(⟨"a"⟩, .create (.ofNat 1) incoming), (⟨"b"⟩, .create (.ofNat 2) incoming)]

/-- What each of the threads goes on to do, one after the other. Each of them also tries to use the tracer
of the other one. -/
def oneByOne : List (Thread × Command) :=
  let outgoing := Details.outgoingWebRequest ⟨"url", "GET", [], [], none⟩
  [(⟨"a"⟩, .start 0), (⟨"a"⟩, .create (.ofNat 3) outgoing), (⟨"a"⟩, .start 2), (⟨"a"⟩, .outgoingTag 2 .bytes),
    (⟨"a"⟩, .markFailed 2 "class" "message"), (⟨"a"⟩, .endTracer 1), (⟨"a"⟩, .endTracer 0), (⟨"a"⟩, .endTracer 2),
    (⟨"a"⟩, .endTracer 0), (⟨"a"⟩, .drop 0),
    (⟨"b"⟩, .setIncomingTag 1 (.bytes [7])), (⟨"b"⟩, .start 1), (⟨"b"⟩, .addAttribute "key" (.string "value")),
    (⟨"b"⟩, .create (.ofNat 4) outgoing), (⟨"b"⟩, .update 3 (.statusCode 200)), (⟨"b"⟩, .drop 3),
    (⟨"b"⟩, .endTracer 1)]

/-- The same in another order, with the new tracers at other positions. -/
def inTurns : List (Thread × Command) :=
  let outgoing := Details.outgoingWebRequest ⟨"url", "GET", [], [], none⟩
  [(⟨"b"⟩, .setIncomingTag 1 (.bytes [7])), (⟨"a"⟩, .start 0), (⟨"b"⟩, .start 1),
    (⟨"b"⟩, .addAttribute "key" (.string "value")), (⟨"b"⟩, .create (.ofNat 4) outgoing),
    (⟨"a"⟩, .create (.ofNat 3) outgoing), (⟨"a"⟩, .start 3), (⟨"b"⟩, .update 2 (.statusCode 200)),
    (⟨"a"⟩, .outgoingTag 3 .bytes), (⟨"b"⟩, .drop 2), (⟨"b"⟩, .endTracer 1), (⟨"a"⟩, .markFailed 3 "class" "message"),
    (⟨"a"⟩, .endTracer 1), (⟨"a"⟩, .endTracer 0), (⟨"a"⟩, .endTracer 3), (⟨"a"⟩, .endTracer 0), (⟨"a"⟩, .drop 0)]

theorem confined_inTurns :
    let s : Session := Session.played { name := "session", agent := .recording {} } bothCreated
    ((s.played oneByOne).Confluent (s.played inTurns) ∧
      ∀ t, onThread Step.answer t (s.play inTurns) = onThread Step.answer t (s.play oneByOne)) ∧
      ((s.played oneByOne).archive.roots, (s.played inTurns).archive.roots,
        (s.played inTurns).metrics.usageErrors) = ([0, 1], [1, 0], 2) := by
  intro s
  have hnew : Session.IsNew { name := "session", agent := .recording {} } := by
    refine ⟨rfl, rfl, rfl, rfl, ?_⟩
    rintro r ⟨⟩
    exact ⟨rfl, rfl, rfl⟩
  have hstart : Run { name := "session", agent := .recording {} } { name := "session", agent := .recording {} } [] :=
    .nil
  have hrun := hstart.played bothCreated (by decide +kernel)
  have hgoOn : Run s s [] := .nil
  have hone := hgoOn.played oneByOne (by decide +kernel)
  have hturns := hgoOn.played inTurns (by decide +kernel)
  refine ⟨Run.confined hrun hnew hone hturns ?_ ?_ ?_, ?_⟩
  · decide +kernel
  · decide +kernel
  · decide +kernel
  · decide +kernel

end CallPath
