import CallPath.Proofs.Accounting
import CallPath.Proofs.SharedPaths
/-!
# Leaks

A tracer that runs and is held by nobody can neither be ended nor be let go again. These are exactly the
tracers that were let go while they were running (`Run.mem_droppedRunning`): a command starts and ends
nothing but the tracer it is about, which is held (`Step.Moves`).

The counter of leaks only sees those that were let go on their own thread. With the others added it accounts for
every tracer that was started (`Run.leaksCounted`); without them it falls short by their number.
-/

namespace CallPath

/-! ## How a command moves a path -/

/-- A command leaves the path of its thread alone, or pushes a tracer, or pops the one that it is about. -/
inductive Step.Moves (x : Step) : Prop
  | still (h : x.after.paths = x.before.paths)
  | pushed (n : NodeRef) (hc : x.command = .start n) (hst : (x.before.forest.get n).state = .created)
      (h : x.after = x.before.begun x.thread n)
  | popped (n : NodeRef) (rest : List NodeRef) (hc : n ∈ x.command.target?) (hd : x.command.dropped? = none)
      (hr : (x.before.paths.get x.thread).stack = n :: rest)
      (h : x.after.paths = x.before.paths.set x.thread ⟨rest⟩)

namespace Session

variable {s : Session} {t : Thread} {n : NodeRef}

theorem endTracer_paths (s : Session) (t : Thread) (n : NodeRef) : (s.endTracer t n).2.paths = s.paths ∨
    ∃ rest, (s.paths.get t).stack = n :: rest ∧ (s.endTracer t n).2.paths = s.paths.set t ⟨rest⟩ := by
  rcases s.endTracer_cases t n with ⟨e, h⟩ | ⟨-, -, h⟩ | ⟨-, -, h⟩ | ⟨-, -, -, rest, hr, h⟩ <;> rw [h]
  · exact .inl rfl
  · exact .inl rfl
  · exact .inl rfl
  · refine .inr ⟨rest, hr, ?_⟩
    dsimp only
    split
    · rename_i e
      rw [(completePath_same _ n).2.1, e]
      rfl
    · rfl

/-- A scope only touches the path when it ends its tracer. -/
theorem leave_paths {α : Type} (s : Session) (t : Thread) (n : NodeRef) (outcome : Outcome α) :
    ∃ u : Session, u.paths = s.paths ∧ (s.leave t n outcome).2.paths = (u.endTracer t n).2.paths := by
  have failing : ∀ u : Session, (u.endAfterFailure t n).paths = (u.endTracer t n).2.paths := fun u => by
    unfold endAfterFailure
    split <;> rename_i h <;> rw [h]
    rfl
  cases outcome with
  | returned value =>
    refine ⟨s, rfl, ?_⟩
    unfold leave
    dsimp only
    split <;> rename_i h <;> rw [h]
  | failed failure => exact ⟨s.attach t n failure, attach_paths failure, failing _⟩
  | interrupted text => exact ⟨s.attach t n (interruption text), attach_paths _, failing _⟩

theorem addAttribute_paths (s : Session) (t : Thread) (key : String) (value : AttributeValue) :
    (s.addAttribute t key value).2.paths = s.paths := by
  rcases s.addAttribute_cases t key value with ⟨e, h⟩ | ⟨-, n, -, h⟩ | ⟨-, -, m, h⟩ <;> rw [h] <;> rfl

theorem addEach_paths (pairs : List (String × AttributeValue)) : (s.addEach t pairs).2.paths = s.paths := by
  induction pairs generalizing s with
  | nil => rfl
  | cons p pairs ih =>
    have ha := addAttribute_paths s t p.1 p.2
    unfold addEach
    split
    · rename_i s' h
      rw [h] at ha
      exact ih.trans ha
    · exact ha

end Session

theorem Step.moves {x : Step} (h : x.before.Admits x.command) : x.Moves := by
  obtain ⟨s, t, c⟩ := x
  cases c with
  | start n =>
    rcases s.start_cases t n with ⟨e, h⟩ | ⟨-, hst, -, h⟩
    · exact .still (congrArg (fun y => y.2.paths) h)
    · exact .pushed n rfl hst (congrArg Prod.snd h)
  | endTracer n =>
    rcases s.endTracer_paths t n with h | ⟨rest, hr, h⟩
    · exact .still h
    · exact .popped n rest rfl rfl hr h
  | leave n outcome =>
    obtain ⟨u, hu, hleave⟩ := s.leave_paths t n outcome
    rcases u.endTracer_paths t n with h | ⟨rest, hr, h⟩ <;> rw [hu] at h
    · exact .still (hleave.trans h)
    · rw [hu] at hr
      exact .popped n rest rfl rfl hr (hleave.trans h)
  | addAttribute key value => exact .still (s.addAttribute_paths t key value)
  | addAttributes keys values count => exact .still (Session.addEach_paths _)
  | createLink => exact .still rfl
  | _ => exact .still (Session.perform_paths rfl h)

/-! ## Tracers that run and are not held -/

/-- The tracer runs, and the program does not hold it any more. -/
def Session.IsLoose (s : Session) (n : NodeRef) : Prop :=
  (s.forest.get n).state = .started ∧ (s.forest.get n).held = false

theorem Session.Sound.started_iff {s : Session} (h : s.Sound) (n : NodeRef) :
    (s.forest.get n).state = .started ↔ ∃ t, n ∈ (s.paths.get t).stack :=
  ⟨fun hst => ⟨_, h.mem_of_started hst⟩, fun ⟨_, hn⟩ => h.started_of_mem hn⟩

theorem Step.sound {x : Step} (h : x.before.Admits x.command) (hs : x.before.Sound) : x.after.Sound :=
  (effects h).inv (fun _ _ _ => Effect.sound) hs

namespace Step

variable {x : Step} {n : NodeRef}

theorem mem_dropped {st : TracerState} :
    n ∈ x.dropped st ↔ x.command.dropped? = some n ∧ (x.before.forest.get n).state = st := by
  simp [dropped]

theorem nodup_dropped (x : Step) (st : TracerState) : (x.dropped st).Nodup := by
  unfold dropped
  cases x.command.dropped? with
  | none => exact List.nodup_nil
  | some n => exact (List.nodup_singleton n).filter _

/-- What a command is about was held. -/
theorem held_of_target (h : x.before.Admits x.command) (hn : n ∈ x.command.target?) :
    (x.before.forest.get n).held = true :=
  (h.1 n hn).2

theorem target_of_dropped (hn : x.command.dropped? = some n) : n ∈ x.command.target? := by
  obtain ⟨s, t, c⟩ := x
  cases c with
  | drop m => exact hn
  | _ => cases hn

/-- A tracer starts or ends running only by a command about it. To let it go is no such command. -/
theorem started_iff_of_other (h : x.before.Admits x.command) (hs : x.before.Sound)
    (hn : n ∈ x.command.target? → x.command.dropped? = some n) :
    (x.after.forest.get n).state = .started ↔ (x.before.forest.get n).state = .started := by
  rw [(sound h hs).started_iff, hs.started_iff]
  refine exists_congr fun t => ?_
  cases x.moves h with
  | still hp => rw [hp]
  | pushed m hc hst ha =>
    have hne : n ≠ m := fun e => by simp [hc, e, Command.target?, Command.dropped?] at hn
    simp [ha, Session.mem_stack_begun, hne]
  | popped m rest hc hd hr hp =>
    have hne : n ≠ m := fun e => by simp [hd, e, Option.mem_def.1 hc] at hn
    rw [hp, ThreadPaths.get_set]
    split
    · rename_i e
      simp [e, hr, hne]
    · rfl

theorem held_after (x : Step) (hn : n < x.before.forest.size) : (x.after.forest.get n).held = false ↔
    (x.before.forest.get n).held = false ∨ x.command.dropped? = some n := by
  rw [← Bool.not_eq_true, x.charged.held n hn, ← Bool.not_eq_true]
  simp [bill, Classical.or_iff_not_imp_left]

/-- A tracer gets loose by being let go while it runs, and stays so. -/
theorem isLoose_iff (h : x.before.Admits x.command) (hs : x.before.Sound) (n : NodeRef) :
    x.after.IsLoose n ↔ x.before.IsLoose n ∨ n ∈ x.dropped .started := by
  unfold Session.IsLoose
  rw [mem_dropped]
  by_cases hn : n ∈ x.command.target? → x.command.dropped? = some n
  · rw [started_iff_of_other h hs hn]
    by_cases hst : (x.before.forest.get n).state = .started
    · rw [held_after x (Forest.lt_size_of_state (by simp [hst]))]
      simp [hst]
    · simp [hst]
  · -- What the command is about was held before it, and is held after it.
    obtain ⟨htarget, hd⟩ := Classical.not_imp.1 hn
    have hheld := held_of_target h htarget
    have hafter := (held_after x (h.1 n htarget).1).not
    simp [hheld, hd] at hafter
    simp [hheld, hd, hafter]

end Step

variable {s₀ s : Session} {log : List Step}

/-- The loose tracers are those that were let go while they were running. -/
theorem Run.mem_droppedRunning (h : Run s₀ s log) (h0 : s₀.IsNew) (n : NodeRef) :
    n ∈ log.flatMap (·.dropped .started) ↔ s.IsLoose n := by
  induction h with
  | nil =>
    unfold Session.IsLoose
    rw [h0.get_forest]
    simp [Node.blank]
  | @step s log t c h hc ih =>
    rw [List.flatMap_append, List.flatMap_singleton, List.mem_append, ih]
    exact (Step.isLoose_iff (x := ⟨s, t, c⟩) hc (h.sound h0) n).symm

/-- No tracer is let go twice. -/
theorem Run.nodup_droppedRunning (h : Run s₀ s log) (h0 : s₀.IsNew) :
    (log.flatMap (·.dropped .started)).Nodup := by
  induction h with
  | nil => exact List.nodup_nil
  | @step s log t c h hc ih =>
    rw [List.flatMap_append, List.flatMap_singleton]
    refine ih.append (Step.nodup_dropped _ _) ?_
    -- What was let go before is not held any more, so it cannot be let go again.
    intro n hn hd
    have hheld := Step.held_of_target (x := ⟨s, t, c⟩) hc (Step.target_of_dropped (Step.mem_dropped.1 hd).1)
    have hloose := ((h.mem_droppedRunning h0 n).1 hn).2
    simp [hheld] at hloose

/-! ## What the counter shows -/

namespace Session

/-- What the counter of leaks shows, and what it would show if it saw every running tracer that is let go. -/
structure LeaksCounted (s : Session) (log : List Step) : Prop where
  /-- It counts the running tracers that were let go on their own thread. -/
  leaked : s.metrics.leaked = (log.flatMap fun x => (x.dropped .started).filter x.isHome).length
  /-- That is all of them if none was let go on another thread, and only then. -/
  leaked_iff : s.metrics.leaked = (log.flatMap (·.dropped .started)).length ↔
    ∀ x ∈ log, ∀ n ∈ x.dropped .started, x.isHome n = true
  /-- Of the tracers that were started some have ended, some were let go and some are still held. -/
  started : s.metrics.started =
    ((List.range s.forest.size).countP fun n => wasRunning log n && (s.forest.get n).state = .ended) +
      (log.flatMap (·.dropped .started)).length + s.forest.count fun m => m.state = .started && m.held
  started_iff : s.metrics.started =
    ((List.range s.forest.size).countP fun n => wasRunning log n && (s.forest.get n).state = .ended) +
      s.metrics.leaked + (s.forest.count fun m => m.state = .started && m.held) ↔
    ∀ x ∈ log, ∀ n ∈ x.dropped .started, x.isHome n = true

end Session

theorem Run.leaked_eq (h : Run s₀ s log) (h0 : s₀.IsNew) :
    s.metrics.leaked = (log.flatMap fun x => (x.dropped .started).filter x.isHome).length := by
  induction h with
  | nil =>
    rw [h0.metrics]
    rfl
  | @step s log t c _ _ ih =>
    rw [List.flatMap_append, List.flatMap_singleton, List.length_append, ← ih]
    exact (Step.charged ⟨s, t, c⟩).leaked

/-- What has ended after it was running, and what is running still. -/
theorem Run.started_split (h : Run s₀ s log) (h0 : s₀.IsNew) : s.metrics.started =
    ((List.range s.forest.size).countP fun n => wasRunning log n && (s.forest.get n).state = .ended) +
      s.forest.count (·.state = .started) := by
  have hs := h.sound h0
  have hended : ((List.range s.forest.size).countP fun n => wasRunning log n && (s.forest.get n).state = .ended) =
      s.forest.count fun m => m.hasStartTime && m.state = .ended := by
    refine List.countP_congr fun n _ => ?_
    rw [Bool.and_eq_true, Bool.and_eq_true, h.hasStartTime_iff h0]
    simp [wasRunning]
  have hrunning : s.forest.count (fun m => m.hasStartTime && !decide (m.state = .ended)) =
      s.forest.count (·.state = .started) := by
    refine List.countP_congr fun n _ => ?_
    have hbegun := hs.begun n
    have hfresh := hs.fresh n
    cases hst : (s.forest.get n).state <;> simp_all
  rw [hended, ← hrunning, (h.census h0).started]
  exact s.forest.count_split (·.hasStartTime) (·.state = .ended)

theorem Run.count_loose (h : Run s₀ s log) (h0 : s₀.IsNew) :
    s.forest.count (fun m => m.state = .started && !m.held) = (log.flatMap (·.dropped .started)).length := by
  refine Forest.count_eq_length (h.nodup_droppedRunning h0) fun n => ?_
  rw [h.mem_droppedRunning h0, Session.IsLoose]
  simp only [Bool.and_eq_true, decide_eq_true_eq, Bool.not_eq_true']
  exact ⟨fun hn => ⟨Forest.lt_size_of_state (by simp [hn.1]), hn⟩, And.right⟩

/-- A part of a list is as long as the whole only if it is the whole. -/
theorem length_flatMap_filter_eq_iff {α β : Type} (f : α → List β) (p : α → β → Bool) (l : List α) :
    (l.flatMap fun a => (f a).filter (p a)).length = (l.flatMap f).length ↔ ∀ a ∈ l, ∀ b ∈ f a, p a b = true := by
  have hsplit : (l.flatMap f).length = (l.flatMap fun a => (f a).filter (p a)).length +
      (l.flatMap fun a => (f a).filter (!p a ·)).length := by
    induction l with
    | nil => rfl
    | cons a l ih =>
      have ha := (f a).length_eq_length_filter_add (p a)
      simp only [List.flatMap_cons, List.length_append]
      omega
  rw [hsplit, Nat.left_eq_add, List.length_eq_zero_iff, List.flatMap_eq_nil_iff]
  simp only [List.filter_eq_nil_iff, Bool.not_eq_true', Bool.not_eq_false]

theorem Run.leaksCounted (h : Run s₀ s log) (h0 : s₀.IsNew) : s.LeaksCounted log := by
  have hleaked := h.leaked_eq h0
  have hall := length_flatMap_filter_eq_iff (fun x : Step => x.dropped .started) Step.isHome log
  have hstarted := h.started_split h0
  have hsplit := s.forest.count_split (·.state = .started) (·.held)
  rw [h.count_loose h0] at hsplit
  refine ⟨hleaked, ?_, ?_, ?_⟩
  · rw [hleaked]
    exact hall
  · omega
  · rw [← hall, ← hleaked]
    omega

/-- Of three tracers that run on one thread another thread lets go of one and the thread itself of one; a fourth
has ended. -/
def leakyProgram : List (Thread × Command) :=
  let service := Details.customService ⟨"method", "service"⟩
  [(⟨"a"⟩, .create (.ofNat 1) service), (⟨"a"⟩, .start 0), (⟨"a"⟩, .create (.ofNat 2) service), (⟨"a"⟩, .start 1),
    (⟨"a"⟩, .create (.ofNat 3) service), (⟨"a"⟩, .start 2), (⟨"b"⟩, .drop 1), (⟨"a"⟩, .drop 2),
    (⟨"b"⟩, .create (.ofNat 4) service), (⟨"b"⟩, .start 3), (⟨"b"⟩, .endTracer 3)]

theorem leaksCounted_leakyProgram :
    let s₀ : Session := { name := "session" }
    let s := s₀.played leakyProgram
    s.LeaksCounted (s₀.play leakyProgram) ∧ (s.metrics.started, s.metrics.leaked) = (4, 1) ∧
      (s₀.play leakyProgram).flatMap (·.dropped .started) = [1, 2] := by
  have hnew : Session.IsNew { name := "session" } := ⟨rfl, rfl, rfl, rfl, by rintro r ⟨⟩⟩
  have hstart : Run { name := "session" } { name := "session" } [] := .nil
  have hrun := hstart.played leakyProgram (by decide +kernel)
  exact ⟨Run.leaksCounted hrun hnew, by decide +kernel, by decide +kernel⟩

/-- Another thread lets go of the only tracer, which is running. -/
def abandonedProgram : List (Thread × Command) :=
  [(⟨"a"⟩, .create (.ofNat 1) (.customService ⟨"method", "service"⟩)), (⟨"a"⟩, .start 0), (⟨"b"⟩, .drop 0)]

/-- The counter need not show all running tracers that were let go, nor make up for what has not ended. -/
theorem leaked_ne_abandonedProgram :
    let s₀ : Session := { name := "session" }
    let s := s₀.played abandonedProgram
    let log := s₀.play abandonedProgram
    s₀.IsNew ∧ Run s₀ s log ∧ s.metrics.leaked ≠ (log.flatMap (·.dropped .started)).length ∧
      s.metrics.started ≠
        ((List.range s.forest.size).countP fun n => wasRunning log n && (s.forest.get n).state = .ended) +
          s.metrics.leaked + s.forest.count fun m => m.state = .started && m.held := by
  have hstart : Run { name := "session" } { name := "session" } [] := .nil
  refine ⟨⟨rfl, rfl, rfl, rfl, by rintro r ⟨⟩⟩, hstart.played abandonedProgram (by decide), ?_, ?_⟩
  · decide +kernel
  · decide +kernel

end CallPath
