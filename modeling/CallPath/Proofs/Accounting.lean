import CallPath.Proofs.Charges
/-!
# The metrics account for everything

Seven counters are moved by different operations, each after checks of its own. `Session.Counted` says
what each of them has to show, by the nodes as they are and by the log, and `Run.counted` that it does so
at every point of a run, whatever threads the commands came from.
-/

namespace CallPath

/-! ## Paths that emptied -/

/-- Only the path of the calling thread changes. -/
theorem Effect.get_paths {t u : Thread} {s s' : Session} {ms : List Mark} (he : Effect t s ms s') (hu : u ≠ t) :
    s'.paths.get u = s.paths.get u := by
  cases he with
  | begun n _ _ _ _ => rw [Session.get_paths_begun, if_neg hu]
  | unwound n rest _ _ _ _ _ => rw [Session.get_paths_unwound, if_neg hu]
  | completed n _ _ _ _ => rw [(Session.completePath_same _ n).2.1, Session.get_paths_unwound, if_neg hu]
  | _ => rfl

theorem Effects.get_paths {t u : Thread} {s s' : Session} {ms : List Mark} (h : Effects t s ms s') (hu : u ≠ t) :
    s'.paths.get u = s.paths.get u := by
  induction h with
  | nil => rfl
  | cons he _ ih => exact ih.trans (he.get_paths hu)

theorem Effect.settings_eq {t : Thread} {s s' : Session} {ms : List Mark} (he : Effect t s ms s') :
    s'.settings = s.settings := by
  cases he with
  | completed n => exact (Session.completePath_same (s.unwound t n []) n).2.2.1
  | _ => rfl

theorem Effect.unretained {t : Thread} {s s' : Session} {ms : List Mark} (he : Effect t s ms s')
    (hr : s.settings.retainCompletedPaths = false) (ha : s.archive = {}) : s'.archive = {} := by
  cases he with
  | completed n =>
    have hr' : (s.unwound t n []).settings.retainCompletedPaths = false := hr
    rw [(Session.completePath_same (s.unwound t n []) n).2.2.2.2, hr']
    exact ha
  | emptied => rfl
  | _ => exact ha

/-! ## Accounting -/

/-- The tracer was running at some point of the log. -/
def wasRunning (log : List Step) (n : NodeRef) : Bool :=
  log.any fun x => (x.after.forest.get n).state = .started

namespace Session

/-- What the counters of a session have to show after a log. -/
structure Counted (s : Session) (log : List Step) : Prop where
  created : s.metrics.created = (log.flatMap Step.births).length
  nodes : s.metrics.created = s.forest.size
  kinds : (Kind.all.map s.metrics.createdCount).sum = s.metrics.created
  ofKind : ∀ k, s.metrics.createdCount k = s.forest.count (·.kind = k)
  started : s.metrics.started = (List.range s.forest.size).countP (wasRunning log)
  failed : s.metrics.failed = s.forest.count (·.error.isSome)
  /-- A tracer ends because it is asked to, or because it is let go before it ever ran. -/
  ended : s.metrics.ended + (log.flatMap fun x => (x.dropped .created).filter x.isHome).length =
    s.forest.count (·.state = .ended)
  usageErrors : s.metrics.usageErrors = (log.flatMap Step.refusals).length
  /-- A path that empties is that of the calling thread: the others stay as they are. -/
  otherPaths : ∀ x ∈ log, ∀ t, t ≠ x.thread → x.after.paths.get t = x.before.paths.get t
  pathsCompleted : s.metrics.pathsCompleted = (log.flatMap Step.completed).length
  retained : s.settings.retainCompletedPaths = true →
    s.metrics.pathsCompleted = s.archive.length + (log.flatMap Step.drained).length
  unretained : s.settings.retainCompletedPaths = false → s.archive.isEmpty = true

end Session

variable {s₀ s : Session} {log : List Step}

theorem Run.settings_eq (h : Run s₀ s log) : s.settings = s₀.settings :=
  h.inv (I := fun s => s.settings = s₀.settings) (fun _ _ _ _ he hs => he.settings_eq.trans hs) rfl

theorem Run.started_eq (h : Run s₀ s log) (h0 : s₀.IsNew) :
    s.metrics.started = (List.range s.forest.size).countP (wasRunning log) := by
  rw [(h.census h0).started]
  refine List.countP_congr fun n _ => ?_
  rw [h.hasStartTime_iff h0]
  simp [wasRunning]

/-- The bills of a log pay for the refused calls and the tracers that were discarded. -/
theorem Run.billed (h : Run s₀ s log) (h0 : s₀.IsNew) :
    s.metrics.usageErrors = (log.flatMap Step.refusals).length ∧
      s.metrics.ended + (log.flatMap fun x => (x.dropped .created).filter x.isHome).length =
        s.forest.count (·.state = .ended) := by
  induction h with
  | nil =>
    rw [h0.metrics, h0.forest]
    exact ⟨rfl, rfl⟩
  | @step s log t c _ _ ih =>
    obtain ⟨herrors, hended⟩ := ih
    have hx := Step.charged ⟨s, t, c⟩
    simp only [List.flatMap_append, List.flatMap_singleton, List.length_append]
    refine ⟨?_, ?_⟩
    · rw [← herrors]
      exact hx.usageErrors
    · have hended' := hx.ended
      simp only [Step.bill, Step.after] at hended'
      omega

/-- Whatever was asked of a session, the metrics account for all of it. -/
theorem Run.counted (h : Run s₀ s log) (h0 : s₀.IsNew) (hc : ∀ x ∈ log, x.command ≠ .clearArchive) :
    s.Counted log := by
  have hcensus := h.census h0
  obtain ⟨herrors, hended⟩ := h.billed h0
  refine ⟨?_, hcensus.created, hcensus.kinds, hcensus.ofKind, h.started_eq h0, hcensus.failed, hended, herrors, ?_,
    h.pathsCompleted h0, ?_, ?_⟩
  · rw [hcensus.created, h.length_births h0]
  · intro x hx t ht
    exact (Step.effects (h.of_mem hx).2).get_paths ht
  · intro hr
    rw [h.settings_eq] at hr
    have harchive := (h.tally h0 hr hc).archive
    rw [h.pathsCompleted h0, ← harchive, List.length_append, Nat.add_comm]
    rfl
  · intro hr
    have hempty := h.inv (I := fun s => s.settings.retainCompletedPaths = false → s.archive = {})
      (fun _ _ _ _ he hs hr => he.unretained (he.settings_eq ▸ hr) (hs (he.settings_eq ▸ hr))) fun _ => h0.archive
    rw [hempty hr]
    rfl

/-- A scope whose operation fails and has left a tracer running, a trace that is refused, and three tracers
that are let go before they ever ran, one of them by another thread. -/
def countedProgram : List (Thread × Command) :=
  let service := Details.customService ⟨"method", "service"⟩
  let request : Operation := .incomingWebRequest ⟨"host", "application", "/"⟩ "url" "GET"
  [(⟨"a"⟩, .create (.ofNat 1) service), (⟨"a"⟩, .start 0), (⟨"a"⟩, .create (.ofNat 2) service), (⟨"a"⟩, .start 1),
    (⟨"a"⟩, .leave 0 (.failed ⟨"class", "text"⟩)), (⟨"a"⟩, .endTracer 1), (⟨"a"⟩, .endTracer 0), (⟨"a"⟩, .endTracer 0),
    (⟨"a"⟩, .start 0), (⟨"b"⟩, .drain),
    (⟨"b"⟩, .trace (.ofNat 3) request { headers := ⟨[("name", "value"), (" ", "value")]⟩ }),
    (⟨"b"⟩, .create (.ofNat 4) service), (⟨"b"⟩, .drop 3), (⟨"b"⟩, .create (.ofNat 5) service), (⟨"a"⟩, .drop 4),
    (⟨"b"⟩, .create (.ofNat 6) service), (⟨"b"⟩, .start 5), (⟨"b"⟩, .endTracer 5)]

theorem counted_countedProgram :
    let s₀ : Session := { name := "session" }
    let s := s₀.played countedProgram
    s.Counted (s₀.play countedProgram) ∧
      (s.metrics.created, s.metrics.started, s.metrics.failed, s.metrics.ended) = (6, 3, 1, 4) ∧
      s.forest.count (·.state = .ended) = 5 ∧
      ((s₀.play countedProgram).flatMap Step.refusals).map UsageError.name =
        ["UnendedChildren", "InvalidState", "InvalidArgument"] ∧
      (s.metrics.pathsCompleted, s.archive.roots) = (2, [5]) := by
  have hnew : Session.IsNew { name := "session" } := ⟨rfl, rfl, rfl, rfl, by rintro r ⟨⟩⟩
  have hstart : Run { name := "session" } { name := "session" } [] := .nil
  have hrun := hstart.played countedProgram (by decide +kernel)
  refine ⟨Run.counted hrun hnew ?_, by decide +kernel, by decide +kernel, by decide +kernel, by decide +kernel⟩
  simp [countedProgram, Session.play]

end CallPath
