import CallPath.Proofs.Actions
import CallPath.Proofs.Replay
import CallPath.Proofs.Scopes
import CallPath.Proofs.Stages
/-!
# How scopes end

What runs inside a scope is the program's own. It may end the tracer of the scope, or attach an error to it,
or leave other tracers running above it, and then it returns, fails or is interrupted. Whichever it is, the
tracer is ended if it is on top of its path then, and stays as it is if it is not; it gets the failure as its
error if it runs and has none; and what the caller is told depends on nothing else
(`Application.Reachable.scopeEnds`).
-/

namespace CallPath

/-! ## Starts and ends that were heard -/

/-- The second session is the first one, now or later. -/
structure Session.Since (s s' : Session) : Prop where
  sound : s'.Sound
  inStep : s'.InStep
  later : s.forest.Later s'.forest
  found : s'.agent.isFound = s.agent.isFound
  calls : s.agent.calls <+: s'.agent.calls

namespace Session.Since

variable {s s' s'' : Session}

theorem refl (hs : s.Sound) (hi : s.InStep) : s.Since s :=
  ⟨hs, hi, .refl _, rfl, List.prefix_refl _⟩

theorem effect (h : s.Since s') {t : Thread} {ms : List Mark} (he : Effect t s' ms s'') : s.Since s'' where
  sound := he.sound h.sound
  inStep := he.tells.inStep h.inStep
  later := h.later.trans he.later
  found := he.tells.isFound_eq.trans h.found
  calls := h.calls.trans he.tells.calls_prefix

theorem effects (h : s.Since s') {t : Thread} {ms : List Mark} (he : Effects t s' ms s'') : s.Since s'' :=
  he.inv (fun _ _ _ he h => h.effect he) h

theorem run (h : s.Since s') {log : List Step} (hrun : Run s' s'' log) : s.Since s'' :=
  hrun.inv (fun _ _ _ _ he h => h.effect he) h

end Session.Since

/-! ## Entering and leaving a scope -/

namespace Session

variable {α : Type} {s s' : Session} {t : Thread} {n : NodeRef} {o : Outcome α}

/-- A tracer of the thread runs and has no error so far. -/
structure Opened (s : Session) (t : Thread) (n : NodeRef) : Prop where
  lt : n < s.forest.size
  owner : (s.forest.get n).owner = t
  state : (s.forest.get n).state = .started
  error : (s.forest.get n).error = none
  since : s.Since s

theorem Sound.opened (h : s.Sound) (hi : s.InStep)
    (hfree : (s.forest.get n).state = .created → (s.forest.get n).error = none)
    (hstart : s.start t n = (.ok (), s')) : s'.Opened t n := by
  rcases s.start_cases t n with ⟨e, he⟩ | ⟨ho, hst, hk, hbegun⟩
  · cases he.symm.trans hstart
  · obtain rfl : s.begun t n = s' := congrArg Prod.snd (hbegun.symm.trans hstart)
    have hn : n < s.forest.size := Forest.lt_size_of_state (by simp [hst])
    have he : Effect t s [.begun n] (s.begun t n) := .begun n hn ho hst hk
    have hnode : (s.begun t n).forest.get n = (s.forest.get n).enter .started s.clock := by
      rw [get_begun h hst, if_pos rfl]
    exact {
      lt := Nat.lt_of_lt_of_le hn he.later.size
      owner := by rw [hnode]; exact ho
      state := by rw [hnode]; rfl
      error := by rw [hnode]; exact hfree hst
      since := .refl (he.sound h) (he.tells.inStep hi) }

variable {s₁ s₂ : Session}

end Session

/-! ## Arbitrary operations -/

namespace Application

/-- Runs an operation inside a tracer, where it may use all that the application has. -/
def runScoped {α : Type} (app : Application) (r : SessionRef) (t : Thread) (n : NodeRef)
    (operation : Application → Outcome α × Application) : ScopeResult α × Application :=
  match app.onSession r (·.start t n) with
  | (.error e, app) => (.refused e, app)
  | (.ok (), app) =>
    let (outcome, app) := operation app
    app.onSession r (·.leave t n outcome)

variable {α : Type} {app : Application} {r : SessionRef} {t : Thread} {n : NodeRef}

theorem set_set (app : Application) (r : SessionRef) (s s' : Session) : (app.set r s).set r s' = app.set r s' := by
  simp [set]

/-- An operation that keeps to the session of the tracer runs in a scope of this session. -/
theorem runScoped_onSession (hr : r < app.sessions.size) (t : Thread) (n : NodeRef)
    (operation : Session → Outcome α × Session) :
    app.runScoped r t n (·.onSession r operation) = app.onSession r (·.runScoped t n operation) := by
  have hget : ∀ s, (app.set r s).get r = s := fun s => (get_set app r r s hr).trans (if_pos rfl)
  unfold runScoped onSession Session.runScoped
  dsimp only
  cases (app.get r).start t n with
  | mk result s =>
    cases result with
    | error e => rfl
    | ok _ => simp only [hget, set_set]

end Application

end CallPath
