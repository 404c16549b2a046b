import CallPath.Proofs.Blindness
/-!
# Refusals go unnoticed

A session keeps account of the calls it refused: it counts them, and it logs each. `quieted` is a
session without that account. No command looks at it: what it replies, and what the session is like
afterwards but for the account, is the same without (`perform_blind`).
-/

namespace CallPath

/-! ## Sessions -/

/-- Whether the event tells of a refused call. -/
def Event.isRefusal : Event → Bool
  | usageError .. => true
  | _ => false

/-- The counters but for the refused calls. -/
def Metrics.quieted (m : Metrics) : Metrics :=
  { m with usageErrors := 0 }

namespace Session

/-- The session without its account of refused calls. -/
def quieted (s : Session) : Session :=
  { s with metrics := s.metrics.quieted, events := s.events.filter fun e => !e.isRefusal }

@[simp] theorem forest_quieted (s : Session) : s.quieted.forest = s.forest := rfl

@[simp] theorem quieted_quieted (s : Session) : s.quieted.quieted = s.quieted := by
  simp [quieted, Metrics.quieted]

/-- Hides the account of refused calls. -/
def quietVeil : Veil where
  agent := id
  metrics := Metrics.quieted
  events es := es.filter fun e => !e.isRefusal
  agent_idem _ := rfl
  metrics_idem _ := rfl
  events_idem _ := by simp
  called _ _ := rfl
  reported _ _ := rfl
  logged _ _ := by simp
  created _ _ := rfl
  started _ := rfl
  ended _ := rfl
  failed _ := rfl
  leaked _ := rfl
  refused _ := rfl
  completed _ := rfl
  resolved _ _ _ := rfl

/-- No command notices that others were refused before it. -/
theorem perform_blind {t : Thread} (c : Command) : Blind quieted fun s => s.perform t c := by
  cases c with
  | outgoingTag n form =>
    have h := quietVeil.outgoingTag (g := id) t n form fun _ _ => rfl
    simp only [Except.map_id] at h
    exact h.map _
  | activateAgent options => exact fun s => Prod.ext rfl (by simp [perform, activateAgent, quieted, Metrics.quieted])
  | shutdownAgent => exact fun s => Prod.ext rfl (by simp [perform, shutdownAgent, quieted, Metrics.quieted])
  | setAgentState state => exact fun s => Prod.ext rfl (by simp [perform, quieted, Metrics.quieted])
  | _ => exact quietVeil.perform t rfl (by rintro _ _ ⟨⟩)

end Session

end CallPath
