import CallPath.Kind
import CallPath.Table
/-!
# Metrics

A session counts the transitions of its tracers, their misuse, the paths it completed and what
became of incoming tags. Counters are exported modulo 2^64.
-/

namespace CallPath

/-- The counters of a session. -/
structure Metrics where
  created : Nat := 0
  started : Nat := 0
  ended : Nat := 0
  failed : Nat := 0
  leaked : Nat := 0
  usageErrors : Nat := 0
  pathsCompleted : Nat := 0
  tagsResolved : Nat := 0
  tagsUnresolved : Nat := 0
  createdByKind : Table Kind Nat := {}
  deriving DecidableEq, Repr

namespace Metrics

/-- The number of tracers created of a kind. -/
def createdCount (m : Metrics) (k : Kind) : Nat :=
  (m.createdByKind.get? k).getD 0

/-- Counts a created tracer. -/
def recordCreated (m : Metrics) (k : Kind) : Metrics :=
  { m with
    created := m.created + 1
    createdByKind := m.createdByKind.insert k (m.createdCount k + 1) }

/-- Counts a started tracer. -/
def recordStarted (m : Metrics) : Metrics :=
  { m with started := m.started + 1 }

/-- Counts an ended tracer. -/
def recordEnded (m : Metrics) : Metrics :=
  { m with ended := m.ended + 1 }

/-- Counts a tracer that failed. -/
def recordFailed (m : Metrics) : Metrics :=
  { m with failed := m.failed + 1 }

/-- Counts a tracer that was dropped while running. -/
def recordLeaked (m : Metrics) : Metrics :=
  { m with leaked := m.leaked + 1 }

/-- Counts an operation that was refused. -/
def recordUsageError (m : Metrics) : Metrics :=
  { m with usageErrors := m.usageErrors + 1 }

/-- Counts a completed path. -/
def recordPathCompleted (m : Metrics) : Metrics :=
  { m with pathsCompleted := m.pathsCompleted + 1 }

/-- Counts the outcome of a resolution pass. -/
def recordResolution (m : Metrics) (linked unresolved : Nat) : Metrics :=
  { m with
    tagsResolved := m.tagsResolved + linked
    tagsUnresolved := m.tagsUnresolved + unresolved }

@[simp] theorem createdCount_recordCreated (m : Metrics) (k k' : Kind) :
    (m.recordCreated k).createdCount k' = m.createdCount k' + if k' = k then 1 else 0 := by
  simp only [createdCount, recordCreated, Table.get?_insert]
  split <;> simp_all

end Metrics

end CallPath
