import CallPath.Forest
import CallPath.Table
/-!
# Paths

A path is the stack of the tracers running on one thread, the innermost on top. Each tracer but
the outermost is a child of the one below it. A thread without running tracers has the empty path,
which is not stored.
-/

namespace CallPath

/-- The running tracers of a thread, innermost first. -/
structure Path where
  stack : List NodeRef := []
  deriving DecidableEq, Repr

namespace Path

/-- The innermost tracer. -/
def top? (p : Path) : Option NodeRef :=
  p.stack.head?

/-- The outermost tracer, the root of the tree under construction. -/
def root? (p : Path) : Option NodeRef :=
  p.stack.getLast?

/-- The number of running tracers. -/
def depth (p : Path) : Nat :=
  p.stack.length

/-- Puts a created tracer on top, as a child of the tracer that was there. Only an entrypoint can
be the first. -/
def push (p : Path) (f : Forest) (n : NodeRef) : Except UsageError (Forest × Path) := do
  let node := f.get n
  node.requireState .created
  match p.stack with
  | top :: _ => return (f.modify top fun t => t.link .child n, ⟨n :: p.stack⟩)
  | [] =>
    if node.kind.isEntrypoint then return (f, ⟨[n]⟩)
    else throw (.noActivePath node.label)

/-- Takes the tracer off the top, where it must be. Gives it back if the path is then empty, as
the root of a completed tree. -/
def pop (p : Path) (f : Forest) (n : NodeRef) : Except UsageError (Option NodeRef × Path) :=
  match p.stack with
  | [] => .error (.outOfOrderEnd (f.label n) "nothing")
  | top :: rest =>
    if top = n then .ok (if rest.isEmpty then some n else none, ⟨rest⟩)
    else .error (.outOfOrderEnd (f.label n) (f.label top))

end Path

/-- The paths of all threads. -/
structure ThreadPaths where
  table : Table Thread Path := {}
  deriving DecidableEq, Repr

namespace ThreadPaths

/-- The path of a thread. -/
def get (ps : ThreadPaths) (t : Thread) : Path :=
  (ps.table.get? t).getD {}

/-- Replaces the path of a thread; an empty path is not stored. -/
def set (ps : ThreadPaths) (t : Thread) (p : Path) : ThreadPaths :=
  ⟨if p.stack.isEmpty then ps.table.erase t else ps.table.insert t p⟩

/-- Whether the thread has a path. -/
def contains (ps : ThreadPaths) (t : Thread) : Bool :=
  (ps.table.get? t).isSome

/-- The tracers on the paths of all threads. -/
def refs (ps : ThreadPaths) : List NodeRef :=
  ps.table.values.flatMap Path.stack

@[simp] theorem get_set (ps : ThreadPaths) (t t' : Thread) (p : Path) :
    (ps.set t p).get t' = if t' = t then p else ps.get t' := by
  obtain ⟨stack⟩ := p
  cases stack <;> by_cases h : t' = t <;> simp [set, get, h]

end ThreadPaths

end CallPath
