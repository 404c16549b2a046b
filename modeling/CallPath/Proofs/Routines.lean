import CallPath.Proofs.Scopes
/-!
# Programs made of scopes

A program that uses tracers in scopes only is a tree of blocks (`Routine`). What comes of each block
(`Routine.outcome`) and which trees its blocks form (`Routine.trees`) can be read off the program
alone, down to the times, since a block takes three: one each when its tracer is created, started and
ended. Running it adds the nodes of these trees and nothing else (`Routine.run_grows`), and the
archive shows the trees (`Routine.traced`).
-/

namespace CallPath

/-! ## Programs -/

/-- A program that uses tracers in scopes only. It finishes, or it runs another such program inside
a new tracer and goes on by what comes of it. It goes on as it likes: an error may be ignored or lead
to an error of its own, and an interruption that nobody stops goes on as an interruption. -/
inductive Routine where
  | finish (outcome : Outcome Unit)
  | block (id : TracerId) (details : Details) (body : Routine) (next : ScopeResult Unit → Routine)

namespace Routine

/-- Runs a program on a thread. -/
def run (t : Thread) : Routine → Session → Outcome Unit × Session
  | finish outcome, s => (outcome, s)
  | block id details body next, s =>
    let (n, s) := s.create t id details
    let (result, s) := s.runScoped t n (body.run t)
    (next result).run t (s.drop t n)

/-- How the program comes to its end. -/
def outcome : Routine → Outcome Unit
  | finish outcome => outcome
  | block _ _ body next => (next body.outcome.result).outcome

/-- The number of blocks that are entered. -/
def count : Routine → Nat
  | finish _ => 0
  | block _ _ body next => body.count + (next body.outcome.result).count + 1

/-- The trees of the blocks that are entered, the first of them at the given time. -/
def trees : Routine → Time → List Snapshot
  | finish _, _ => []
  | block id details body next, now =>
    .node {
      id
      state := .ended
      details
      error := body.outcome.error
      incomingTag := details.linkTarget
      isResolved := false
      attributes := []
      createdAt := now
      startedAt := some (now + 1)
      endedAt := some (now + 2 + 3 * body.count)
      tagLinked := [] } (body.trees (now + 2)) :: (next body.outcome.result).trees (now + 3 + 3 * body.count)

/-- The classes of the errors that blocks end with are not blank. -/
def Named : Routine → Prop
  | finish _ => True
  | block _ _ body next => body.outcome.Named ∧ body.Named ∧ (next body.outcome.result).Named

/-- The outermost blocks may be the first of a path. -/
def Grounded : Routine → Prop
  | finish _ => True
  | block _ details body next => details.kind.isEntrypoint = true ∧ (next body.outcome.result).Grounded

instance decidableNamed : ∀ p : Routine, Decidable p.Named
  | finish _ => isTrue trivial
  | block _ _ body next =>
    have := decidableNamed body
    have := decidableNamed (next body.outcome.result)
    inferInstanceAs (Decidable (_ ∧ _ ∧ _))

instance decidableGrounded : ∀ p : Routine, Decidable p.Grounded
  | finish _ => isTrue trivial
  | block _ _ body next =>
    have := decidableGrounded (next body.outcome.result)
    inferInstanceAs (Decidable (_ ∧ _))

/-! ### The nodes that a program adds -/

/-- The nodes of the outermost blocks, if the first node is at `a`. -/
def roots : Routine → NodeRef → List NodeRef
  | finish _, _ => []
  | block _ _ body next, a => a :: (next body.outcome.result).roots (a + 1 + body.count)

/-- The nodes of all blocks, if the first is at `a` and is entered at the given time. -/
def nodes (t : Thread) : Routine → NodeRef → Time → List Node
  | finish _, _, _ => []
  | block id details body next, a, now =>
    .ofBlock t id details body.outcome (body.roots (a + 1)) now (now + 2 + 3 * body.count) ::
      (body.nodes t (a + 1) (now + 2) ++
        (next body.outcome.result).nodes t (a + 1 + body.count) (now + 3 + 3 * body.count))

theorem length_nodes (p : Routine) (t : Thread) (a : NodeRef) (now : Time) : (p.nodes t a now).length = p.count := by
  induction p generalizing a now with
  | finish _ => rfl
  | block id details body next ihbody ihnext => simp [nodes, count, ihbody, ihnext]

variable {s : Session} {t : Thread}

/-- A forest with these nodes shows the trees of the program. -/
theorem snapshots (p : Routine) {f : Forest} {a : NodeRef} {now : Time} (h : f.Has a (p.nodes t a now)) {d : Nat}
    (hd : p.count ≤ d) : (p.roots a).map (f.snapshotTo d) = p.trees now := by
  induction p generalizing a now d with
  | finish _ => rfl
  | block id details body next ihbody ihnext =>
    simp only [count] at hd
    obtain ⟨d, rfl⟩ : ∃ e, d = e + 1 := ⟨d - 1, by omega⟩
    obtain ⟨hnode, hrest⟩ := h
    obtain ⟨hbody, hnext⟩ := Forest.has_append.1 hrest
    rw [length_nodes] at hnext
    have hchildren : (f.get a).childRefs = body.roots (a + 1) := by
      rw [hnode]
      simp [Node.ofBlock, Node.childRefs, List.filter_map, Function.comp_def]
    rw [roots, trees, List.map_cons, ihnext _ hnext (by omega), Forest.snapshotTo, hchildren, ihbody hbody (by omega),
      Forest.copyNode, hnode]
    simp [Node.ofBlock, Node.isResolved, Node.tagLinkedRefs, List.filter_map, Function.comp_def,
      TagReceipt.id?_elim]

end Routine

end CallPath
