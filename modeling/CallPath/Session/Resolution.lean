import CallPath.Session
/-!
# Resolution of tags

A resolution pass goes through the archived nodes that were given a tag and are not resolved yet.
A node whose tag carries the id of an archived node is linked below that node; the others stay
unresolved, among them those whose tag carries no id. Since resolved nodes are skipped, no pass
links a node twice.
-/

namespace CallPath

/-- The nodes a pass linked and those it could not. -/
structure Resolution where
  linked : List NodeRef := []
  unresolved : List NodeRef := []
  deriving DecidableEq, Repr

/-- Whether the pass left nothing unresolved. -/
def Resolution.isComplete (r : Resolution) : Bool :=
  r.unresolved.isEmpty

namespace Forest

/-- The last of the nodes with the id that a node's tag carries. -/
def producerAmong (f : Forest) (nodes : List NodeRef) (n : NodeRef) : Option NodeRef :=
  (f.get n).receipt.id?.bind fun id => nodes.reverse.find? fun p => f.idOf p = id

/-- One step of a pass over `nodes`. -/
def resolveStep (nodes : List NodeRef) (state : Resolution × Forest) (n : NodeRef) :
    Resolution × Forest :=
  let (r, f) := state
  let node := f.get n
  if !node.receipt.isPresent || node.isResolved then (r, f)
  else
    match f.producerAmong nodes n with
    | some p => ({ r with linked := r.linked ++ [n] }, f.resolve n p)
    | none => ({ r with unresolved := r.unresolved ++ [n] }, f)

/-- A pass over the trees of an archive. -/
def resolvePass (f : Forest) (archive : Archive) : Resolution × Forest :=
  let nodes := archive.nodes f
  nodes.foldl (resolveStep nodes) ({}, f)

end Forest

namespace Session

/-- Links what can be linked, and says which nodes are left unresolved. -/
def resolvePending (s : Session) : List NodeRef × Session :=
  let (r, forest) := s.forest.resolvePass s.archive
  (r.unresolved, { s with forest })

/-- Reports a node that is left unresolved. -/
def warnUnresolved (s : Session) (n : NodeRef) : Session :=
  let label := s.forest.label n
  (s.log (.tagUnmatched label)).warn ("Unresolved incoming tag on " ++ label)

/-- A pass that is counted and logged and, if asked for, reports what is left unresolved. -/
def resolve (s : Session) (warnOfUnresolved : Bool) : Resolution × Session :=
  let (r, forest) := s.forest.resolvePass s.archive
  let s := { s with
    forest
    metrics := s.metrics.recordResolution r.linked.length r.unresolved.length
    events := s.events ++ [.resolutionPass r.linked.length r.unresolved.length] }
  (r, if warnOfUnresolved then r.unresolved.foldl warnUnresolved s else s)

end Session

end CallPath
