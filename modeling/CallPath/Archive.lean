import CallPath.Forest.Traversal
/-!
# Archives of completed paths

An archive keeps the trees of completed paths by their roots, in the order of completion. Its
nodes are those of its trees, tree by tree and each tree depth first.
-/

namespace CallPath

/-- Completed trees. -/
structure Archive where
  /-- The roots, in the order of completion. -/
  roots : List NodeRef := []
  deriving DecidableEq, Repr

namespace Archive

/-- The archive with one more tree. -/
def append (a : Archive) (root : NodeRef) : Archive :=
  ⟨a.roots ++ [root]⟩

/-- The number of trees. -/
def length (a : Archive) : Nat :=
  a.roots.length

/-- Whether there are no trees. -/
def isEmpty (a : Archive) : Bool :=
  a.roots.isEmpty

/-- Every archived node: each root followed by what is nested in it. -/
def nodes (a : Archive) (f : Forest) : List NodeRef :=
  a.roots.flatMap f.preorder

/-- The first archived node with an id. -/
def find? (a : Archive) (f : Forest) (id : TracerId) : Option NodeRef :=
  (a.nodes f).find? fun n => f.idOf n = id

/-- Copies of the trees. -/
def snapshots (a : Archive) (f : Forest) : List Snapshot :=
  a.roots.map f.snapshot

/-- The trees as JSON. -/
def toJson (a : Archive) (f : Forest) : Json :=
  .array (a.roots.map fun n => (f.snapshot n).toJson)

end Archive

end CallPath
