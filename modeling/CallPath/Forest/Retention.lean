import CallPath.Forest
/-!
# Which nodes are kept

A node is kept while something holds it: an application, a path, an archive, or a node that is
itself kept and has it among its children. Of its producer a node only keeps a reference that does
not hold, so that a link to the producer is seen only as long as something else keeps it.
-/

namespace CallPath.Forest

/-- Whether a node is one of the roots or a child of one of the given nodes. -/
def isHeldBy (f : Forest) (roots : List NodeRef) (holders : List NodeRef) (n : NodeRef) : Bool :=
  roots.contains n || holders.any fun m => (f.get m).children.any fun c => c.2 = n

/-- Drops nodes that nothing holds, as often as given or until all are held. -/
def dropUnheld (f : Forest) (roots : List NodeRef) :
    (rounds : Nat) → List NodeRef → List NodeRef
  | 0, kept => kept
  | rounds + 1, kept =>
    let next := kept.filter (f.isHeldBy roots kept)
    if next.length = kept.length then kept else dropUnheld f roots rounds next

/-- The nodes that are kept if the roots are held from outside. -/
def kept (f : Forest) (roots : List NodeRef) : List NodeRef :=
  f.dropUnheld roots f.size (List.range f.size)

/-- The producer of a node, if it is still kept. -/
def linkedParent? (f : Forest) (roots : List NodeRef) (n : NodeRef) : Option NodeRef :=
  (f.get n).producer.filter fun p => roots.contains p || (f.kept roots).contains p

end CallPath.Forest
