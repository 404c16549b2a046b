import CallPath.Forest
import CallPath.Details.Json
/-!
# Walking a forest

Three walks start at a node. `preorder` lists the node and everything nested in it, `snapshot`
copies the same tree and names the nodes linked through tags, and `dump` draws the tree with both
kinds of links. A walk goes no deeper than there are nodes, which is no limit as long as the links
it follows form no cycle.
-/

namespace CallPath

namespace Forest

/-- The nodes nested in `n`, `n` first, down to the given depth. -/
def preorderTo (f : Forest) : (depth : Nat) → NodeRef → List NodeRef
  | 0, n => [n]
  | depth + 1, n => n :: (f.get n).childRefs.flatMap (preorderTo f depth)

/-- The node and everything nested in it, depth first. -/
def preorder (f : Forest) (n : NodeRef) : List NodeRef :=
  f.preorderTo f.size n

/-- How a dump shows the tag of a node: marked as long as it is unresolved. -/
def tagMark (n : Node) : String :=
  match n.receipt with
  | .absent => ""
  | .undecodable => ",I=!?"
  | .carries id => ",I=" ++ (if n.isResolved then "" else "!") ++ id.text

/-- The lines of a dump, down to the given depth. -/
def dumpTo (f : Forest) : (depth : Nat) → (indent : String) → NodeRef → List String
  | depth, indent, r =>
    let n := f.get r
    let head := indent ++ n.label ++ "(S=" ++ n.state.name ++ tagMark n ++ ")"
    let error := match n.error with
      | some e => [indent ++ " E=" ++ e.className ++ ": " ++ e.message]
      | none => []
    let below := match depth with
      | 0 => []
      | depth + 1 => n.children.flatMap fun (kind, c) =>
        (indent ++ " " ++ kind.name) :: dumpTo f depth (indent ++ "  ") c
    head :: error ++ below

/-- The tree at a node as text, for logs and for people. -/
def dump (f : Forest) (n : NodeRef) : String :=
  "\n".intercalate (f.dumpTo f.size "" n)

end Forest

/-- A copy of one node. -/
structure NodeCopy where
  id : TracerId
  state : TracerState
  details : Details
  error : Option ErrorInfo
  /-- The id that the tag carries. -/
  incomingTag : Option TracerId
  isResolved : Bool
  attributes : List (String × AttributeValue)
  createdAt : Time
  startedAt : Option Time
  endedAt : Option Time
  /-- The ids of the nodes linked through tags, which belong to other trees. -/
  tagLinked : List TracerId
  deriving DecidableEq, Repr

/-- A copy of a node and of everything nested in it. -/
inductive Snapshot where
  | node (copy : NodeCopy) (children : List Snapshot)

namespace Forest

/-- A copy of the node at a position. -/
def copyNode (f : Forest) (r : NodeRef) : NodeCopy :=
  let n := f.get r
  { id := n.id
    state := n.state
    details := n.details
    error := n.error
    incomingTag := n.receipt.id?
    isResolved := n.isResolved
    attributes := n.attributes
    createdAt := n.createdAt
    startedAt := n.startedAt
    endedAt := n.endedAt
    tagLinked := n.tagLinkedRefs.map f.idOf }

/-- The copy of a tree, down to the given depth. -/
def snapshotTo (f : Forest) : (depth : Nat) → NodeRef → Snapshot
  | 0, n => .node (f.copyNode n) []
  | depth + 1, n => .node (f.copyNode n) ((f.get n).childRefs.map (snapshotTo f depth))

/-- A copy of the tree at a node. -/
def snapshot (f : Forest) (n : NodeRef) : Snapshot :=
  f.snapshotTo f.size n

end Forest

namespace ErrorInfo

def toJson (e : ErrorInfo) : Json :=
  .object [("class", .string e.className), ("message", .string e.message)]

def ofJson? (v : Json) : Option ErrorInfo := do
  match ← Json.record? ["class", "message"] v with
  | [className, message] =>
    return {
      className := ← Json.required Json.text? className
      message := ← Json.required Json.text? message }
  | _ => none

end ErrorInfo

namespace Snapshot

/-- A time that is known, or null. -/
def timeMark (known : Bool) : Json :=
  if known then .bool true else .null

/-- The fields of a copied node, the details spread between its own fields. -/
def copyFields (c : NodeCopy) (children : List Json) : List (String × Json) :=
  [("id", c.id.toJson), ("state", .string c.state.key)] ++ c.details.toTaggedFields ++
  [("error", c.error.elim .null ErrorInfo.toJson),
    ("incoming_tag", c.incomingTag.elim .null TracerId.toJson),
    ("in_tag_resolved", .bool c.isResolved),
    ("attributes", .array (c.attributes.map fun (k, v) => .array [.string k, v.toJson])),
    ("created_at", timeMark true),
    ("started_at", timeMark c.startedAt.isSome),
    ("ended_at", timeMark c.endedAt.isSome),
    ("children", .array children),
    ("tag_linked", .array (c.tagLinked.map TracerId.toJson))]

mutual

/-- The tree as nested objects. -/
def toJson : Snapshot → Json
  | .node copy children => .object (copyFields copy (listToJson children))

/-- The trees of a list. -/
def listToJson : List Snapshot → List Json
  | [] => []
  | s :: rest => toJson s :: listToJson rest

end

mutual

/-- The ids of the tree, depth first. -/
def ids : Snapshot → List TracerId
  | .node copy children => copy.id :: listIds children

/-- The ids of the trees of a list, one after the other. -/
def listIds : List Snapshot → List TracerId
  | [] => []
  | s :: rest => ids s ++ listIds rest

end

end Snapshot

end CallPath
