import CallPath.Forest.Retention
import CallPath.Forest.Traversal
/-!
# Reports on single nodes

A report is everything there is to know of one node, as JSON: its own data, its links in order,
the tracers nested in it that are still running, and the node that issued its tag, as long as
something keeps that node.
-/

namespace CallPath

/-- An attribute value under the letter of its type. -/
def AttributeValue.toLabelledJson : AttributeValue → Json
  | .integer n => .object [("i", .integer n)]
  | .float bits => .object [("f", .float bits)]
  | .string s => .object [("s", .string s)]

namespace Forest

/-- The ids of nodes as JSON. -/
def idsJson (f : Forest) (ns : List NodeRef) : Json :=
  .array (ns.map fun n => (f.idOf n).toJson)

/-- The id of a node as JSON; null if there is no node. -/
def idJson (f : Forest) (n : Option NodeRef) : Json :=
  n.elim .null fun n => (f.idOf n).toJson

/-- The report on a node of a forest, if the given roots are held from outside. -/
def report (f : Forest) (roots : List NodeRef) (r : NodeRef) : Json :=
  let n := f.get r
  .object [
    ("display", .string n.label), ("state", .string n.state.name), ("kind", .string n.kind.name),
    ("children", .array (n.children.map fun (kind, c) =>
      .array [.string kind.name, (f.idOf c).toJson])),
    ("unended", .array ((f.unendedChildren r).map .string)),
    ("error", n.error.elim .null fun e => .array [.string e.className, .string e.message]),
    ("details", n.details.toJson),
    ("has_incoming_tag", .bool n.receipt.isPresent),
    ("incoming_tag_id", n.receipt.id?.elim .null TracerId.toJson),
    ("resolved", .bool n.isResolved),
    ("linked_parent", f.idJson (f.linkedParent? roots r)),
    ("attributes", .array (n.attributes.map fun (k, v) => .array [.string k, v.toLabelledJson])),
    ("subtree", f.idsJson (f.preorder r)),
    ("times", .array [.bool true, .bool n.hasStartTime, .bool n.hasEndTime])]

end Forest

end CallPath
