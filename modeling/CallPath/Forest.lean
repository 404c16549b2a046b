import CallPath.Details.Update
/-!
# Forests of tracer nodes

Each tracer is recorded by a node. Nodes refer to each other by their position in the forest, in
the order of their creation; a position where there is no node reads as a blank node that has
already ended. A node keeps its children in the order in which they were linked.
-/

namespace CallPath

/-- A position in a forest. -/
abbrev NodeRef := Nat

/-- A time, by the reading of the clock that it was taken from. The readings of a session are
numbered in the order in which they are made, whatever the clock shows, so that a time which is
taken anew is always another one. -/
abbrev Time := Nat

/-- An error attached to a tracer. -/
structure ErrorInfo where
  className : String
  message : String
  deriving DecidableEq, Repr

/-- What a tracer knows of the tag it was given. -/
inductive TagReceipt where
  /-- No tag was given. -/
  | absent
  /-- The last tag given was malformed. -/
  | undecodable
  /-- The last tag given carries this id. -/
  | carries (id : TracerId)
  deriving DecidableEq, Repr

namespace TagReceipt

/-- The receipt of a tag that decodes as given. -/
def ofDecoded : Option TracerId → TagReceipt
  | some id => carries id
  | none => undecodable

/-- Whether a tag was given at all. -/
def isPresent : TagReceipt → Bool
  | absent => false
  | _ => true

/-- The id that the tag carries. -/
def id? : TagReceipt → Option TracerId
  | carries id => some id
  | _ => none

end TagReceipt

/-- The record of one traced operation. -/
structure Node where
  id : TracerId
  /-- The thread that created the tracer. -/
  owner : Thread
  details : Details
  /-- When the tracer was created. -/
  createdAt : Time := 0
  state : TracerState := .created
  children : List (LinkKind × NodeRef) := []
  error : Option ErrorInfo := none
  receipt : TagReceipt := .absent
  /-- The node that issued the tag, once it was found. -/
  producer : Option NodeRef := none
  attributes : List (String × AttributeValue) := []
  /-- When the tracer was started, if it was. -/
  startedAt : Option Time := none
  /-- When the tracer was ended, if it was. -/
  endedAt : Option Time := none
  /-- Whether the application still holds the tracer. -/
  held : Bool := false
  deriving DecidableEq, Repr

namespace Node

/-- What is read where there is no node. -/
def blank : Node where
  id := ⟨0, by decide⟩
  owner := ⟨""⟩
  details := .customService ⟨"", ""⟩
  state := .ended

/-- The kind of the tracer. -/
def kind (n : Node) : Kind :=
  n.details.kind

/-- How messages refer to the tracer. -/
def label (n : Node) : String :=
  n.kind.name ++ "[" ++ n.id.text ++ "]"

/-- Whether the time of the start is known. -/
def hasStartTime (n : Node) : Bool :=
  n.startedAt.isSome

/-- Whether the time of the end is known. -/
def hasEndTime (n : Node) : Bool :=
  n.endedAt.isSome

/-- Whether the tag was matched to the node that issued it. -/
def isResolved (n : Node) : Bool :=
  n.producer.isSome

/-- The children linked by nesting, in order. -/
def childRefs (n : Node) : List NodeRef :=
  (n.children.filter fun c => c.1 = .child).map Prod.snd

/-- The children linked through tags, in order. -/
def tagLinkedRefs (n : Node) : List NodeRef :=
  (n.children.filter fun c => c.1 = .tagLinked).map Prod.snd

/-- The node in another state; a start and an end set their time. -/
def enter (n : Node) (s : TracerState) (now : Time) : Node :=
  { n with
    state := s
    startedAt := if s = .started then some now else n.startedAt
    endedAt := if s = .ended then some now else n.endedAt }

@[simp] theorem hasStartTime_enter (n : Node) (s : TracerState) (now : Time) :
    (n.enter s now).hasStartTime = (n.hasStartTime || s = .started) := by
  cases s <;> simp [enter, hasStartTime]

@[simp] theorem hasEndTime_enter (n : Node) (s : TracerState) (now : Time) :
    (n.enter s now).hasEndTime = (n.hasEndTime || s = .ended) := by
  cases s <;> simp [enter, hasEndTime]

/-- The node with one more child. -/
def link (n : Node) (kind : LinkKind) (child : NodeRef) : Node :=
  { n with children := n.children ++ [(kind, child)] }

/-- Refuses access from a thread other than the owner. -/
def requireThread (n : Node) (caller : Thread) : Except UsageError Unit :=
  if caller = n.owner then .ok () else .error (.threadAffinity n.label n.owner caller)

/-- Refuses any state but the expected one. -/
def requireState (n : Node) (expected : TracerState) : Except UsageError Unit :=
  if n.state = expected then .ok () else .error (.invalidState n.label n.state expected)

/-- Refuses a capability that the kind does not have. -/
def requireCapability (n : Node) (c : Capability) : Except UsageError Unit :=
  if n.kind.supports c then .ok () else .error (.unsupportedCapability n.kind c)

end Node

/-- The nodes of all tracers, in the order of their creation. -/
structure Forest where
  nodes : Array Node := #[]
  deriving DecidableEq, Repr

namespace Forest

/-- The number of nodes. -/
def size (f : Forest) : Nat :=
  f.nodes.size

/-- The node at a position. -/
def get (f : Forest) (n : NodeRef) : Node :=
  f.nodes.getD n .blank

/-- The forest with one more node, and its position. -/
def add (f : Forest) (node : Node) : NodeRef × Forest :=
  (f.nodes.size, ⟨f.nodes.push node⟩)

/-- The forest with the node at a position changed. -/
def modify (f : Forest) (n : NodeRef) (g : Node → Node) : Forest :=
  ⟨f.nodes.modify n g⟩

@[simp] theorem size_modify (f : Forest) (n : NodeRef) (g : Node → Node) :
    (f.modify n g).size = f.size := by
  simp [modify, size]

theorem get_of_size_le {f : Forest} {n : NodeRef} (h : f.size ≤ n) : f.get n = .blank := by
  simp only [get, Array.getD_eq_getD_getElem?]
  rw [Array.getElem?_eq_none h]
  rfl

theorem get_modify (f : Forest) (n m : NodeRef) (g : Node → Node) (h : m < f.size) :
    (f.modify n g).get m = if n = m then g (f.get m) else f.get m := by
  have h' : m < f.nodes.size := h
  simp only [get, modify, Array.getD_eq_getD_getElem?, Array.getElem?_modify]
  split <;> simp [Array.getElem?_eq_getElem h']

/-- How messages refer to the node at a position. -/
def label (f : Forest) (n : NodeRef) : String :=
  (f.get n).label

/-- The id of the node at a position. -/
def idOf (f : Forest) (n : NodeRef) : TracerId :=
  (f.get n).id

/-- The labels of the nested tracers that are still running. -/
def unendedChildren (f : Forest) (n : NodeRef) : List String :=
  ((f.get n).childRefs.filter fun c => (f.get c).state = .started).map f.label

/-- Records that `producer` issued the tag that `consumer` was given. -/
def resolve (f : Forest) (consumer producer : NodeRef) : Forest :=
  (f.modify consumer fun n => { n with producer := some producer }).modify producer
    fun n => n.link .tagLinked consumer

end Forest

end CallPath
