/-!
# The life of a tracer

A tracer is created, may be started, and is ended; it belongs to the thread that created it.
-/

namespace CallPath

/-- The stages of a tracer's life. -/
inductive TracerState where
  | created
  | started
  | ended
  deriving DecidableEq, Repr

namespace TracerState

/-- All states, in the order of a life. -/
def all : List TracerState :=
  [created, started, ended]

/-- The name shown in messages. -/
def name : TracerState → String
  | created => "CREATED"
  | started => "STARTED"
  | ended => "ENDED"

/-- The name used in serialized data. -/
def key : TracerState → String
  | created => "created"
  | started => "started"
  | ended => "ended"

/-- The name as a programmer reads it. -/
def debugName : TracerState → String
  | created => "Created"
  | started => "Started"
  | ended => "Ended"

end TracerState

/-- How a node hangs below another: started while that one was the innermost active tracer, or
linked to it later through a tag. -/
inductive LinkKind where
  | child
  | tagLinked
  deriving DecidableEq, Repr

namespace LinkKind

/-- Both kinds of links. -/
def all : List LinkKind :=
  [child, tagLinked]

/-- The name shown in tree dumps. -/
def name : LinkKind → String
  | child => "CHILD"
  | tagLinked => "TAG"

/-- The name used in serialized data. -/
def key : LinkKind → String
  | child => "child"
  | tagLinked => "tag_linked"

end LinkKind

/-- A thread, known by its name. -/
structure Thread where
  name : String
  deriving DecidableEq, Repr

/-- How messages refer to a thread. -/
def Thread.label (t : Thread) : String :=
  "ThreadId(" ++ t.name ++ ")"

end CallPath
