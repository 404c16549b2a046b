import CallPath.Session
/-!
# Scopes

A scope runs an operation inside a tracer: the tracer is started before the operation and ended
after it, whether it returns, fails or is interrupted. A failure is attached to the tracer unless
the operation has attached one itself. `runScoped` is made of `start` and `leave`.
-/

namespace CallPath

/-- An error of an operation, as it is attached to a tracer. -/
structure Failure where
  className : String
  text : String
  deriving DecidableEq, Repr

/-- How an operation inside a scope came to its end. -/
inductive Outcome (α : Type) where
  | returned (value : α)
  | failed (failure : Failure)
  /-- It was interrupted; the text says why, if there is one. -/
  | interrupted (text : Option String)
  deriving DecidableEq, Repr

/-- What a scope gives to its caller. -/
inductive ScopeResult (α : Type) where
  | value (value : α)
  /-- The tracer could not be started or ended. -/
  | refused (error : UsageError)
  | failed (failure : Failure)
  /-- The interruption goes on. -/
  | interrupted (text : Option String)
  deriving DecidableEq, Repr

namespace Session

/-- Attaches an error, unless there is one; a refusal is reported. -/
def attach (s : Session) (t : Thread) (n : NodeRef) (failure : Failure) : Session :=
  if (s.forest.get n).error.isSome then s
  else
    match s.markFailed t n failure.className failure.text with
    | (.ok (), s) => s
    | (.error e, s) => s.warn s!"Failed to attach error to {s.forest.label n}: {e.message}"

/-- Ends a tracer after a failure; a refusal is reported. -/
def endAfterFailure (s : Session) (t : Thread) (n : NodeRef) : Session :=
  match s.endTracer t n with
  | (.ok (), s) => s
  | (.error e, s) => s.warn s!"Failed to end {s.forest.label n} after error: {e.message}"

/-- How an interruption is attached to a tracer. -/
def interruption (text : Option String) : Failure where
  className := "panic"
  text := text.getD "non-string panic payload"

/-- Leaves a scope. -/
def leave {α : Type} (s : Session) (t : Thread) (n : NodeRef) (outcome : Outcome α) :
    ScopeResult α × Session :=
  match outcome with
  | .returned value =>
    match s.endTracer t n with
    | (.ok (), s) => (.value value, s)
    | (.error e, s) => (.refused e, s)
  | .failed failure => (.failed failure, (s.attach t n failure).endAfterFailure t n)
  | .interrupted text => (.interrupted text, (s.attach t n (interruption text)).endAfterFailure t n)

/-- Runs an operation inside a tracer. If the tracer cannot be started, the operation is not
run. -/
def runScoped {α : Type} (s : Session) (t : Thread) (n : NodeRef)
    (operation : Session → Outcome α × Session) : ScopeResult α × Session :=
  match s.start t n with
  | (.error e, s) => (.refused e, s)
  | (.ok (), s) =>
    let (outcome, s) := operation s
    s.leave t n outcome

end Session

end CallPath
