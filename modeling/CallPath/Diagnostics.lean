/-!
# The diagnostic callback

What cannot be returned as an error to a live caller is reported as a message to a callback, which
can be replaced or removed at any time. A slot remembers the messages each callback has received,
in the order in which the callbacks were installed.
-/

namespace CallPath

/-- The place of the diagnostic callback. -/
structure CallbackSlot where
  /-- What the installed callback has received; `none` if there is no callback. -/
  current : Option (List String) := none
  /-- What each callback before it received. -/
  replaced : List (List String) := []
  deriving DecidableEq, Repr

namespace CallbackSlot

/-- The messages of each callback that was ever installed. -/
def received (s : CallbackSlot) : List (List String) :=
  s.replaced ++ s.current.toList

/-- Whether a callback is installed. -/
def isSet (s : CallbackSlot) : Bool :=
  s.current.isSome

/-- Installs a new callback. -/
def install (s : CallbackSlot) : CallbackSlot :=
  { current := some [], replaced := s.received }

/-- Removes the callback. -/
def clear (s : CallbackSlot) : CallbackSlot :=
  { current := none, replaced := s.received }

/-- Reports a message to the callback, if there is one. -/
def emit (s : CallbackSlot) (message : String) : CallbackSlot :=
  { s with current := s.current.map (· ++ [message]) }

/-- All messages that reached a callback, callback by callback. -/
def messages (s : CallbackSlot) : List String :=
  s.received.flatten

/-- The slot as a programmer reads it. -/
def debugText (s : CallbackSlot) : String :=
  s!"CallbackSlot({s.isSet})"

@[simp] theorem received_install (s : CallbackSlot) : s.install.received = s.received ++ [[]] := rfl

@[simp] theorem received_clear (s : CallbackSlot) : s.clear.received = s.received := by
  simp [clear, received]

end CallbackSlot

end CallPath
