/-!
# Cancellation scopes

A scope is cancelled by its trigger; any number of receivers observe it. A receiver sees the
scope as cancelled once the trigger has fired. Waiting on a receiver ends when the trigger fires,
and also when the trigger is dropped without firing: a scope whose trigger is gone can never be
cancelled any more, so nothing is left to wait for (but it does not count as cancelled).
-/

namespace KeyMidi

/-- The state of a cancellation scope. -/
structure Scope where
  /-- The trigger has fired. -/
  fired : Bool := false
  /-- The trigger still exists. -/
  armed : Bool := true
  deriving Repr, DecidableEq, Inhabited

namespace Scope

/-- Fires the trigger, if it still exists. -/
def fire (s : Scope) : Scope := if s.armed then { s with fired := true } else s

/-- Drops the trigger. -/
def disarm (s : Scope) : Scope := { s with armed := false }

/-- Waiting on a receiver of the scope ends at once. -/
def waitEnds (s : Scope) : Bool := s.fired || !s.armed

end Scope

end KeyMidi
