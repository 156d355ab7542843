/-!
# Collisions between inputs that sound the same note

Several inputs may sound the same note on the same channel. A count says how many inputs hold
it, and the collision mode decides from that count which note messages go out:

* `off`: every press strikes, every release stops the note;
* `noRepeat`: only the first press strikes, only the last release stops it;
* `interrupt`: a press over a sounding note stops it first, then strikes again;
* `retrigger`: every press strikes, only the last release stops it.
-/

namespace KeyMidi

/-- How presses and releases of inputs that share a note are arbitrated. -/
inductive CollisionMode where
  | off
  | noRepeat
  | interrupt
  | retrigger
  deriving Repr, DecidableEq, Inhabited

/-- The messages a press sends: a note off before, and a note on. -/
structure PressPlan where
  noteOffFirst : Bool
  noteOn : Bool
  deriving Repr, DecidableEq

namespace CollisionMode

/-- The name of a mode in profiles. -/
def name : CollisionMode → String
  | .off => "off"
  | .noRepeat => "no_repeat"
  | .interrupt => "interrupt"
  | .retrigger => "retrigger"

/-- All modes, in the order in which profiles list them. -/
def all : List CollisionMode := [.off, .noRepeat, .interrupt, .retrigger]

/-- What a press sends, given how many inputs held the note before it. -/
def pressPlan : CollisionMode → Nat → PressPlan
  | .off, _ => ⟨false, true⟩
  | .retrigger, _ => ⟨false, true⟩
  | .noRepeat, count => ⟨false, count == 0⟩
  | .interrupt, count => ⟨count > 0, true⟩

/-- Whether a release sends a note off, given the count before it. -/
def releasePlan : CollisionMode → Nat → Bool
  | .off, _ => true
  | _, count => count == 1

end CollisionMode

end KeyMidi
