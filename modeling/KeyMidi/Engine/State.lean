import KeyMidi.Profile.Basic
/-!
# Where a device stands

The performance position of a device: octave and semitone shifts, output channel, active layer,
velocity, the chord played by every key (empty plays single notes), whether controller learning
is on, and the actions currently held.

A note is the base note of its binding plus twelve per octave, the semitone shift and the chord
offset; a note that leaves `0 … 127` is not played. A binding's channel offset is added to the
current channel modulo 16.
-/

namespace KeyMidi

/-- The adjustable position of a device. -/
structure Position where
  octave : Int8
  semitone : Int8
  channel : UInt8
  mapping : Nat
  velocity : UInt8
  /-- Chord offsets added to every note press; empty plays single notes. -/
  chord : List UInt8 := []
  learning : Bool := false
  /-- Held actions, each once, most recent first. -/
  heldActions : List Action := []
  deriving Repr, Inhabited

namespace Position

/-- The starting position of a device; the channel is taken modulo 16. -/
def initial (d : Defaults) : Position :=
  ⟨d.octave, d.semitone, d.channel % 16, d.mapping, d.velocity, [], false, []⟩

/-- The note played for `base` with a chord offset, if it stays in `0 … 127`. -/
def transpose (p : Position) (base offset : UInt8) : Option UInt8 :=
  let n : Int := base.toNat + 12 * p.octave.toInt + p.semitone.toInt + offset.toNat
  if 0 ≤ n ∧ n ≤ 127 then some n.toNat.toUInt8 else none

/-- The output channel of a binding with a channel offset. -/
def channelFor (p : Position) (offset : UInt8) : UInt8 :=
  ((p.channel.toNat + offset.toNat) % 16).toUInt8

end Position

/-- One step up, stopping at the top of the range. -/
def Int8.stepUp (x : Int8) : Int8 := if x = 127 then x else x + 1

/-- One step down, stopping at the bottom of the range. -/
def Int8.stepDown (x : Int8) : Int8 := if x = -128 then x else x - 1

end KeyMidi
