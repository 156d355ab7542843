import KeyMidi.Midi.Message
import KeyMidi.Numeric.Double
/-!
# From unit values to data values

Analog positions reach MIDI as 7-bit controller values and 14-bit bend positions. A unit value
`[0, 1]` becomes `0 … 127`; a bend value `[-1, 1]` becomes `0 … 16383` with 0 at the centre
8192, the two halves scaled by 8192 below and 8191 above so that both ends are reached. Values
outside the range are limited to it, results are rounded half away from zero, and a value that
is not a number gives 0.
-/

namespace KeyMidi.Midi

open KeyMidi.Double

/-- The 14-bit bend position of a value in `[-1, 1]`. -/
def bendPosition (value : Float) : UInt16 :=
  let v := clamp value (-1.0) 1.0
  let offset := if v < 0.0 then v * 8192.0 else v * 8191.0
  toWord (roundHalfAway (8192.0 + offset))

/-- The 7-bit value of a unit value in `[0, 1]`. -/
def unitToSeven (value : Float) : UInt8 :=
  toByte (roundHalfAway (clamp value 0.0 1.0 * 127.0))

/-- A pitch bend from a value in `[-1, 1]`; 0 is the centre. -/
def Packet.pitchBend (channel : UInt8) (value : Float) : Packet :=
  Packet.pitchBendTo channel (bendPosition value)

end KeyMidi.Midi
