import KeyMidi.Midi.Hex
/-!
# Channel messages

A channel message on the wire is a status byte `0x80 … 0xEF` followed by one data byte (program
change `0xCn`, channel pressure `0xDn`) or two (all others). `Packet` is such a message as bytes;
`Message` is what a packet means to the controller: notes, controllers, pitch bend, and the rest
by status alone. A note on with velocity 0 means a note off.

The encoders keep the low four bits of the channel and the low seven bits of each data value, so
every packet they build reads back (`Packet.message`) as the message they were asked for.
-/

namespace KeyMidi.Midi

/-- A channel message as bytes: a status byte, one data byte, and a second one unless the
status is a program change or channel pressure. -/
structure Packet where
  status : UInt8
  data1 : UInt8
  data2 : Option UInt8
  deriving Repr, DecidableEq, Inhabited

/-- A status byte starts a channel message. -/
def isChannelStatus (b : UInt8) : Bool := 0x80 ≤ b && b < 0xF0

/-- The number of data bytes after a channel status byte. -/
def dataLength (status : UInt8) : Nat :=
  let kind := status &&& 0xF0
  if kind = 0xC0 ∨ kind = 0xD0 then 1 else 2

namespace Packet

/-- A three-byte packet. -/
def three (status data1 data2 : UInt8) : Packet := ⟨status, data1, some data2⟩

/-- Whether a note starts or stops. -/
inductive NoteKind where
  | on
  | off
  deriving Repr, DecidableEq

/-- A note message; channel, note and velocity are cut to their widths. -/
def note (kind : NoteKind) (channel note velocity : UInt8) : Packet :=
  let status : UInt8 := match kind with
    | .on => 0x90
    | .off => 0x80
  three (status ||| (channel &&& 0x0F)) (note &&& 0x7F) (velocity &&& 0x7F)

/-- A note on. -/
def noteOn (channel note velocity : UInt8) : Packet := Packet.note .on channel note velocity

/-- A note off, with release velocity 0. -/
def noteOff (channel note : UInt8) : Packet := Packet.note .off channel note 0

/-- A controller change. -/
def controlChange (channel controller value : UInt8) : Packet :=
  three (0xB0 ||| (channel &&& 0x0F)) (controller &&& 0x7F) (value &&& 0x7F)

/-- A pitch bend to a 14-bit position, low seven bits first. -/
def pitchBendTo (channel : UInt8) (bend : UInt16) : Packet :=
  three (0xE0 ||| (channel &&& 0x0F)) (bend &&& 0x7F).toUInt8 ((bend >>> 7) &&& 0x7F).toUInt8

/-- The bytes of a packet. -/
def bytes (p : Packet) : List UInt8 := p.status :: p.data1 :: p.data2.toList

/-- The channel, 0 to 15. -/
def channel (p : Packet) : UInt8 := p.status &&& 0x0F

/-- Accepts received bytes that start with a channel status and carry all its data bytes;
data bytes lose their top bit and bytes beyond the message are ignored. -/
def ofBytes? : List UInt8 → Option Packet
  | [] => none
  | status :: rest =>
    if isChannelStatus status then
      match dataLength status, rest with
      | 1, d1 :: _ => some ⟨status, d1 &&& 0x7F, none⟩
      | 2, d1 :: d2 :: _ => some ⟨status, d1 &&& 0x7F, some (d2 &&& 0x7F)⟩
      | _, _ => none
    else none

end Packet

/-- What a channel message means to the controller. -/
inductive Message where
  | noteOn (channel note velocity : UInt8)
  /-- Also what a note on with velocity 0 means. -/
  | noteOff (channel note : UInt8)
  | controlChange (channel controller value : UInt8)
  /-- A 14-bit position; 8192 is the centre. -/
  | pitchBend (channel : UInt8) (value : UInt16)
  /-- Any other channel message (pressure, program change), by its status byte. -/
  | other (status : UInt8)
  deriving Repr, DecidableEq, Inhabited

namespace Message

/-- Reads a channel message from bytes. The data bytes that the status needs must be present
(a note off needs only the note); they lose their top bit. -/
def parse? : List UInt8 → Option Message
  | [] => none
  | status :: rest =>
    if isChannelStatus status then
      let channel := status &&& 0x0F
      let data1 := (rest[0]?).map (· &&& 0x7F)
      let data2 := (rest[1]?).map (· &&& 0x7F)
      let kind := status &&& 0xF0
      if kind = 0x80 then data1.map fun n => .noteOff channel n
      else if kind = 0x90 then
        match data1, data2 with
        | some n, some v => some (if v = 0 then .noteOff channel n else .noteOn channel n v)
        | _, _ => none
      else if kind = 0xB0 then
        match data1, data2 with
        | some c, some v => some (.controlChange channel c v)
        | _, _ => none
      else if kind = 0xE0 then
        match data1, data2 with
        | some lsb, some msb => some (.pitchBend channel ((msb.toUInt16 <<< 7) ||| lsb.toUInt16))
        | _, _ => none
      else some (.other status)
    else none

/-- The message as a person reads it, with channels counted from 1. -/
def describe : Message → String
  | .noteOn ch n v => s!"note on {ch.toNat + 1}/{n} vel {v}"
  | .noteOff ch n => s!"note off {ch.toNat + 1}/{n}"
  | .controlChange ch c v => s!"cc {ch.toNat + 1}/{c} = {v}"
  | .pitchBend ch v => s!"bend {ch.toNat + 1} = {v}"
  | .other status => "status " ++ hexByte status

end Message

namespace Packet

/-- The meaning of a packet. -/
def message (p : Packet) : Option Message := Message.parse? p.bytes

/-- The packet as a person reads it: its meaning, or its bytes when it has none. -/
def describe (p : Packet) : String :=
  match p.message with
  | some m => m.describe
  | none => hexText p.bytes

/-- The packet's bytes in a labelled form, for traces. -/
def trace (p : Packet) : String := "MidiEvent[" ++ hexText p.bytes ++ "]"

end Packet

end KeyMidi.Midi
