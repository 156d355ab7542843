import KeyMidi.Notes.Voice
import KeyMidi.Midi.Message
/-!
# Notes held on the external input

The controller listens to its own output fed back, and remembers which voices are held there:
a note on holds its voice, a note off (or a note on with velocity 0) releases it, and every
other message changes nothing. Queries keep the low four bits of the channel and the low seven
bits of the note.
-/

namespace KeyMidi

open KeyMidi.Midi

/-- The voices held on the external input, each once. -/
structure ExternalNotes where
  held : List Voice
  deriving Repr, Inhabited

namespace ExternalNotes

/-- Nothing held. -/
def empty : ExternalNotes := ⟨[]⟩

/-- Whether a voice is held; channel and note are cut to their widths first. -/
def isHeld (e : ExternalNotes) (channel note : UInt8) : Bool :=
  e.held.contains ⟨channel &&& 0x0F, note &&& 0x7F⟩

/-- The number of voices held. -/
def heldCount (e : ExternalNotes) : Nat := e.held.length

/-- Follows one received packet. -/
def apply (e : ExternalNotes) (p : Packet) : ExternalNotes :=
  let set (v : Voice) (on : Bool) : ExternalNotes :=
    let rest := e.held.filter (· != v)
    if on then ⟨v :: rest⟩ else ⟨rest⟩
  match p.message with
  | some (.noteOn ch n _) => set ⟨ch, n⟩ true
  | some (.noteOff ch n) => set ⟨ch, n⟩ false
  | _ => e

end ExternalNotes

end KeyMidi
