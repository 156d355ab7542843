import KeyMidi.Engine.State
import KeyMidi.Notes.Tracker
import KeyMidi.Notes.Counts
import KeyMidi.Analog.Shape
import KeyMidi.Midi.Scale
/-!
# The engine of one device

An engine holds the position of a device, the notes its keys sound (per key, in key order), how
many inputs sound each voice, what each axis last did, and which keys are down. Its steps change
it and send MIDI messages, in order; `EngineM` runs them, collecting the messages in the outbox.

Notes: a press first lets go of what the same key still sounds, then sounds the note of its
binding once per chord offset (a single note with no chord); the collision mode decides from the
count of inputs sounding a voice whether a press restrikes or cuts it, and whether a release
silences it. Actions: pressing an action that is already held does nothing; pressing one half
of an up/down pair while the other half is held resets that parameter to its default; otherwise
an action only acts when it is the only one held.
-/

namespace KeyMidi

open KeyMidi.Midi KeyMidi.Analog

/-- Which controller of a two-sided axis got the last value. -/
inductive Side where
  | positive
  | negative
  deriving Repr, DecidableEq, Inhabited

/-- What an axis did last, under the layer it belongs to. -/
structure AxisMemory where
  /-- The layer the rest of the memory belongs to. -/
  layer : Nat
  last : Option Float := none
  side : Option Side := none
  zone : Zone := .middle
  /-- The voice sounded by a note axis. -/
  note : Option Voice := none
  /-- The action held by an action axis. -/
  action : Option Action := none
  deriving Inhabited

namespace AxisMemory

/-- Whether the note of an axis is taken when the notes of axes under layers other than `keep`
(of all layers, when `none`) are let go of. -/
def sounds (keep : Option Nat) (m : AxisMemory) : Bool := m.note.isSome && keep.all (· != m.layer)

/-- The memory of an axis whose note was let go of: back in the middle zone. -/
def silence (m : AxisMemory) : AxisMemory := { m with note := none, zone := .middle }

end AxisMemory

/-- A message the engine asks to send, by the values it hands to the encoder; the encoder cuts
each value to its width (`Request.packet`). -/
inductive Request where
  | noteOn (channel note velocity : UInt8)
  | noteOff (channel note : UInt8)
  | controlChange (channel controller value : UInt8)
  | pitchBend (channel : UInt8) (value : Float)
  deriving Repr, Inhabited

/-- The packet the encoder builds for a request. -/
def Request.packet : Request → Packet
  | .noteOn c n v => Packet.noteOn c n v
  | .noteOff c n => Packet.noteOff c n
  | .controlChange c k v => Packet.controlChange c k v
  | .pitchBend c x => Packet.pitchBend c x

/-- The note off that silences a voice. -/
def Voice.noteOff (v : Voice) : Request := .noteOff v.channel v.note

/-- What a status display shows of a device. -/
structure Status where
  octave : Int8
  semitone : Int8
  channel : UInt8
  /-- Notes sounded by keys plus notes sounded by axes. -/
  heldNotes : Nat
  layerName : String
  learning : Bool
  deriving Repr, Inhabited

/-- The state of the engine of one device. -/
structure Engine where
  profile : Profile
  position : Position
  notes : Tracker := .empty
  counts : Counts := .empty
  /-- Axis memories, in the order the axes were first moved. -/
  axes : List (InputId × AxisMemory) := []
  heldKeys : List InputId := []
  exitRequested : Bool := false
  /-- The status last published. -/
  shown : Status := default
  /-- The messages requested by the current step. -/
  outbox : Array Request := #[]
  deriving Inhabited

namespace Engine

/-- The current status. -/
def status (e : Engine) : Status :=
  { octave := e.position.octave, semitone := e.position.semitone, channel := e.position.channel,
    heldNotes := e.notes.size + (e.axes.filter fun a => a.2.note.isSome).length,
    layerName := ((e.profile.layers[e.position.mapping]?).map (·.name)).getD "",
    learning := e.position.learning }

/-- A fresh engine for a profile, its status published. -/
def new (profile : Profile) : Engine :=
  let e : Engine := { profile, position := Position.initial profile.defaults }
  { e with shown := e.status }

/-- The active layer, if the position names one. -/
def layer? (e : Engine) : Option Layer := e.profile.layers[e.position.mapping]?

end Engine

/-- Engine steps. -/
abbrev EngineM := StateM Engine

namespace EngineM

/-- Sends a message. -/
def send (r : Request) : EngineM Unit := modify fun e => { e with outbox := e.outbox.push r }

/-- Sends messages, in order. -/
def sendAll (rs : List Request) : EngineM Unit := for r in rs do send r

/-- Changes the position. -/
def move (f : Position → Position) : EngineM Unit :=
  modify fun e => { e with position := f e.position }

/-- Publishes the current status. -/
def publish : EngineM Unit := modify fun e => { e with shown := e.status }

/-- Lets go of the notes a key sounds. -/
def releaseNote (key : InputId) : EngineM Unit := do
  let e ← get
  let (held, notes) := e.notes.remove key
  match held with
  | none => pure ()
  | some voices =>
    set { e with notes }
    for v in voices do
      let e ← get
      if e.profile.collision.releasePlan (e.counts.count v) then send v.noteOff
      modify fun e => { e with counts := e.counts.decrement v }

/-- Sounds the notes of a key's binding. -/
def pressNote (key : InputId) (t : NoteTarget) : EngineM Unit := do
  releaseNote key
  let e ← get
  let pos := e.position
  let channel := pos.channelFor t.channelOffset
  let offsets := if pos.chord.isEmpty then [0] else pos.chord
  let mut held : List Voice := []
  for offset in offsets do
    match pos.transpose t.note offset with
    | none => pure ()
    | some note =>
      let v : Voice := ⟨channel, note⟩
      let e ← get
      let plan := e.profile.collision.pressPlan (e.counts.count v)
      if plan.noteOffFirst then send v.noteOff
      if plan.noteOn then send (.noteOn channel note pos.velocity)
      modify fun e => { e with counts := e.counts.increment v }
      held := held ++ [v]
  if !held.isEmpty then modify fun e => { e with notes := e.notes.insert key held }

/-- Takes the notes sounded by axes (of all layers, or only of other layers than `keep`),
returning them to the middle zone. -/
def takeAxisNotes (keep : Option Nat) : EngineM (List Voice) := do
  let e ← get
  let taken := e.axes.filterMap fun (a : InputId × AxisMemory) => if a.2.sounds keep then a.2.note else none
  set { e with axes := e.axes.map fun (a : InputId × AxisMemory) => if a.2.sounds keep then (a.1, a.2.silence) else a }
  return taken

/-- Lets go of every note: those of the keys, in key order, then those of the axes. -/
def releaseAll : EngineM Unit := do
  let e ← get
  let (voices, notes) := e.notes.drain
  set { e with notes }
  sendAll (voices.map Voice.noteOff)
  sendAll ((← takeAxisNotes none).map Voice.noteOff)
  modify fun e => { e with counts := .empty }

/-- Lets go of every note, then sends All Notes Off on every channel. -/
def panic : EngineM Unit := do
  releaseAll
  sendAll ((List.range 16).map fun ch => .controlChange ch.toUInt8 123 0)

/-- Sets a parameter back to its default. -/
def reset (p : Parameter) : EngineM Unit := do
  let d := (← get).profile.defaults
  match p with
  | .mapping => move fun pos => { pos with mapping := d.mapping }
  | .octave => move fun pos => { pos with octave := d.octave }
  | .semitone => move fun pos => { pos with semitone := d.semitone }
  | .channel => move fun pos => { pos with channel := d.channel }

/-- Acts on a pressed action. -/
def applyAction (a : Action) : EngineM Unit := do
  let e ← get
  if e.position.heldActions.contains a then return
  let held := a :: e.position.heldActions
  move fun pos => { pos with heldActions := held }
  match resetFor a held.contains with
  | some p => reset p
  | none =>
    if held.length != 1 then return
    match a with
    | .panic => panic
    | .octaveUp => move fun pos => { pos with octave := Int8.stepUp pos.octave }
    | .octaveDown => move fun pos => { pos with octave := Int8.stepDown pos.octave }
    | .semitoneUp => move fun pos => { pos with semitone := Int8.stepUp pos.semitone }
    | .semitoneDown => move fun pos => { pos with semitone := Int8.stepDown pos.semitone }
    | .channelUp => move fun pos => { pos with channel := ((pos.channel.toNat + 1) % 16).toUInt8 }
    | .channelDown => move fun pos => { pos with channel := ((pos.channel.toNat + 15) % 16).toUInt8 }
    | .mappingUp =>
      let last := e.profile.layers.length - 1
      move fun pos => { pos with mapping := min (pos.mapping + 1) last }
    | .mappingDown => move fun pos => { pos with mapping := pos.mapping - 1 }
    | .multinote => pure ()
    | .ccLearning => move fun pos => { pos with learning := true }

/-- Presses an action; a change of layer silences the notes axes sounded under other layers. -/
def pressAction (a : Action) : EngineM Unit := do
  let before := (← get).position.mapping
  applyAction a
  let now := (← get).position.mapping
  if now != before then
    sendAll ((← takeAxisNotes (some now)).map Voice.noteOff)

/-- Releases an action: letting go of multinote takes the chord of the keys held, letting go of
learning ends it. -/
def releaseAction (a : Action) : EngineM Unit := do
  let e ← get
  if !e.position.heldActions.contains a then return
  match a with
  | .multinote => move fun pos => { pos with chord := e.notes.chordOffsets }
  | .ccLearning => move fun pos => { pos with learning := false }
  | _ => pure ()
  move fun pos => { pos with heldActions := pos.heldActions.erase a }

end EngineM

end KeyMidi
