import KeyMidi.Action
import KeyMidi.Collision
import KeyMidi.Device.Identity
import KeyMidi.Notes.Voice
/-!
# Device profiles

A profile says how one device model plays: which keys sound which notes and which axes drive
which controllers, in one or more switchable layers; which keys trigger actions in every layer;
how colliding notes are arbitrated; where the device starts (octave, channel, layer, velocity,
dead zone); and which chord of keys asks the controller to stop.

Bindings are looked up by handler name, then by code (`CodeMap`). A table read from a document
keeps the last binding given for a handler and code.
-/

namespace KeyMidi

/-- Bindings by handler name, then by code. -/
structure CodeMap (α : Type) where
  entries : List (String × List (Nat × α))
  deriving Repr, Inhabited

namespace CodeMap

variable {α : Type}

/-- No bindings. -/
def empty : CodeMap α := ⟨[]⟩

/-- The binding of a handler's code. -/
def find? (m : CodeMap α) (handler : String) (code : Nat) : Option α :=
  (m.entries.find? (·.1 == handler)).bind fun e => (e.2.find? (·.1 == code)).map (·.2)

/-- Every binding with its handler and code. -/
def toList (m : CodeMap α) : List (String × Nat × α) :=
  m.entries.flatMap fun e => e.2.map fun c => (e.1, c.1, c.2)

end CodeMap

/-- A key bound to a note, on the channel `channelOffset` above the current one. -/
structure NoteTarget where
  note : UInt8
  channelOffset : UInt8 := 0
  deriving Repr, DecidableEq, Inhabited

/-- What an axis drives. -/
inductive AxisRole where
  /-- A controller; two-sided axes send their negative half to `ccNeg`. -/
  | controller (cc ccNeg : UInt8) (twoSided flip : Bool)
  /-- The pitch bend. -/
  | pitchBend (flip : Bool)
  /-- A note while past half the scale; two-sided axes play `noteNeg` below. -/
  | note (note noteNeg : UInt8) (twoSided : Bool)
  /-- An action held while past half the scale; two-sided axes hold `actionNeg` below. -/
  | action (action : Action) (actionNeg : Option Action) (twoSided : Bool)
  deriving Repr, DecidableEq, Inhabited

/-- An axis binding. `deadzoneAtCenter` puts the rest point of an unsigned axis at its middle. -/
structure AxisBinding where
  role : AxisRole
  channelOffset : UInt8 := 0
  deadzoneAtCenter : Bool := false
  deriving Repr, DecidableEq, Inhabited

/-- One switchable layer of key and axis bindings, with per-axis dead zones. -/
structure Layer where
  name : String
  keys : CodeMap NoteTarget := .empty
  axes : CodeMap AxisBinding := .empty
  deadzones : CodeMap Float := .empty
  deriving Repr, Inhabited

/-- Where a device starts, and what resets restore. -/
structure Defaults where
  octave : Int8 := 0
  semitone : Int8 := 0
  channel : UInt8 := 0
  mapping : Nat := 0
  velocity : UInt8 := 64
  deadzone : Float := 0.1
  deriving Repr, Inhabited

/-- How one device model plays. -/
structure Profile where
  name : String
  kind : DeviceKind
  /-- The all-zero model marks the default profile of its kind. -/
  identifier : Identity := {}
  collision : CollisionMode := .noRepeat
  defaults : Defaults := {}
  /-- Holding all of these keys asks the controller to stop. -/
  exitSequence : List InputId := []
  /-- Keys bound to actions, whatever the layer. -/
  actions : CodeMap Action := .empty
  layers : List Layer
  deriving Repr, Inhabited

/-- A profile is the default one of its kind when its model is all zeros. -/
def Profile.isDefault (p : Profile) : Bool := p.identifier.isDefault

end KeyMidi
