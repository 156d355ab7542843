/-!
# Performance actions

Keys and analog zones can be bound to actions instead of notes. Eight of them come in up/down
pairs that move one parameter each (layer, octave, semitone, channel); holding both halves of a
pair resets that parameter instead of moving it. When several pairs are fully held, the one
checked first — layer, octave, semitone, channel — is reset (`resetFor`).
-/

namespace KeyMidi

/-- What a key or analog zone can do besides playing a note. -/
inductive Action where
  | panic
  | octaveUp
  | octaveDown
  | semitoneUp
  | semitoneDown
  | channelUp
  | channelDown
  | mappingUp
  | mappingDown
  | multinote
  | ccLearning
  deriving Repr, DecidableEq, Inhabited

/-- A parameter moved by an up/down pair of actions. -/
inductive Parameter where
  | mapping
  | octave
  | semitone
  | channel
  deriving Repr, DecidableEq, Inhabited

namespace Parameter

/-- The up and down actions of a parameter. -/
def pair : Parameter → Action × Action
  | .mapping => (.mappingUp, .mappingDown)
  | .octave => (.octaveUp, .octaveDown)
  | .semitone => (.semitoneUp, .semitoneDown)
  | .channel => (.channelUp, .channelDown)

/-- The order in which fully held pairs are looked for. -/
def priority : List Parameter := [.mapping, .octave, .semitone, .channel]

/-- The name of a parameter. -/
def name : Parameter → String
  | .mapping => "mapping"
  | .octave => "octave"
  | .semitone => "semitone"
  | .channel => "channel"

end Parameter

namespace Action

/-- All actions, in the order in which profiles list them. -/
def all : List Action :=
  [.panic, .octaveUp, .octaveDown, .semitoneUp, .semitoneDown, .channelUp, .channelDown,
    .mappingUp, .mappingDown, .multinote, .ccLearning]

/-- The name of an action in profiles. -/
def name : Action → String
  | .panic => "panic"
  | .octaveUp => "octave_up"
  | .octaveDown => "octave_down"
  | .semitoneUp => "semitone_up"
  | .semitoneDown => "semitone_down"
  | .channelUp => "channel_up"
  | .channelDown => "channel_down"
  | .mappingUp => "mapping_up"
  | .mappingDown => "mapping_down"
  | .multinote => "multinote"
  | .ccLearning => "cc_learning"

/-- The parameter an action moves, if it is half of a pair. -/
def parameter : Action → Option Parameter
  | .mappingUp | .mappingDown => some .mapping
  | .octaveUp | .octaveDown => some .octave
  | .semitoneUp | .semitoneDown => some .semitone
  | .channelUp | .channelDown => some .channel
  | .panic | .multinote | .ccLearning => none

end Action

/-- The parameter to reset when `pressed` moves a parameter and some pair is fully held;
the first such pair in priority order. -/
def resetFor (pressed : Action) (isHeld : Action → Bool) : Option Parameter :=
  pressed.parameter.bind fun _ =>
    Parameter.priority.find? fun p => isHeld p.pair.1 && isHeld p.pair.2

end KeyMidi
