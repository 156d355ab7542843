import KeyMidi.Profile.Basic
import KeyMidi.Decimal.Text
/-!
# Checking profiles

A profile that reads well may still be unusable: a channel above 15, a note above 127, a default
layer that does not exist, a key bound both to a note and to an action. `Profile.check` finds the
first such problem and says what it is, in the order the fields are listed: the profile's own
fields, then each layer's keys, axes and dead zones.
-/

namespace KeyMidi

namespace Profile

/-- A 7-bit MIDI number. -/
def checkSeven (what : String) (value : UInt8) : Except String Unit :=
  if value > 127 then throw (what ++ " " ++ toString value ++ " is invalid (must be 0-127)")
  else pure ()

/-- A channel offset. -/
def checkOffset (offset : UInt8) : Except String Unit :=
  if offset > 15 then throw ("channel offset " ++ toString offset ++ " is invalid (must be 0-15)")
  else pure ()

/-- A dead zone: a fraction in `[0, 1)`; not-a-number is refused. -/
def checkDeadzone (what : String) (value : Float) : Except String Unit :=
  if 0.0 ≤ value && value < 1.0 then pure ()
  else throw (what ++ " " ++ Decimal.Layout.message.write value ++ " is invalid (must be in [0, 1))")

/-- An axis binding. -/
def checkAxis (handler : String) (code : Nat) (a : AxisBinding) : Except String Unit := do
  checkOffset a.channelOffset
  match a.role with
  | .controller cc ccNeg _ _ => checkSeven "cc" cc; checkSeven "cc_neg" ccNeg
  | .pitchBend _ => pure ()
  | .note n nNeg _ => checkSeven "note" n; checkSeven "note_neg" nNeg
  | .action _ neg twoSided =>
    if twoSided && neg.isNone then
      throw ("axis " ++ handler ++ ":" ++ toString code ++ " is bidirectional but has no action_neg")

/-- A layer, given the keys bound to actions. -/
def checkLayer (actions : CodeMap Action) (l : Layer) : Except String Unit := do
  for (handler, code, t) in l.keys.toList do
    if (actions.find? handler code).isSome then
      throw ("key " ++ handler ++ ":" ++ toString code ++ " is bound to both a note and an action")
    checkSeven "note" t.note
    checkOffset t.channelOffset
  for (handler, code, a) in l.axes.toList do
    checkAxis handler code a
  for (_, _, dz) in l.deadzones.toList do
    checkDeadzone "deadzone" dz

/-- The first problem of a profile, if any. -/
def check (p : Profile) : Except String Unit := do
  if p.name.isEmpty then throw "config name cannot be empty"
  if !p.kind.isSupported then throw ("device type '" ++ p.kind.name ++ "' is not supported")
  if p.layers.isEmpty then throw "at least one mapping must be defined"
  let d := p.defaults
  if d.channel > 15 then
    throw ("default channel " ++ toString d.channel ++ " is invalid (must be 0-15)")
  if d.mapping ≥ p.layers.length then
    throw ("default mapping " ++ toString d.mapping ++ " is out of range (" ++
      toString p.layers.length ++ " mappings)")
  if d.velocity > 127 then
    throw ("default velocity " ++ toString d.velocity ++ " is invalid (must be 0-127)")
  checkDeadzone "default deadzone" d.deadzone
  for l in p.layers do
    match checkLayer p.actions l with
    | .ok () => pure ()
    | .error e => throw ("mapping '" ++ l.name ++ "': " ++ e)

end Profile

end KeyMidi
