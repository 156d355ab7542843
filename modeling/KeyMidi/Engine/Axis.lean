import KeyMidi.Engine.Machine
/-!
# Axes

A sample of an axis is brought to the unit scale of its range, its dead zone removed around the
rest point, and flipped if its binding says so. A sample equal to the last one of the axis is
dropped; while learning, so is one nearer rest than half the scale. Then:

* a controller sends the sample as a 7-bit value; a two-sided one sends the size of the sample
  to the controller of its side, first zeroing the other side's controller when the side changed;
* a pitch bend sends the sample, centred, as a bend;
* a note axis sounds its note past half the scale (the negative note past half the other way,
  when two-sided), silencing the previous one when its zone changes;
* an action axis presses its action past half the scale (the negative action the other way),
  releasing the previous one when its zone changes.

An axis remembers what it did under one layer; when it moves under another layer, what it still
sounds or holds is let go first.
-/

namespace KeyMidi

open KeyMidi.Midi KeyMidi.Analog

namespace EngineM

/-- The memory of an axis, if it has moved before. -/
def axisMemory? (key : InputId) : EngineM (Option AxisMemory) := do
  return ((← get).axes.find? (·.1 == key)).map (·.2)

/-- Stores the memory of an axis, keeping its place. -/
def storeAxis (key : InputId) (m : AxisMemory) : EngineM Unit :=
  modify fun e =>
    if e.axes.any (·.1 == key) then
      { e with axes := e.axes.map fun a => if a.1 == key then (key, m) else a }
    else { e with axes := e.axes ++ [(key, m)] }

/-- The memory of an axis; one that has not moved before starts afresh under `layer`. -/
def recallAxis (key : InputId) (layer : Nat) : EngineM AxisMemory := do
  match ← axisMemory? key with
  | some m => pure m
  | none =>
    let m : AxisMemory := { layer }
    storeAxis key m
    pure m

/-- Lets go of what an axis still sounds or holds under a layer that is no longer active. -/
def settleAxis (key : InputId) : EngineM Unit := do
  let layer := (← get).position.mapping
  match ← axisMemory? key with
  | none => pure ()
  | some m =>
    if m.layer == layer then return
    storeAxis key { layer }
    if let some v := m.note then send v.noteOff
    if let some a := m.action then releaseAction a

/-- The shaped sample of an axis: on the unit scale, dead zone removed, flipped if bound so. -/
def shape (b : AxisBinding) (bounds : Bounds) (deadzone : Float) (raw : Int) : Float :=
  let signed := bounds.isSigned
  let v := applyDeadzone (normalize raw bounds) deadzone signed b.deadzoneAtCenter
  match b.role with
  | .controller _ _ _ true | .pitchBend true => flip v signed
  | _ => v

/-- The same sample as last time; doubles compare as numbers. -/
def sameSample : Option Float → Float → Bool
  | some x, v => x == v
  | none, _ => false

/-- Moves an axis. -/
def handleAxis (key : InputId) (raw : Int) (bounds : Option Bounds) : EngineM Unit := do
  let some bounds := bounds | return
  settleAxis key
  let e ← get
  let some layer := e.layer? | return
  let some binding := layer.axes.find? key.handler key.code | return
  let signed := bounds.isSigned
  let deadzone := (layer.deadzones.find? key.handler key.code).getD e.profile.defaults.deadzone
  let value := shape binding bounds deadzone raw
  let m ← recallAxis key e.position.mapping
  if sameSample m.last value then return
  if e.position.learning && value.abs < 0.5 then return
  let m := { m with last := some value }
  storeAxis key m
  let pos := e.position
  let channel := pos.channelFor binding.channelOffset
  let centered := if signed then value else value * 2.0 - 1.0
  match binding.role with
  | .controller cc ccNeg twoSided _ =>
    if twoSided then
      let side := if centered < 0.0 then Side.negative else Side.positive
      let controller (s : Side) : UInt8 := match s with
        | .positive => cc
        | .negative => ccNeg
      if let some prev := m.side then
        if prev != side then send (.controlChange channel (controller prev) 0)
      storeAxis key { m with side := some side }
      send (.controlChange channel (controller side) (unitToSeven centered.abs))
    else
      let size := if signed then (value + 1.0) / 2.0 else value
      send (.controlChange channel cc (unitToSeven size))
  | .pitchBend _ => send (.pitchBend channel centered)
  | .note note noteNeg twoSided =>
    let zone := Zone.ofLevel (if twoSided then centered else value) twoSided
    if zone == m.zone then return
    storeAxis key { m with zone, note := none }
    if let some v := m.note then send v.noteOff
    let base := match zone with
      | .high => some note
      | .low => some noteNeg
      | .middle => none
    let some base := base | return
    if let some n := pos.transpose base 0 then
      send (.noteOn channel n pos.velocity)
      storeAxis key { m with zone, note := some ⟨channel, n⟩ }
  | .action action actionNeg twoSided =>
    let zone := Zone.ofLevel (if twoSided then centered else value) twoSided
    if zone == m.zone then return
    let next := match zone with
      | .high => some action
      | .low => actionNeg
      | .middle => none
    storeAxis key { m with zone, action := next }
    if let some prev := m.action then releaseAction prev
    if let some a := next then pressAction a

end EngineM

end KeyMidi
