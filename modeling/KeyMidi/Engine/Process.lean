import KeyMidi.Engine.Axis
/-!
# Processing input events

A key press (value 1) goes to the action bound to the key, if any, and otherwise to the note
binding of the active layer; a release (value 0) lets go of the same; other values repeat a held
key and are ignored. Holding every key of the exit chord requests an exit, once. After each event
the status is published; `flush` lets go of every note without publishing.
-/

namespace KeyMidi

open KeyMidi.Midi KeyMidi.Analog

/-- An input event of a device. -/
inductive InputEvent where
  /-- A key went down (1), up (0), or repeated (anything else). -/
  | key (id : InputId) (value : Int)
  /-- An axis moved; an axis without known bounds cannot be read. -/
  | axis (id : InputId) (value : Int) (bounds : Option Bounds)
  deriving Repr, Inhabited

namespace EngineM

/-- The action bound to a key, whatever the layer. -/
def actionFor (key : InputId) : EngineM (Option Action) := do
  return (← get).profile.actions.find? key.handler key.code

/-- Requests the exit once every key of the exit chord is held. -/
def checkExit : EngineM Unit := do
  let e ← get
  let chord := e.profile.exitSequence
  if e.exitRequested || chord.isEmpty then return
  if chord.all e.heldKeys.contains then set { e with exitRequested := true }

/-- Handles a key event. -/
def handleKey (key : InputId) (value : Int) : EngineM Unit := do
  if value == 0 then
    modify fun e => { e with heldKeys := e.heldKeys.erase key }
    match ← actionFor key with
    | some a => releaseAction a
    | none => releaseNote key
  else if value == 1 then
    modify fun e => { e with heldKeys := if e.heldKeys.contains key then e.heldKeys else key :: e.heldKeys }
    checkExit
    match ← actionFor key with
    | some a => pressAction a
    | none =>
      match (← get).layer?.bind (·.keys.find? key.handler key.code) with
      | some t => pressNote key t
      | none => pure ()

/-- Handles an event and publishes the status. -/
def handle : InputEvent → EngineM Unit
  | .key id value => do handleKey id value; publish
  | .axis id value bounds => do handleAxis id value bounds; publish

end EngineM

namespace Engine

/-- Runs a step on an engine, returning the engine and the messages the step asked for. -/
def request (e : Engine) (step : EngineM Unit) : Engine × List Request :=
  let e' := (step.run { e with outbox := #[] }).2
  ({ e' with outbox := #[] }, e'.outbox.toList)

/-- Runs a step on an engine, returning the engine and the messages the step sent. -/
def runStep (e : Engine) (step : EngineM Unit) : Engine × List Packet :=
  let (e', asked) := e.request step
  (e', asked.map Request.packet)

/-- Turns one input event into MIDI. -/
def process (e : Engine) (ev : InputEvent) : Engine × List Packet := e.runStep (EngineM.handle ev)

/-- Lets go of every note still sounding: those of the keys, in key order, then those of the
axes. The published status is left as it was. -/
def flush (e : Engine) : Engine × List Packet := e.runStep EngineM.releaseAll

/-- Ends a run: lets go of every note and publishes the status. -/
def finish (e : Engine) : Engine × List Packet := e.runStep do EngineM.releaseAll; EngineM.publish

/-- Runs an engine over its input to the end, then lets go of every note. When the output is
closed (`outputOpen` false), the first event that has something to send stops the run. -/
def run (e : Engine) (outputOpen : Bool) : List InputEvent → Engine × List Packet
  | [] => e.finish
  | ev :: rest =>
    let (e, sent) := e.process ev
    if !outputOpen && !sent.isEmpty then
      let (e, last) := e.finish
      (e, sent ++ last)
    else
      let (e, later) := e.run outputOpen rest
      (e, sent ++ later)

end Engine

end KeyMidi
