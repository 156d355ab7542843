import KeyMidi.Manager.Tasks
/-!
# A session of the device manager

A session runs the manager against a rig over a script of cues: at each cue's time, after the
timers due then have fired and before any task runs, something happens in the outside world,
and the session records its outcome. At the end, the process shuts down and the session waits
for the manager to stop.
-/

namespace KeyMidi

open KeyMidi.Midi

/-- Something that happens in the outside world. -/
inductive Happening where
  | plug (d : Device)
  | unplug (identity : Identity)
  | setFailing (identity : Identity) (on : Bool)
  /-- A device produces an event on its raw stream. -/
  | send (identity : Identity) (ev : InputEvent)
  /-- A message comes back from the synthesizer; none when its bytes were not a message. -/
  | loopback (p : Option Packet)
  | closeLoopback
  | setEnumerationFails (on : Bool)
  /-- Both profile trees are written anew, and the change is signalled. -/
  | reconfigure (user factory : Place)
  | closeChanges
  | snapshot
  | shutdown
  deriving Inhabited

/-- A happening at a time. -/
structure Cue where
  at_ : Nat
  happening : Happening
  deriving Inhabited

/-- A running device as the manager shows it. -/
structure DeviceView where
  id : Nat
  name : String
  identity : Identity
  profileName : String
  status : Status
  externalNotes : Nat
  deriving Inhabited

/-- What a happening came to. -/
inductive Outcome where
  | ok
  | noStream
  | streamClosed
  | blocked
  | rejected
  | loopbackClosed
  | changesClosed
  | snapshot (devices : List DeviceView) (outputs opens : Nat) (running : Bool)
  deriving Inhabited

/-- What a session shows at its end. -/
structure SessionReport where
  outcomes : List (Nat × Outcome)
  midi : List (Timed Packet)
  failure : Option Report
  stoppedAt : Nat
  opens : Nat
  devicesAfter : Nat
  exitFlag : Bool
  deriving Inhabited

/-- Buffer sizes of the channels the outside world writes to. -/
structure Capacities where
  raw : Nat := 64
  loopback : Nat := 16
  changes : Nat := 1
  deriving Inhabited

namespace Sim

/-- The running devices, by id. -/
def devices : Sim (List DeviceView) := do
  let w ← get
  let views := w.table.filterMap fun (id, k) => (w.tasks[k]?).map fun t =>
    { id, name := t.device.name, identity := t.device.identity, profileName := t.profile.name
      status := t.engine.shown, externalNotes := t.external.heldCount }
  return views.mergeSort fun a b => a.id ≤ b.id

/-- Makes something happen. -/
def happen (caps : Capacities) : Happening → Sim Outcome
  | .plug d => do
    modify fun w => { w with rig := { w.rig with plugged := w.rig.plugged ++ [d] } }
    return .ok
  | .unplug identity => do
    modify fun w => { w with rig := { w.rig with plugged := w.rig.plugged.filter (·.identity != identity) } }
    dropStreamOf identity
    return .ok
  | .setFailing identity on => do
    modify fun w => { w with
      rig := { w.rig with
        failing := if on then (if w.rig.failing.contains identity then w.rig.failing
          else w.rig.failing ++ [identity]) else w.rig.failing.filter (· != identity) } }
    return .ok
  | .send identity ev => do
    let w ← get
    match w.rig.streams.find? (·.1 == identity) with
    | none => return .noStream
    | some (_, s) =>
      let st := w.streams[s]?.getD default
      if !st.reading then return .streamClosed
      if st.queue.length ≥ caps.raw then return .blocked
      modifyStream s fun st => { st with queue := st.queue ++ [ev] }
      if let some r ← streamReader s then wake r
      return .ok
  | .loopback none => return .rejected
  | .loopback (some p) => do
    let w ← get
    if !w.loopbackOpen then return .loopbackClosed
    if w.loopback.source.length ≥ caps.loopback then return .blocked
    set { w with loopback := { w.loopback with source := w.loopback.source ++ [p] } }
    wake .forwarder
    return .ok
  | .closeLoopback => do
    modify fun w => { w with loopbackOpen := false, loopback := { w.loopback with sourceOpen := false } }
    wake .forwarder
    return .ok
  | .setEnumerationFails on => do
    modify fun w => { w with rig := { w.rig with enumerationFails := on } }
    return .ok
  | .reconfigure user factory => do
    modify fun w => { w with userTree := user, factoryTree := factory }
    let w ← get
    if w.manager.phase == .finished || !w.manager.changesOpen then return .changesClosed
    if w.manager.pendingChanges ≥ caps.changes then return .blocked
    set { w with manager := { w.manager with pendingChanges := w.manager.pendingChanges + 1 } }
    wake .manager
    return .ok
  | .closeChanges => do
    modify fun w => { w with manager := { w.manager with changesOpen := false } }
    wake .manager
    return .ok
  | .snapshot => do
    let w ← get
    return .snapshot (← devices) w.loopback.count w.rig.opens (w.manager.phase != .finished)
  | .shutdown => do
    fireShutdown
    return .ok

/-- The bound on task runs within one millisecond. -/
def runBound (w : World) : Nat :=
  64 * (w.tasks.size + w.streams.size + w.ready.length + 4) *
    (w.streams.foldl (fun n st => n + st.queue.length) 0 + w.tasks.size + 4)

/-- Everything that happens at one millisecond: timers, then the cues of that time, then the
tasks. When `stopping`, the process shuts down after the cues. -/
def instant (caps : Capacities) (t : Nat) (cues : List Happening) (stopping : Bool) :
    Sim (List Outcome) := do
  modify fun w => { w with now := t }
  fireTimers
  let outcomes ← cues.mapM (happen caps)
  if stopping then fireShutdown
  runReady (runBound (← get))
  return outcomes

/-- The earliest timer. -/
def nextTimer (w : World) : Option Nat := (w.timers.map (·.at_)).min?

/-- Runs the session from time `now` on: `cues` are those still to come, `stopAt` the time of
shutdown (none once it happened); `fuel` bounds the instants. -/
def go (caps : Capacities) : Nat → List Cue → Option Nat → List (Nat × Outcome) →
    Sim (List (Nat × Outcome))
  | 0, _, _, acc => return acc.reverse
  | fuel + 1, cues, stopAt, acc => do
    let w ← get
    let settled := stopAt.isNone && w.manager.phase == .finished
    let candidates := (cues.map (·.at_)).take 1 ++ stopAt.toList ++
      (if stopAt.isNone && settled then [] else (nextTimer w).toList)
    match candidates.min? with
    | none => return acc.reverse
    | some t =>
      if stopAt.isNone && cues.isEmpty && w.manager.phase == .finished then return acc.reverse
      let now := cues.filter (·.at_ == t)
      let later := cues.filter (·.at_ != t)
      let stopping := stopAt == some t && later.isEmpty
      let outs ← instant caps t (now.map (·.happening)) stopping
      let acc := (outs.reverse.map fun o => (t, o)) ++ acc
      go caps fuel later (if stopping then none else stopAt) acc

end Sim

/-- Runs a session of the manager: the settings, who hears the exit chord, the profile trees at
the start, the cues (in time order) and the time of shutdown. -/
def runSession (settings : DeviceSettings) (exitMode : ExitMode) (user factory : Place)
    (cues : List Cue) (stopAt : Nat) (caps : Capacities) : SessionReport :=
  let stopAt := max stopAt ((cues.map (·.at_)).max?.getD 0)
  let w0 : World := {
    settings, exitMode, userTree := user, factoryTree := factory
    store := { userDir := "<root>/user", factoryDir := "<root>/factory" }
    ready := [.forwarder, .manager] }
  let fuel := stopAt + cues.length + 256
  let (outcomes, w) := (Sim.go caps fuel cues (some stopAt) []).run w0
  { outcomes, midi := w.midi, failure := w.manager.failure
    stoppedAt := max stopAt (w.manager.finishedAt.getD 0), opens := w.rig.opens
    devicesAfter := w.table.length, exitFlag := w.exitFlag.fired }

end KeyMidi
