import KeyMidi.Input.Throttle
import KeyMidi.Discovery.Stabilizer
import KeyMidi.Settings.Basic
import KeyMidi.Store.Load
import KeyMidi.Fanout
import KeyMidi.Shutdown
import KeyMidi.Notes.External
import KeyMidi.Report
/-!
# The device manager and its surroundings

The device manager runs discovery cycles: each cycle polls the input backend for devices, and
every device that has stayed present for the stabilization window gets a task of its own. The
task opens the device (retrying until the open timeout), throttles its axes if asked to, attaches
to the loopback input (the MIDI coming back from the synthesizer) and runs an engine on the
device until its input closes. A change of the profiles ends the cycle; the profiles are loaded
again and a new cycle starts. Shutdown ends the cycles and waits for every device task.

The system is a set of cooperating tasks over virtual time, in milliseconds. At each millisecond
the timers due then fire, in the order they were set; then the outside world acts; then the woken
tasks run one after the other, in the order they were woken, each until it has to wait. The
outside world is a rig of simulated hardware: devices plugged in or out, devices that refuse to
open, and the raw input streams of opened devices, each closed when its device is unplugged or
the process shuts down.
-/

namespace KeyMidi

open KeyMidi.Midi

/-- The raw input stream of an opened device. -/
structure Stream where
  identity : Identity
  queue : List InputEvent := []
  /-- The rig still holds the sending side. -/
  sending : Bool := true
  /-- The reading side still exists. -/
  reading : Bool := true
  /-- The stream's shutdown watch has done its work. -/
  released : Bool := false
  deriving Inhabited

/-- The simulated hardware. -/
structure Rig where
  /-- Plugged devices, in plug order (a device plugged twice is listed twice). -/
  plugged : List Device := []
  failing : List Identity := []
  /-- The stream of each opened device, by identity. -/
  streams : List (Identity × Nat) := []
  opens : Nat := 0
  enumerationFails : Bool := false
  deriving Inhabited

/-- A task of the system. -/
inductive TaskId where
  | manager
  | discovery (cycle : Nat)
  | device (k : Nat)
  /-- The throttle of device task `k`. -/
  | throttler (k : Nat)
  /-- The timer of one axis of the throttle of device task `k`. -/
  | emitter (k : Nat) (key : InputId)
  /-- The forwarder of the loopback input. -/
  | forwarder
  /-- Copies the loopback input into the external notes of device task `k`. -/
  | echo (k : Nat)
  /-- Closes stream `s` at shutdown. -/
  | closer (s : Nat)
  deriving DecidableEq, Repr, Inhabited

/-- What a timer wakes. -/
inductive Alarm where
  | tick (cycle : Nat)
  | retry (k : Nat)
  | gate (k : Nat) (key : InputId)
  deriving DecidableEq, Repr, Inhabited

/-- A timer: when it fires, the order it was set in, and what it wakes. -/
structure Timer where
  at_ : Nat
  seq : Nat
  alarm : Alarm
  deriving Repr, Inhabited

/-- Where a device task is. -/
inductive Stage where
  /-- Not yet run. -/
  | fresh
  /-- Waiting to open again at `resumeAt`; the first attempt was made at `started`. -/
  | opening (started resumeAt : Nat)
  | running
  /-- The engine has stopped and the loopback output is removed; the echo is finishing. -/
  | detached
  | done
  deriving DecidableEq, Repr, Inhabited

/-- A device task. -/
structure DeviceTask where
  device : Device
  profile : Profile
  stage : Stage := .fresh
  stream : Option Nat := none
  /-- Reads its input through a throttle. -/
  throttled : Bool := false
  throttle : Throttle := { interval := 0 }
  /-- The throttle still reads the raw stream. -/
  throttling : Bool := false
  /-- Axes whose deadline moved since their timer was set. -/
  rearmed : List InputId := []
  /-- Axes whose timer has fired. -/
  rung : List InputId := []
  /-- Events the throttle passed on, not yet read by the engine. -/
  passed : List InputEvent := []
  /-- The engine still reads what the throttle passes on. -/
  listening : Bool := true
  id : Nat := 0
  outlet : Nat := 0
  engine : Engine := default
  external : ExternalNotes := .empty
  echoDone : Bool := false
  deriving Inhabited

/-- The task holds a loopback output. -/
def DeviceTask.attached (t : DeviceTask) : Bool := t.stage == .running || t.stage == .detached

/-- The discovery of a cycle. -/
structure Discovery where
  cycle : Nat
  stabilizer : Stabilizer := {}
  nextTick : Nat
  /-- Devices found and not yet taken by the manager. -/
  found : List Device := []
  deriving Inhabited

/-- Where the manager is. -/
inductive ManagerPhase where
  | starting
  | looping
  | draining
  | finished
  deriving DecidableEq, Repr, Inhabited

/-- Who is told when a device plays its exit chord. -/
inductive ExitMode where
  /-- Nobody. -/
  | none
  /-- A trigger of its own. -/
  | flag
  /-- The manager's shutdown. -/
  | shutdown
  deriving DecidableEq, Repr, Inhabited

/-- The manager. -/
structure Manager where
  phase : ManagerPhase := .starting
  failure : Option Report := none
  cycle : Nat := 0
  /-- The manager still listens for profile changes. -/
  watching : Bool := true
  pendingChanges : Nat := 0
  /-- The sender of profile changes still exists. -/
  changesOpen : Bool := true
  /-- Device tasks, in spawn order. -/
  tasks : List Nat := []
  finishedAt : Option Nat := none
  deriving Inhabited

/-- The whole system. -/
structure World where
  now : Nat := 0
  settings : DeviceSettings
  exitMode : ExitMode := .none
  store : ProfileStore
  userTree : Place := .missing
  factoryTree : Place := .missing
  rig : Rig := {}
  manager : Manager := {}
  discovery : Option Discovery := none
  tasks : Array DeviceTask := #[]
  streams : Array Stream := #[]
  loopback : Fanout Packet := Fanout.create 16 9223372036854775807
  /-- The sender of the loopback input still exists. -/
  loopbackOpen : Bool := true
  /-- Running devices by id, with their task. -/
  table : List (Nat × Nat) := []
  claimed : List Identity := []
  nextId : Nat := 1
  shutdown : Scope := {}
  exitFlag : Scope := {}
  midi : List (Timed Packet) := []
  timers : List Timer := []
  seq : Nat := 0
  ready : List TaskId := []
  deriving Inhabited

/-- Steps of the system. -/
abbrev Sim := StateM World

namespace Sim

/-- Wakes a task: it runs after the tasks already woken. A task already woken keeps its
place. -/
def wake (t : TaskId) : Sim Unit :=
  modify fun w => if w.ready.contains t then w else { w with ready := w.ready ++ [t] }

/-- Sets a timer. -/
def setTimer (at_ : Nat) (alarm : Alarm) : Sim Unit :=
  modify fun w => { w with timers := w.timers ++ [⟨at_, w.seq, alarm⟩], seq := w.seq + 1 }

/-- Removes the timers of an alarm. -/
def clearTimers (alarm : Alarm) : Sim Unit :=
  modify fun w => { w with timers := w.timers.filter (·.alarm != alarm) }

/-- A device task. -/
def task (k : Nat) : Sim DeviceTask := do return (← get).tasks[k]?.getD default

/-- Changes a device task. -/
def modifyTask (k : Nat) (f : DeviceTask → DeviceTask) : Sim Unit :=
  modify fun w => { w with tasks := w.tasks.modify k f }

/-- Changes a stream. -/
def modifyStream (s : Nat) (f : Stream → Stream) : Sim Unit :=
  modify fun w => { w with streams := w.streams.modify s f }

/-- The task that reads a stream: the throttle of its device, or the device task itself. -/
def streamReader (s : Nat) : Sim (Option TaskId) := do
  let w ← get
  match w.tasks.toList.zipIdx.find? fun (t, _) => t.stream == some s with
  | some (t, k) => return some (if t.throttled then .throttler k else .device k)
  | none => return none

/-- Removes the rig's stream of an identity; the stream closes. -/
def dropStreamOf (identity : Identity) : Sim Unit := do
  let w ← get
  match w.rig.streams.find? (·.1 == identity) with
  | none => pure ()
  | some (_, s) =>
    set { w with rig := { w.rig with streams := w.rig.streams.filter (·.1 != identity) } }
    modifyStream s fun st => { st with sending := false }
    if let some r ← streamReader s then wake r

/-- Records MIDI sent by an engine. -/
def sendMidi (ps : List Packet) : Sim Unit :=
  modify fun w => { w with midi := w.midi ++ ps.map fun p => ⟨w.now, p⟩ }

/-- Fires the manager's shutdown, waking everything that waits on it. -/
def fireShutdown : Sim Unit := do
  let w ← get
  if w.shutdown.fired then return
  set { w with shutdown := w.shutdown.fire }
  wake .manager
  for (t, k) in w.tasks.toList.zipIdx do
    if let .opening .. := t.stage then wake (.device k)
  for s in List.range w.streams.size do wake (.closer s)

end Sim

end KeyMidi
