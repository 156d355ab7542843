import KeyMidi.Manager.World
/-!
# The tasks of the device manager

Each task of the system is a step function in `Sim`: it runs from where it waited until it has
to wait again. `Sim.poll` dispatches on the task.

* The manager takes what is ready, in this order: shutdown, a profile change, a found device.
  It ends the discovery cycle on the first two; at shutdown it then waits for every device task.
* A discovery polls the rig at every tick of its cycle and hands the devices that became stable
  to the manager.
* A device task opens its device, retrying until the open timeout, attaches to the loopback
  input and runs an engine until its input ends; then it lets go of every note, detaches and
  waits for its echo.
* A throttle reads the raw stream of a device and passes on keys and due axis samples; each axis
  has a timer that passes on the sample it settled on.
* The forwarder copies the loopback input to every attached echo, and an echo keeps the
  external notes of its device.
* A closer waits for shutdown and then takes the stream of its identity off the rig.
-/

namespace KeyMidi

open KeyMidi.Midi

namespace Sim

/-! ## Device tasks -/

/-- The raw stream of a device task loses its reader, unless a throttle reads it. -/
def closeInput (t : DeviceTask) : Sim Unit := do
  if let some s := t.stream then
    if !t.throttled then modifyStream s fun st => { st with reading := false }

/-- Ends a device task: its input goes away, its claim is released and the manager hears of
it. -/
def completeTask (k : Nat) : Sim Unit := do
  let t ← task k
  modifyTask k fun t => { t with stage := .done, listening := false }
  closeInput t
  modify fun w => { w with
    claimed := w.claimed.erase t.device.identity
    table := w.table.filter (·.2 != k) }
  wake .manager

/-- Hands an event from the throttle of device task `k` to its engine; false when the engine no
longer listens. -/
def pass (k : Nat) (ev : InputEvent) : Sim Bool := do
  let t ← task k
  if t.listening then
    modifyTask k fun t => { t with passed := t.passed ++ [ev] }
    wake (.device k)
    return true
  else return false

/-- Stops the throttle of device task `k`: every axis timer stops, the raw stream loses its
reader, and the engine's input ends. -/
def stopThrottle (k : Nat) : Sim Unit := do
  let t ← task k
  for g in t.throttle.gates do clearTimers (.gate k g.key)
  modifyTask k fun t => { t with
    throttling := false, rearmed := [], rung := []
    throttle := { t.throttle with gates := t.throttle.gates.map fun g => { g with alive := false } } }
  if let some s := t.stream then modifyStream s fun st => { st with reading := false }
  wake (.device k)

/-- The events waiting for the engine of device task `k`, taken, and whether its input has
ended. -/
def takeInput (k : Nat) : Sim (List InputEvent × Bool) := do
  let t ← task k
  if t.throttled then
    modifyTask k fun t => { t with passed := [] }
    return (t.passed, !t.throttling)
  else
    match t.stream with
    | none => return ([], true)
    | some s =>
      let st := (← get).streams[s]?.getD default
      modifyStream s fun st => { st with queue := [] }
      return (st.queue, !st.sending)

/-- Tells whoever listens that a device played its exit chord. -/
def triggerExit : Sim Unit := do
  match (← get).exitMode with
  | .none => pure ()
  | .flag => modify fun w => { w with exitFlag := w.exitFlag.fire }
  | .shutdown => fireShutdown

/-- Removes a finished device from the table and ends its task. -/
def retire (k : Nat) : Sim Unit := do
  modify fun w => { w with table := w.table.filter (·.2 != k) }
  completeTask k

/-- Removes the output of the loopback input that a device task holds. -/
def detachOutput (t : DeviceTask) : Sim Unit := do
  let w ← get
  match w.loopback.despawn (w.loopback.outlets[t.outlet]?.map (·.id) |>.getD (-1)) with
  | .ok f => set { w with loopback := f }
  | .error _ => pure ()

/-- Runs the engine of device task `k` over the events waiting for it. When its input has
ended, it lets go of every note, and the task detaches from the loopback input. -/
def runEngine (k : Nat) : Sim Unit := do
  let (events, ended) ← takeInput k
  for ev in events do
    let t ← task k
    let (e, sent) := t.engine.process ev
    modifyTask k fun t => { t with engine := e }
    sendMidi sent
    if !t.engine.exitRequested && e.exitRequested then triggerExit
  if ended then
    let t ← task k
    let (e, sent) := t.engine.finish
    sendMidi sent
    modifyTask k fun t => { t with engine := e, stage := .detached, listening := false }
    closeInput t
    detachOutput t
    wake (.echo k)
    if (← task k).echoDone then retire k

/-- Attaches device task `k` to the loopback input and starts its engine; a task that cannot
attach ends. -/
def attach (k : Nat) : Sim Unit := do
  let w ← get
  match w.loopback.spawn with
  | .error _ => completeTask k
  | .ok (f, _, h) =>
    let id := w.nextId
    set { w with loopback := f, nextId := id + 1, table := w.table ++ [(id, k)] }
    modifyTask k fun t => { t with stage := .running, id, outlet := h, engine := Engine.new t.profile }
    wake (.echo k)
    runEngine k

/-- One attempt of device task `k` to open its device, the first made at `started`. A device
refuses when it is marked failing or is not plugged in. -/
def attemptOpen (k : Nat) (started : Nat) : Sim Unit := do
  let w ← get
  let t ← task k
  let identity := t.device.identity
  set { w with rig := { w.rig with opens := w.rig.opens + 1 } }
  if w.rig.failing.contains identity || !w.rig.plugged.any (·.identity == identity) then
    if w.now - started ≥ w.settings.openTimeoutMs || w.shutdown.fired then completeTask k
    else
      let resumeAt := w.now + w.settings.openRetryMs
      modifyTask k fun t => { t with stage := .opening started resumeAt }
      setTimer resumeAt (.retry k)
  else
    let s := (← get).streams.size
    -- a stream opened earlier for the identity is replaced, which closes it
    dropStreamOf identity
    modify fun w => { w with
      streams := w.streams.push { identity }
      rig := { w.rig with streams := w.rig.streams ++ [(identity, s)] } }
    wake (.closer s)
    let throttled := w.settings.axisThrottleMs > 0
    modifyTask k fun t => { t with
      stream := some s, throttled, throttling := throttled
      throttle := { interval := w.settings.axisThrottleMs } }
    if throttled then wake (.throttler k)
    attach k

/-- Runs device task `k`. -/
def pollDevice (k : Nat) : Sim Unit := do
  let w ← get
  let t ← task k
  match t.stage with
  | .fresh => attemptOpen k w.now
  | .opening started resumeAt =>
    if w.shutdown.fired then completeTask k
    else if resumeAt ≤ w.now then attemptOpen k started
  | .running => runEngine k
  | .detached => if t.echoDone then retire k
  | .done => pure ()

/-! ## Throttles -/

/-- Runs the throttle of device task `k` over the raw events waiting for it. A failed hand-over
stops it; so does the end of the raw stream. -/
def pollThrottler (k : Nat) : Sim Unit := do
  let t ← task k
  if !t.throttling then return
  let some s := t.stream | return
  let st := (← get).streams[s]?.getD default
  modifyStream s fun st => { st with queue := [] }
  let mut running := true
  for ev in st.queue do
    if running then
      match ev with
      | .key .. => running ← pass k ev
      | .axis key .. =>
        let w ← get
        let t ← task k
        let (th, out) := t.throttle.takeIn w.now 0 ev
        modifyTask k fun t => { t with
          throttle := th
          rearmed := if t.rearmed.contains key then t.rearmed else t.rearmed ++ [key] }
        wake (.emitter k key)
        if let some ev := out then running ← pass k ev
  if !running || !st.sending then stopThrottle k

/-- Runs the timer task of one axis: it sets its timer again when the deadline moved, and passes
on the settled sample when the timer fired. -/
def pollEmitter (k : Nat) (key : InputId) : Sim Unit := do
  let t ← task k
  let g := t.throttle.gate key
  if !g.alive || !t.throttling then return
  if t.rearmed.contains key then
    modifyTask k fun t => { t with rearmed := t.rearmed.erase key, rung := t.rung.erase key }
    clearTimers (.gate k key)
    if let some d := g.deadline then setTimer d (.gate k key)
  else if t.rung.contains key then
    let (th, out) := t.throttle.fireGate key (← get).now
    modifyTask k fun t => { t with throttle := th, rung := t.rung.erase key }
    if let some ev := out then
      if !(← pass k ev) then
        modifyTask k fun t => { t with throttle := t.throttle.stopGate key }

/-! ## The loopback input -/

/-- The attached device task holding an output of the loopback input. -/
def holder (h : Nat) : Sim (Option Nat) := do
  let w ← get
  return (w.tasks.toList.zipIdx.find? fun (t, _) => t.attached && !t.echoDone && t.outlet == h).map (·.2)

/-- Runs the forwarder until it waits, waking the echoes that got something, in registry
order. -/
def pollForwarder : Sim Unit := do
  let w ← get
  let before := w.loopback
  let after := before.settle
  set { w with loopback := after }
  for h in before.registry do
    let grew := ((after.outlets[h]?).map (·.queue.length)).getD 0 >
      ((before.outlets[h]?).map (·.queue.length)).getD 0
    if grew then
      if let some k ← holder h then wake (.echo k)

/-- Runs the echo of device task `k`: it applies what reached its output, and ends once the
output is removed and drained. -/
def pollEcho (k : Nat) : Sim Unit := do
  let t ← task k
  if t.echoDone || !t.attached then return
  let w ← get
  match w.loopback.outlets[t.outlet]? with
  | none => pure ()
  | some o =>
    set { w with loopback := w.loopback.modifyOutlet t.outlet fun o => { o with queue := [] } }
    modifyTask k fun t => { t with external := o.queue.foldl ExternalNotes.apply t.external }
    if !o.queue.isEmpty && w.loopback.busy then wake .forwarder
    if !o.registered then
      modifyTask k fun t => { t with echoDone := true }
      if (← task k).stage == .detached then wake (.device k)

/-! ## Streams -/

/-- Runs the closer of stream `s`: after shutdown it takes the stream of its identity off the
rig. -/
def pollCloser (s : Nat) : Sim Unit := do
  let w ← get
  let some st := w.streams[s]? | return
  if w.shutdown.fired && !st.released then
    modifyStream s fun st => { st with released := true }
    dropStreamOf st.identity

/-! ## Discovery -/

/-- Runs the discovery of a cycle: at a tick it sets the next one, polls the rig (unless the
rig fails to list its devices) and hands the devices that became stable to the manager. -/
def pollDiscovery (c : Nat) : Sim Unit := do
  let w ← get
  let some d := w.discovery | return
  if d.cycle != c || w.now < d.nextTick then return
  let next := w.now + w.settings.pollIntervalMs
  setTimer next (.tick c)
  let d := { d with nextTick := next }
  if w.rig.enumerationFails then
    modify fun w => { w with discovery := some d }
  else
    let (stabilizer, stable) := d.stabilizer.observe w.rig.plugged w.now w.settings.stabilizationMs
    modify fun w => { w with discovery := some { d with stabilizer, found := d.found ++ stable } }
    if !stable.isEmpty then wake .manager

/-! ## The manager -/

/-- Starts a discovery cycle. -/
def startCycle : Sim Unit := do
  let w ← get
  let cycle := w.manager.cycle + 1
  set { w with manager := { w.manager with cycle }, discovery := some { cycle, nextTick := w.now } }
  wake (.discovery cycle)

/-- Ends the discovery cycle; devices found and not yet taken are dropped. -/
def endCycle : Sim Unit := do
  let w ← get
  if let some d := w.discovery then clearTimers (.tick d.cycle)
  modify fun w => { w with discovery := none }

/-- Starts the task of a found device, unless the device is ignored, has no profile or already
has a task. -/
def spawnDevice (d : Device) : Sim Unit := do
  let w ← get
  if w.settings.isIgnored d then return
  match w.store.find d.identity d.kind with
  | .error _ => pure ()
  | .ok profile =>
    if w.claimed.contains d.identity then return
    let k := w.tasks.size
    set { w with
      tasks := w.tasks.push { device := d, profile }, claimed := w.claimed ++ [d.identity]
      manager := { w.manager with tasks := w.manager.tasks ++ [k] } }
    wake (.device k)

/-- Finishes the manager once every device task has ended. -/
def checkDrained : Sim Unit := do
  let w ← get
  if w.manager.tasks.all fun k => (w.tasks[k]?.map (·.stage == .done)).getD true then
    set { w with manager := { w.manager with phase := .finished, finishedAt := some w.now } }

/-- The manager's loop: it takes what is ready until nothing is; `fuel` bounds the rounds. -/
def managerLoop : Nat → Sim Unit
  | 0 => pure ()
  | fuel + 1 => do
    let w ← get
    let m := w.manager
    if w.shutdown.fired then
      endCycle
      modify fun w => { w with manager := { w.manager with phase := .draining } }
      checkDrained
    else if m.watching && m.pendingChanges > 0 then
      endCycle
      -- broken profiles keep the old ones
      let store := match w.store.load w.userTree w.factoryTree with
        | .ok s => s
        | .error _ => w.store
      modify fun w => { w with store, manager := { w.manager with pendingChanges := m.pendingChanges - 1 } }
      startCycle
      managerLoop fuel
    else if m.watching && !m.changesOpen then
      modify fun w => { w with manager := { w.manager with watching := false } }
      managerLoop fuel
    else
      match w.discovery with
      | some d =>
        match d.found with
        | dev :: rest =>
          modify fun w => { w with discovery := some { d with found := rest } }
          spawnDevice dev
          managerLoop fuel
        | [] => pure ()
      | none => pure ()

/-- Runs the manager. Its first run loads the profiles; a failure ends it. -/
def pollManager : Sim Unit := do
  let w ← get
  let fuel := w.manager.pendingChanges + ((w.discovery.map (·.found.length)).getD 0) + 4
  match w.manager.phase with
  | .starting =>
    match w.store.load w.userTree w.factoryTree with
    | .error e =>
      set { w with
        manager := { w.manager with
          phase := .finished, finishedAt := some w.now
          failure := some ⟨["Failed to load device configs", e.describe] ++ e.cause.toList⟩ } }
    | .ok store =>
      set { w with store, manager := { w.manager with phase := .looping } }
      startCycle
      managerLoop fuel
  | .looping => managerLoop fuel
  | .draining => checkDrained
  | .finished => pure ()

/-! ## Scheduling -/

/-- Runs a task until it waits. -/
def poll : TaskId → Sim Unit
  | .manager => pollManager
  | .discovery c => pollDiscovery c
  | .device k => pollDevice k
  | .throttler k => pollThrottler k
  | .emitter k key => pollEmitter k key
  | .forwarder => pollForwarder
  | .echo k => pollEcho k
  | .closer s => pollCloser s

/-- Runs the woken tasks in order until none is left; `fuel` bounds the runs. -/
def runReady : Nat → Sim Unit
  | 0 => pure ()
  | fuel + 1 => do
    match (← get).ready with
    | [] => pure ()
    | t :: rest =>
      modify fun w => { w with ready := rest }
      poll t
      runReady fuel

/-- Fires the timers due now, in the order they were set. -/
def fireTimers : Sim Unit := do
  let w ← get
  let due := w.timers.filter (·.at_ ≤ w.now)
  set { w with timers := w.timers.filter (·.at_ > w.now) }
  for tm in due.mergeSort fun a b => a.at_ < b.at_ || (a.at_ == b.at_ && a.seq ≤ b.seq) do
    match tm.alarm with
    | .tick c => wake (.discovery c)
    | .retry k => wake (.device k)
    | .gate k key =>
      modifyTask k fun t => { t with rung := if t.rung.contains key then t.rung else t.rung ++ [key] }
      wake (.emitter k key)

end Sim

end KeyMidi
