import KeyMidi.Engine.Process
/-!
# Throttling axis samples

Axes can report far more samples than are useful. The throttle lets at most one sample of an
axis through per interval while it moves, and makes sure the value it settles on is still
delivered. Keys pass untouched.

A sample is due when the axis has let nothing through yet, or when more than the interval has
passed since it last did; a due sample passes at once (even if its value repeats). Otherwise it
becomes the axis's pending sample. Every sample sets the axis's deadline to its time plus the
interval plus 10 ms of headroom; at the deadline, the pending sample passes, unless its value is
the one last let through.

Times are in milliseconds. Axes whose deadlines fall on the same millisecond fire in the order
in which they were armed.
-/

namespace KeyMidi

/-- The throttling state of one axis. -/
structure AxisGate where
  key : InputId
  lastEmit : Option Nat := none
  lastValue : Option Int := none
  pending : Option InputEvent := none
  /-- When the pending sample is due; none while the gate is idle. -/
  deadline : Option Nat := none
  /-- The order in which the gate was armed for its deadline. -/
  armedAt : Nat := 0
  /-- The gate can still let samples through at its deadline. -/
  alive : Bool := true
  deriving Inhabited

/-- The throttle of one device. -/
structure Throttle where
  interval : Nat
  /-- Gates in the order their axes first appeared. -/
  gates : List AxisGate := []
  deriving Inhabited

namespace AxisGate

/-- Notes that a value was let through at `now`. -/
def record (g : AxisGate) (value : Int) (now : Nat) : AxisGate :=
  { g with lastEmit := some now, lastValue := some value, pending := none }

/-- The value of an event. -/
def valueOf : InputEvent → Int
  | .key _ v => v
  | .axis _ v _ => v

/-- Fires one gate at its deadline: the settled sample it lets through, if any. -/
def fire (g : AxisGate) (now : Nat) : AxisGate × Option InputEvent :=
  let g := { g with deadline := none }
  match g.pending with
  | none => (g, none)
  | some ev =>
    if g.lastValue == some (valueOf ev) then ({ g with pending := none }, none)
    else (g.record (valueOf ev) now, some ev)

end AxisGate

namespace Throttle

/-- The gate of an axis, new if the axis has not been seen. -/
def gate (th : Throttle) (key : InputId) : AxisGate :=
  (th.gates.find? (·.key == key)).getD { key }

/-- Stores a gate, keeping its place. -/
def store (th : Throttle) (g : AxisGate) : Throttle :=
  if th.gates.any (·.key == g.key) then
    { th with gates := th.gates.map fun x => if x.key == g.key then g else x }
  else { th with gates := th.gates ++ [g] }

/-- Takes an event at `now` (`seq` numbers the events in arrival order): returns what passes at
once, if anything. -/
def takeIn (th : Throttle) (now seq : Nat) (ev : InputEvent) : Throttle × Option InputEvent :=
  match ev with
  | .key .. => (th, some ev)
  | .axis key value _ =>
    let g := th.gate key
    let due := match g.lastEmit with
      | none => true
      | some at_ => now - at_ > th.interval
    let g := if due then g.record value now else { g with pending := some ev }
    let deadline := now + th.interval + 10
    let g := if g.deadline == some deadline then g else { g with deadline := some deadline, armedAt := seq }
    (th.store g, if due then some ev else none)

/-- The earlier of the deadline found so far and the deadline of a gate, if the gate is live. -/
def earlier (acc : Option Nat) (g : AxisGate) : Option Nat :=
  if !g.alive then acc else match g.deadline, acc with
    | some d, some a => some (min d a)
    | some d, none => some d
    | none, a => a

/-- The earliest deadline of a live gate. -/
def nextDeadline (th : Throttle) : Option Nat :=
  th.gates.foldl earlier none

/-- The live gates due at `now`, in arming order. -/
def dueAt (th : Throttle) (now : Nat) : List InputId :=
  let due := th.gates.filter fun g => g.alive && g.deadline == some now
  (due.mergeSort fun a b => a.armedAt ≤ b.armedAt).map (·.key)

/-- Fires the gate of an axis at `now`. -/
def fireGate (th : Throttle) (key : InputId) (now : Nat) : Throttle × Option InputEvent :=
  let (g, out) := (th.gate key).fire now
  (th.store g, out)

/-- Stops the gate of an axis: it lets nothing through any more. -/
def stopGate (th : Throttle) (key : InputId) : Throttle :=
  th.store { th.gate key with alive := false }

end Throttle

/-- A value at a time, in milliseconds. -/
structure Timed (α : Type) where
  at_ : Nat
  value : α
  deriving Repr, Inhabited

/-- The state of a throttle fed by a stream and read by a consumer. -/
structure ThrottleRun where
  throttle : Throttle
  /-- The throttle still reads its stream. -/
  running : Bool := true
  /-- The consumer still reads the throttled stream. -/
  consumed : Bool := true
  delivered : List (Timed InputEvent) := []
  accepted : Nat := 0
  seq : Nat := 0
  deriving Inhabited

namespace ThrottleRun

/-- Delivers an event at `now`; false if the consumer is gone. -/
def deliver (r : ThrottleRun) (now : Nat) (ev : InputEvent) : ThrottleRun × Bool :=
  if r.consumed then ({ r with delivered := r.delivered ++ [⟨now, ev⟩] }, true) else (r, false)

/-- Fires the gate of one axis at `now` and delivers what it lets through; a failed delivery stops
the gate. -/
def fireOne (now : Nat) (r : ThrottleRun) (key : InputId) : ThrottleRun :=
  let (th, out) := r.throttle.fireGate key now
  let r := { r with throttle := th }
  match out with
  | none => r
  | some ev =>
    let (r, ok) := r.deliver now ev
    if ok then r else { r with throttle := r.throttle.stopGate key }

/-- Fires the gates due at `now`. -/
def fireAll (r : ThrottleRun) (now : Nat) : ThrottleRun :=
  (r.throttle.dueAt now).foldl (fireOne now) r

/-- The throttle reads one event sent at `now`, unless it has stopped; a failed delivery stops it. -/
def readOne (now : Nat) (r : ThrottleRun) (ev : InputEvent) : ThrottleRun :=
  if !r.running then r
  else
    let (th, out) := r.throttle.takeIn now r.seq ev
    let r := { r with throttle := th, seq := r.seq + 1 }
    match out with
    | none => r
    | some ev =>
      let (r, ok) := r.deliver now ev
      if ok then r else { r with running := false }

/-- The throttle reads events sent at `now`. -/
def readAll (r : ThrottleRun) (now : Nat) (evs : List InputEvent) : ThrottleRun :=
  evs.foldl (readOne now) r

/-- The times at which something happens, after `now`. -/
def nextTime (r : ThrottleRun) (events : List (Timed InputEvent)) (closeAt : Nat)
    (dropAt : Option Nat) (now : Option Nat) : Option Nat :=
  let after (t : Nat) : Bool := now.all (· < t)
  let cands := (events.map (·.at_)) ++ [closeAt] ++ dropAt.toList ++
    (if r.running then r.throttle.nextDeadline.toList else [])
  (cands.filter after).min?

/-- What happens at `t`: the consumer lets go first, then due gates fire, then the events of this
time are sent and read, then the stream closes. -/
def tick (events : List (Timed InputEvent)) (closeAt : Nat) (dropAt : Option Nat)
    (r : ThrottleRun) (t : Nat) : ThrottleRun :=
  let r := if dropAt == some t then { r with consumed := false } else r
  let r := if r.running then r.fireAll t else r
  let sent := (events.filter (·.at_ == t)).map (·.value)
  let r := if r.running then { r.readAll t sent with accepted := r.accepted + sent.length } else r
  if t == closeAt then { r with running := false } else r

/-- Runs the simulation from `now` on; `fuel` bounds the number of distinct times. -/
def go (events : List (Timed InputEvent)) (closeAt : Nat) (dropAt : Option Nat) :
    Nat → ThrottleRun → Option Nat → ThrottleRun
  | 0, r, _ => r
  | fuel + 1, r, now =>
    match r.nextTime events closeAt dropAt now with
    | none => r
    | some t => go events closeAt dropAt fuel (r.tick events closeAt dropAt t) (some t)

end ThrottleRun

/-- Throttles a timed stream that closes at `closeAt`, read by a consumer that lets go at
`dropAt`: what the consumer got, and how many events the stream accepted. -/
def throttleStream (interval : Nat) (events : List (Timed InputEvent)) (closeAt : Nat)
    (dropAt : Option Nat) : List (Timed InputEvent) × Nat :=
  let fuel := 3 * events.length + 4
  let r := ThrottleRun.go events closeAt dropAt fuel { throttle := { interval } } none
  (r.delivered, r.accepted)

end KeyMidi
