/-!
# Fan-out of one stream to many outputs

One source stream is copied to every registered output, in registration order. A single
forwarder receives a value from the source, then takes the registry and hands the value to each
output in turn; while it holds the registry, outputs can neither be added nor removed, nor
counted. Between receiving a value and taking the registry it holds nothing, so outputs can come
and go then, and the value goes to those registered when it takes the registry. An output whose
buffer is full makes the forwarder wait (so one slow consumer stalls all), and one whose receiver
is gone is skipped. When the source has closed and is drained, the fan-out is closed: no output
can be added any more, and the registered ones stay open until they are removed.

Outputs get the lowest free number below the id limit. Every buffer, the source's included,
holds `capacity` values.

Each party moves in steps of its own: the source accepts a value or closes (`put`, `endSource`), a
receiver takes a value or goes away (`pop`, `abandon`), outputs are added or removed, and the
forwarder makes one move (`forwardStep`). A request is its party's step followed by `settle`,
which lets the forwarder run as far as it can.
-/

namespace KeyMidi

/-- An output: its number, the values waiting in its buffer, whether its receiver still exists
and whether it is still registered. -/
structure Outlet (α : Type) where
  id : Int
  queue : List α := []
  receiverAlive : Bool := true
  registered : Bool := true
  deriving Repr, Inhabited

/-- Why the registry refused a request. -/
inductive FanoutError where
  | closed
  | idsExhausted
  | unknownOutput (id : Int)
  deriving Repr, DecidableEq, Inhabited

namespace FanoutError

/-- The name of the kind of error. -/
def kindName : FanoutError → String
  | .closed => "Closed"
  | .idsExhausted => "IdsExhausted"
  | .unknownOutput _ => "UnknownOutput"

/-- The message of an error. -/
def describe : FanoutError → String
  | .closed => "fan-out source is closed"
  | .idsExhausted => "no free output id"
  | .unknownOutput id => "unknown output id " ++ toString id

end FanoutError

/-- A fan-out. Outputs are known by their handle: their position in the order they were added. -/
structure Fanout (α : Type) where
  /-- Buffer size of the source and of every output (at least one). -/
  capacity : Nat
  idLimit : Int
  outlets : Array (Outlet α) := #[]
  /-- Handles of the registered outputs, in registration order. -/
  registry : List Nat := []
  source : List α := []
  sourceOpen : Bool := true
  closed : Bool := false
  /-- A value received from the source while the forwarder waits for the registry. -/
  received : Option α := none
  /-- The value being handed out and the position in the registry of the next output. -/
  delivering : Option (α × Nat) := none
  deriving Inhabited

namespace Fanout

variable {α : Type}

/-- A new fan-out; a capacity of 0 counts as 1. -/
def create (capacity : Nat) (idLimit : Int) : Fanout α := { capacity := max capacity 1, idLimit }

/-- The forwarder holds the registry. -/
def busy (f : Fanout α) : Bool := f.delivering.isSome

/-- Changes an output. -/
def modifyOutlet (f : Fanout α) (h : Nat) (g : Outlet α → Outlet α) : Fanout α :=
  { f with outlets := f.outlets.modify h g }

/-- One step of the forwarder; none when it cannot move. -/
def forwardStep (f : Fanout α) : Option (Fanout α) :=
  match f.delivering with
  | some (v, i) =>
    match f.registry[i]? with
    | none => some { f with delivering := none }
    | some h =>
      match f.outlets[h]? with
      | none => some { f with delivering := some (v, i + 1) }
      | some o =>
        if !o.receiverAlive then some { f with delivering := some (v, i + 1) }
        else if o.queue.length < f.capacity then
          some { (f.modifyOutlet h fun o => { o with queue := o.queue ++ [v] }) with
            delivering := some (v, i + 1) }
        else none
  | none =>
    match f.received with
    | some v => some { f with received := none, delivering := some (v, 0) }
    | none =>
      match f.source with
      | v :: rest => some { f with source := rest, received := some v }
      | [] => if !f.sourceOpen && !f.closed then some { f with closed := true } else none

/-- Lets the forwarder run until it waits; `fuel` bounds the steps. -/
def settleWith : Nat → Fanout α → Fanout α
  | 0, f => f
  | fuel + 1, f =>
    match f.forwardStep with
    | some f' => settleWith fuel f'
    | none => f

/-- Lets the forwarder run until it waits. -/
def settle (f : Fanout α) : Fanout α :=
  f.settleWith ((f.source.length + 1) * (f.registry.length + 3) + 2)

/-- The numbers of the registered outputs, in registration order. -/
def ids (f : Fanout α) : List Int := f.registry.filterMap fun h => (f.outlets[h]?).map (·.id)

/-- Scans ascending numbers for the first one that differs from the candidate, which goes up by
one at each number equal to it; the candidate where the scan stops. -/
def firstGap : Int → List Int → Int
  | candidate, [] => candidate
  | candidate, id :: rest => if id != candidate then candidate else firstGap (candidate + 1) rest

/-- The lowest output number not in use, if it is below the limit: the numbers in use are sorted
and scanned from 0 for the first gap. -/
def freeId (f : Fanout α) : Option Int :=
  let candidate := firstGap 0 (f.ids.mergeSort (· ≤ ·))
  if candidate < f.idLimit then some candidate else none

/-- Adds an output (the registry must be free): its number and handle. -/
def spawn (f : Fanout α) : Except FanoutError (Fanout α × Int × Nat) :=
  if f.closed then throw .closed
  else match f.freeId with
    | none => throw .idsExhausted
    | some id =>
      let h := f.outlets.size
      pure ({ f with outlets := f.outlets.push { id }, registry := f.registry ++ [h] }, id, h)

/-- Removes an output by number (the registry must be free). -/
def despawn (f : Fanout α) (id : Int) : Except FanoutError (Fanout α) :=
  match f.registry.find? (fun h => (f.outlets[h]?).any (·.id == id)) with
  | none => throw (.unknownOutput id)
  | some h =>
    pure { f.modifyOutlet h (fun o => { o with registered := false }) with
      registry := f.registry.erase h }

/-- The source accepts a value, if it has room. -/
def put (f : Fanout α) (v : α) : Option (Fanout α) :=
  if f.source.length < f.capacity then some { f with source := f.source ++ [v] } else none

/-- Puts a value into the source, if there is room, and lets the forwarder run. -/
def offer (f : Fanout α) (v : α) : Option (Fanout α) := (f.put v).map settle

/-- What taking a value from an output gave. -/
inductive Taken (α : Type) where
  | value (v : α)
  | empty
  | disconnected
  deriving Repr, Inhabited

/-- The receiver of an output takes its next value without waiting. -/
def pop (f : Fanout α) (h : Nat) : Fanout α × Taken α :=
  match f.outlets[h]? with
  | none => (f, .empty)
  | some o =>
    match o.queue with
    | v :: rest => (f.modifyOutlet h fun o => { o with queue := rest }, .value v)
    | [] => (f, if o.registered then .empty else .disconnected)

/-- Takes the next value of an output without waiting; the forwarder runs once there is room. -/
def take (f : Fanout α) (h : Nat) : Fanout α × Taken α :=
  match f.pop h with
  | (f', .value v) => (f'.settle, .value v)
  | r => r

/-- The receiver of an output goes away, and what waited for it with it. -/
def abandon (f : Fanout α) (h : Nat) : Fanout α :=
  f.modifyOutlet h fun o => { o with receiverAlive := false, queue := [] }

/-- Drops the receiver of an output. -/
def dropReceiver (f : Fanout α) (h : Nat) : Fanout α := (f.abandon h).settle

/-- The source closes. -/
def endSource (f : Fanout α) : Fanout α := { f with sourceOpen := false }

/-- Closes the source. -/
def closeSource (f : Fanout α) : Fanout α := f.endSource.settle

/-- The number of registered outputs. -/
def count (f : Fanout α) : Nat := f.registry.length

end Fanout

end KeyMidi
