import KeyMidi.Device.Physical
/-!
# Stable devices

Devices come and go while they enumerate. A device is reported once it has been present in
every snapshot for the whole stabilization window; it is reported once, and forgotten as soon as
a snapshot misses it, so that a device plugged in again is reported again. Times are in
milliseconds; a snapshot taken before a device was first seen counts as no time passed.
-/

namespace KeyMidi

/-- Since when a device has been present, and whether it was reported. -/
structure Sighting where
  since : Nat
  reported : Bool
  deriving Repr, DecidableEq, Inhabited

/-- The devices present in the last snapshot, with their sightings. -/
structure Stabilizer where
  seen : List (Identity × Sighting) := []
  deriving Repr, Inhabited

namespace Stabilizer

/-- One device of a snapshot taken at `now`. Its sighting is taken out of the sightings not yet
met (`old`), or starts now; once it is due it is marked reported and the device joins the stable
ones. The sighting is stored among those of the snapshot (`present`), replacing one for the same
identity. -/
def visit (now window : Nat)
    (acc : List (Identity × Sighting) × List (Identity × Sighting) × List Device) (d : Device) :
    List (Identity × Sighting) × List (Identity × Sighting) × List Device :=
  let (old, present, stable) := acc
  let sighting := ((old.find? (·.1 == d.identity)).map (·.2)).getD ⟨now, false⟩
  let old := old.filter (·.1 != d.identity)
  let due := !sighting.reported && now - sighting.since ≥ window
  let sighting := if due then { sighting with reported := true } else sighting
  let present := (present.filter (·.1 != d.identity)) ++ [(d.identity, sighting)]
  (old, present, if due then stable ++ [d] else stable)

/-- Takes a snapshot at `now`; returns the devices that just became stable. -/
def observe (s : Stabilizer) (snapshot : List Device) (now window : Nat) : Stabilizer × List Device :=
  let (_, present, stable) := snapshot.foldl (visit now window) (s.seen, [], [])
  (⟨present⟩, stable)

end Stabilizer

end KeyMidi
