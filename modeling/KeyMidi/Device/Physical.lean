import KeyMidi.Device.Identity
/-!
# Devices as a backend reports them

A device present on the system: its identity, its name, and its kind.
-/

namespace KeyMidi

/-- A device reported by an input backend. -/
structure Device where
  identity : Identity
  name : String
  kind : DeviceKind
  deriving Repr, DecidableEq, Inhabited

end KeyMidi
