import KeyMidi.Device.Physical
import KeyMidi.Text.Case
/-!
# Application settings

Settings say which MIDI output and loopback input to use (by part of their name; none means a
virtual one), the client name and the buffer of the MIDI channels; which devices never to open,
how grabbing and timing work for the others; and where device profiles live. Every field has a
default.

An ignore rule matches a device when every field it sets matches: vendor, product, and a name
that occurs in the device name regardless of case. A rule that sets nothing matches nothing.
-/

namespace KeyMidi

/-- The MIDI connections. -/
structure MidiSettings where
  /-- Part of the name of the MIDI output; none makes a virtual one. -/
  outputPort : Option String := none
  /-- Part of the name of the loopback input; none makes a virtual one. -/
  inputPort : Option String := none
  clientName : String := "hid2midi"
  buffer : Nat := 1024
  deriving Repr, DecidableEq, Inhabited

/-- Devices that are never opened. -/
structure IgnoreRule where
  vendor : Option Nat := none
  product : Option Nat := none
  name : Option String := none
  deriving Repr, DecidableEq, Inhabited

/-- Device discovery and input timing, in milliseconds. -/
structure DeviceSettings where
  ignore : List IgnoreRule := []
  grab : Bool := false
  axisThrottleMs : Nat := 20
  stabilizationMs : Nat := 1000
  pollIntervalMs : Nat := 250
  openRetryMs : Nat := 100
  openTimeoutMs : Nat := 5000
  deriving Repr, DecidableEq, Inhabited

/-- Where profiles live; unset places take the platform defaults. -/
structure ProfileDirs where
  user : Option String := none
  factory : Option String := none
  deriving Repr, DecidableEq, Inhabited

/-- All settings. -/
structure Settings where
  midi : MidiSettings := {}
  devices : DeviceSettings := {}
  profileDirs : ProfileDirs := {}
  deriving Repr, DecidableEq, Inhabited

namespace IgnoreRule

/-- The rule matches the device. -/
def covers (r : IgnoreRule) (d : Device) : Bool :=
  if r.vendor.isNone && r.product.isNone && r.name.isNone then false
  else
    r.vendor.all (· == d.identity.vendor) && r.product.all (· == d.identity.product) &&
      r.name.all fun n => Text.contains (Text.lower d.name) (Text.lower n)

end IgnoreRule

namespace DeviceSettings

/-- Some rule matches the device. -/
def isIgnored (s : DeviceSettings) (d : Device) : Bool := s.ignore.any (·.covers d)

end DeviceSettings

/-- The platform places the default paths are built from: the configuration directory and the
data directory. -/
structure PlatformDirs where
  config : String
  data : String
  deriving Repr, Inhabited

namespace ProfileDirs

/-- The user profile directory. -/
def userDir (d : ProfileDirs) (p : PlatformDirs) : String :=
  d.user.getD (p.config ++ "/hid2midi/devices")

/-- The factory profile directory. -/
def factoryDir (d : ProfileDirs) (p : PlatformDirs) : String :=
  d.factory.getD (p.data ++ "/hid2midi/factory")

end ProfileDirs

/-- The default settings file. -/
def Settings.defaultPath (p : PlatformDirs) : String := p.config ++ "/hid2midi/settings.yaml"

/-- The first problem of a set of settings, if any. -/
def Settings.check (s : Settings) : Except String Unit := do
  if s.midi.clientName.isEmpty then throw "MIDI client_name cannot be empty"
  if s.midi.buffer == 0 then throw "MIDI buffer must be at least 1"
  if s.devices.pollIntervalMs == 0 then throw "poll_interval_ms must be greater than 0"
  if s.devices.openRetryMs == 0 then throw "open_retry_ms must be greater than 0"
  for (r, i) in s.devices.ignore.zipIdx do
    if r == {} then
      throw ("ignore rule " ++ toString i ++ " matches nothing (set vendor, product or name)")

end KeyMidi
