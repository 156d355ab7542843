import KeyMidi.Settings.Basic
import KeyMidi.Yaml.Decode
import KeyMidi.Report
import KeyMidi.Text.Blank
/-!
# Reading settings

Settings are read from a YAML file. A missing file, or one that holds only white space, gives
the defaults; so does every field left out. The settings read are then checked.
-/

namespace KeyMidi

open KeyMidi.Yaml

namespace Settings

/-- A path. -/
def readPath (n : Node) (p : Path) : Read String := do
  let n ← n.resolve
  match n with
  | .scalar t _ _ _ => pure t
  | _ => throw (n.wrongKind p "path string")

/-- Optional text. -/
def readOptText (n : Node) (p : Path) : Read (Option String) := n.option p Node.string

/-- An optional 16-bit number. -/
def readOptWord (n : Node) (p : Path) : Read (Option Nat) :=
  n.option p fun n p => n.nat p 65535 "u16"

/-- A millisecond count. -/
def readMs (n : Node) (p : Path) : Read Nat := n.nat p (Nat.pow 2 64 - 1) "u64"

/-- The MIDI connections. -/
def readMidi (n : Node) (p : Path) : Read MidiSettings := do
  let size (n : Node) (p : Path) := n.nat p (Nat.pow 2 64 - 1) "usize"
  let fs ← n.record p "struct MidiSettings"
    [("output_port", checkOf readOptText), ("input_port", checkOf readOptText),
     ("client_name", checkOf Node.string), ("buffer", checkOf size)]
  return ⟨← fs.getD "output_port" readOptText none, ← fs.getD "input_port" readOptText none,
    ← fs.getD "client_name" Node.string "hid2midi", ← fs.getD "buffer" size 1024⟩

/-- An ignore rule. -/
def readRule (n : Node) (p : Path) : Read IgnoreRule := do
  let fs ← n.record p "struct IgnoreRule"
    [("vendor", checkOf readOptWord), ("product", checkOf readOptWord), ("name", checkOf readOptText)]
  return ⟨← fs.getD "vendor" readOptWord none, ← fs.getD "product" readOptWord none,
    ← fs.getD "name" readOptText none⟩

/-- Device discovery and timing. -/
def readDevices (n : Node) (p : Path) : Read DeviceSettings := do
  let rules (n : Node) (p : Path) := n.list p readRule
  let bool (n : Node) (p : Path) := n.bool p
  let fs ← n.record p "struct DeviceSettings"
    [("ignore", checkOf rules), ("grab", checkOf bool), ("axis_throttle_ms", checkOf readMs),
     ("stabilization_ms", checkOf readMs), ("poll_interval_ms", checkOf readMs),
     ("open_retry_ms", checkOf readMs), ("open_timeout_ms", checkOf readMs)]
  return ⟨← fs.getD "ignore" rules [], ← fs.getD "grab" bool false,
    ← fs.getD "axis_throttle_ms" readMs 20, ← fs.getD "stabilization_ms" readMs 1000,
    ← fs.getD "poll_interval_ms" readMs 250, ← fs.getD "open_retry_ms" readMs 100,
    ← fs.getD "open_timeout_ms" readMs 5000⟩

/-- Profile places. -/
def readDirs (n : Node) (p : Path) : Read ProfileDirs := do
  let opt (n : Node) (p : Path) := n.option p readPath
  let fs ← n.record p "struct ConfigDirs" [("user", checkOf opt), ("factory", checkOf opt)]
  return ⟨← fs.getD "user" opt none, ← fs.getD "factory" opt none⟩

/-- All settings. -/
def read (n : Node) (p : Path) : Read Settings := do
  let fs ← n.record p "struct Settings"
    [("midi", checkOf readMidi), ("devices", checkOf readDevices), ("config_dirs", checkOf readDirs)]
  return ⟨← fs.getD "midi" readMidi {}, ← fs.getD "devices" readDevices {},
    ← fs.getD "config_dirs" readDirs {}⟩

/-- Loads the settings of a file: `file` is what reading it gave (none when it does not
exist: then the defaults apply). -/
def load (path : String) (file : Option (Except String String)) : Except Report Settings := do
  match file with
  | none => return {}
  | some (.error cause) => throw ⟨["Failed to read settings file: " ++ path, cause]⟩
  | some (.ok text) =>
    let s ← if text.all Text.isWhite then pure {}
      else match Document.decode text read with
        | .ok s => pure s
        | .error f => throw ⟨["Failed to parse YAML settings: " ++ path, f.describe]⟩
    match s.check with
    | .ok () => return s
    | .error msg => throw (Report.just msg)

end Settings

end KeyMidi
