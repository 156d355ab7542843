import KeyMidi.Profile.Read
import KeyMidi.Profile.Check
/-!
# Profile errors

Why no profile could be had: the device kind is not served, no profile matches the device, a
file could not be read, its text is not a profile, or the profile it holds does not pass
`Profile.check`. `Profile.ofText` reads and checks the text of one profile.
-/

namespace KeyMidi

open KeyMidi.Yaml

/-- Why no profile could be had. -/
inductive ProfileError where
  /-- Devices of this kind are not served. -/
  | unsupportedKind (kind : DeviceKind)
  /-- No profile matches the device, not even the default one of its kind. -/
  | notFound (identity : Identity) (kind : DeviceKind)
  /-- A file or directory could not be read. -/
  | unreadable (path : String) (cause : String)
  /-- The text of a file is not a profile. -/
  | malformed (path : String) (fault : Fault)
  /-- The profile of a file does not pass its check. -/
  | invalid (path : String) (reason : String)
  deriving Inhabited

namespace ProfileError

/-- The name of the kind of error. -/
def kindName : ProfileError → String
  | .unsupportedKind _ => "UnsupportedDeviceType"
  | .notFound .. => "NotFound"
  | .unreadable .. => "Io"
  | .malformed .. => "Parse"
  | .invalid .. => "Invalid"

/-- The message of an error. -/
def describe : ProfileError → String
  | .unsupportedKind k => "unsupported device type: " ++ k.name
  | .notFound i k => "no config found for " ++ i.describe ++ " (" ++ k.name ++ ")"
  | .unreadable path cause => "failed to read " ++ path ++ ": " ++ cause
  | .malformed path f => "failed to parse " ++ path ++ ": " ++ f.describe
  | .invalid path reason => "invalid config " ++ path ++ ": " ++ reason

/-- The error that caused this one, if any, as text. -/
def cause : ProfileError → Option String
  | .unreadable _ c => some c
  | .malformed _ f => some f.describe
  | _ => none

end ProfileError

/-- Reads and checks the text of a profile; `path` names the text in errors. -/
def Profile.ofText (text path : String) : Except ProfileError Profile := do
  let p ← (Document.decode text Profile.read).mapError (ProfileError.malformed path)
  (Profile.check p).mapError (ProfileError.invalid path)
  return p

example : (Profile.ofText "name: pad\ndevice_type: gamepad\nmappings:\n  - name: main\n"
    "pad.yaml").toOption.map (fun p => (p.name, p.kind, p.collision, p.identifier.isDefault,
      p.layers.map (·.name))) = some ("pad", .gamepad, .noRepeat, true, ["main"]) := by
  decide +kernel

example : (match Profile.ofText
      "name: pad\ndevice_type: gamepad\ndefaults: \x7b channel: 16 \x7d\nmappings:\n  - name: main\n"
      "pad.yaml" with
    | .ok _ => ""
    | .error e => e.describe) =
      "invalid config pad.yaml: default channel 16 is invalid (must be 0-15)" := by
  decide +kernel

end KeyMidi
