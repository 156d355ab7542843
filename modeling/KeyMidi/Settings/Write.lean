import KeyMidi.Settings.Basic
import KeyMidi.Doc
/-!
# Writing settings out

Settings as a data document, field for field as they are read; unset optional fields are left
out.
-/

namespace KeyMidi

/-- Optional fields that are set. -/
def Doc.optional (fields : List (String × Option Doc)) : List (String × Doc) :=
  fields.filterMap fun (k, v) => v.map (k, ·)

/-- Settings as a document. -/
def Settings.toDoc (s : Settings) : Doc :=
  let m := s.midi
  let d := s.devices
  .record [
    ("midi", .record (Doc.optional [("output_port", m.outputPort.map .text),
        ("input_port", m.inputPort.map .text)] ++
      [("client_name", .text m.clientName), ("buffer", .nat m.buffer)])),
    ("devices", .record [
      ("ignore", .list (d.ignore.map fun r => .record (Doc.optional [("vendor", r.vendor.map .nat),
        ("product", r.product.map .nat), ("name", r.name.map .text)]))),
      ("grab", .bool d.grab), ("axis_throttle_ms", .nat d.axisThrottleMs),
      ("stabilization_ms", .nat d.stabilizationMs), ("poll_interval_ms", .nat d.pollIntervalMs),
      ("open_retry_ms", .nat d.openRetryMs), ("open_timeout_ms", .nat d.openTimeoutMs)]),
    ("config_dirs", .record (Doc.optional [("user", s.profileDirs.user.map .text),
      ("factory", s.profileDirs.factory.map .text)]))]

end KeyMidi
