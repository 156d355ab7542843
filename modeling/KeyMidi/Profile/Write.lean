import KeyMidi.Profile.Basic
import KeyMidi.Doc
/-!
# Writing profiles out

A profile as a data document, field for field as it is read: codes become field names, an axis
binding is one record whose `type` field names its kind, and the optional parts that are empty
(the exit chord, the negative action, the serial and physical location of the identity) are left out.
-/

namespace KeyMidi

namespace CodeMap

/-- A table as a record of records keyed by handler, then by code. -/
def toDoc {α : Type} (m : CodeMap α) (f : α → Doc) : Doc :=
  .record (m.entries.map fun (h, codes) => (h, .record (codes.map fun (c, a) => (toString c, f a))))

end CodeMap

/-- An identity; the serial and the physical location appear only when known. -/
def Identity.toDoc (i : Identity) : Doc :=
  .record ([("bus", .nat i.bus), ("vendor", .nat i.vendor), ("product", .nat i.product),
    ("version", .nat i.version)] ++
    (if i.uniq.isEmpty then [] else [("uniq", .text i.uniq)]) ++
    (if i.phys.isEmpty then [] else [("phys", .text i.phys)]))

/-- An axis binding, flattened into one record. -/
def AxisBinding.toDoc (a : AxisBinding) : Doc :=
  let role : List (String × Doc) := match a.role with
    | .controller cc ccNeg twoSided flip =>
      [("type", .text "cc"), ("cc", .byte cc), ("cc_neg", .byte ccNeg),
       ("bidirectional", .bool twoSided), ("flip", .bool flip)]
    | .pitchBend flip => [("type", .text "pitch_bend"), ("flip", .bool flip)]
    | .note n nNeg twoSided =>
      [("type", .text "note"), ("note", .byte n), ("note_neg", .byte nNeg),
       ("bidirectional", .bool twoSided)]
    | .action act neg twoSided =>
      [("type", .text "action"), ("action", .text act.name)] ++
      (match neg with
       | some n => [("action_neg", .text n.name)]
       | none => []) ++
      [("bidirectional", .bool twoSided)]
  .record (role ++ [("channel_offset", .byte a.channelOffset),
    ("deadzone_at_center", .bool a.deadzoneAtCenter)])

/-- A layer. -/
def Layer.toDoc (l : Layer) : Doc :=
  .record [("name", .text l.name),
    ("keys", l.keys.toDoc fun t => .record [("note", .byte t.note), ("channel_offset", .byte t.channelOffset)]),
    ("analog", l.axes.toDoc AxisBinding.toDoc),
    ("deadzones", l.deadzones.toDoc Doc.float)]

/-- The starting position. -/
def Defaults.toDoc (d : Defaults) : Doc :=
  .record [("octave", .int d.octave.toInt), ("semitone", .int d.semitone.toInt),
    ("channel", .byte d.channel), ("mapping", .nat d.mapping), ("velocity", .byte d.velocity),
    ("deadzone", .float d.deadzone)]

/-- A whole profile. -/
def Profile.toDoc (p : Profile) : Doc :=
  .record ([("name", .text p.name), ("device_type", .text p.kind.name),
    ("identifier", p.identifier.toDoc), ("collision_mode", .text p.collision.name),
    ("defaults", p.defaults.toDoc)] ++
    (if p.exitSequence.isEmpty then [] else
      [("exit_sequence", .list (p.exitSequence.map fun k =>
        .record [("handler", .text k.handler), ("code", .nat k.code)]))]) ++
    [("actions", p.actions.toDoc fun a => .text a.name),
     ("mappings", .list (p.layers.map Layer.toDoc))])

end KeyMidi
