import KeyMidi.Profile.Basic
import KeyMidi.Yaml.Loose
/-!
# Reading profiles from YAML

A profile is a mapping with the fields `name`, `device_type` and `mappings` required and the
others optional. Binding tables are mappings from handler names to mappings from codes (16-bit
numbers) to bindings; a code given twice keeps its last binding.

An axis binding names its kind in its `type` field, beside the fields of that kind and the two
fields every binding has (`channel_offset`, `deadzone_at_center`). The common fields are read as
they come; the rest are kept loose until the whole binding has been seen and typed then, so that
problems with them are reported at the binding as a whole.
-/

namespace KeyMidi

open KeyMidi.Yaml

namespace CodeMap

variable {α : Type}

/-- Codes with their bindings, a later binding of a code replacing the earlier one in place. -/
def setCode (codes : List (Nat × α)) (code : Nat) (a : α) : List (Nat × α) :=
  if codes.any (·.1 == code) then codes.map fun c => if c.1 == code then (code, a) else c
  else codes ++ [(code, a)]

/-- Sets the whole row of a handler, replacing an earlier row for it. -/
def setRow (m : CodeMap α) (handler : String) (codes : List (Nat × α)) : CodeMap α :=
  if m.entries.any (·.1 == handler) then
    ⟨m.entries.map fun e => if e.1 == handler then (handler, codes) else e⟩
  else ⟨m.entries ++ [(handler, codes)]⟩

/-- The table of the rows read from a document: a handler or a code given twice keeps what was
given last, as when the entries are stored one after another in a table. -/
def ofRows (rows : List (String × List (Nat × α))) : CodeMap α :=
  rows.foldl (fun m r => m.setRow r.1 (r.2.foldl (fun cs c => setCode cs c.1 c.2) [])) empty

end CodeMap

namespace Profile

/-- A byte. -/
def readByte (n : Node) (p : Path) : Read UInt8 := do return (← n.nat p 255 "u8").toUInt8

/-- A 16-bit code. -/
def readCode (n : Node) (p : Path) : Read Nat := n.nat p 65535 "u16"

/-- A small signed number. -/
def readSmall (n : Node) (p : Path) : Read Int8 := do return (← n.int p (-128) 127 "i8").toInt8

/-- An action by name. -/
def readAction (n : Node) (p : Path) : Read Action :=
  n.choice p (Action.all.map fun a => (a, a.name))

/-- A binding table. -/
def readCodeMap {α : Type} (read : Node → Path → Read α) (n : Node) (p : Path) : Read (CodeMap α) := do
  let rows ← n.table p Node.string fun v q => v.table q readCode read
  return CodeMap.ofRows rows

/-- A device identity; every field is optional. -/
def readIdentity (n : Node) (p : Path) : Read Identity := do
  let fs ← n.record p "struct PhysicalIdentity"
    [("bus", checkOf readCode), ("vendor", checkOf readCode), ("product", checkOf readCode),
     ("version", checkOf readCode), ("uniq", checkOf Node.string), ("phys", checkOf Node.string)]
  return ⟨← fs.getD "bus" readCode 0, ← fs.getD "vendor" readCode 0, ← fs.getD "product" readCode 0,
    ← fs.getD "version" readCode 0, ← fs.getD "uniq" Node.string "", ← fs.getD "phys" Node.string ""⟩

/-- A device kind by name. -/
def readKind (n : Node) (p : Path) : Read DeviceKind :=
  n.choice p (DeviceKind.all.map fun k => (k, k.name))

/-- A collision mode by name. -/
def readCollision (n : Node) (p : Path) : Read CollisionMode :=
  n.choice p (CollisionMode.all.map fun m => (m, m.name))

/-- The starting position; every field is optional. -/
def readDefaults (n : Node) (p : Path) : Read Defaults := do
  let readMapping (n : Node) (p : Path) := n.nat p (Nat.pow 2 64 - 1) "usize"
  let fs ← n.record p "struct Defaults"
    [("octave", checkOf readSmall), ("semitone", checkOf readSmall), ("channel", checkOf readByte),
     ("mapping", checkOf readMapping), ("velocity", checkOf readByte), ("deadzone", checkOf Node.float)]
  return ⟨← fs.getD "octave" readSmall 0, ← fs.getD "semitone" readSmall 0,
    ← fs.getD "channel" readByte 0, ← fs.getD "mapping" readMapping 0,
    ← fs.getD "velocity" readByte 64, ← fs.getD "deadzone" Node.float 0.1⟩

/-- A key of the exit chord. -/
def readKeyRef (n : Node) (p : Path) : Read InputId := do
  let fs ← n.record p "struct KeyRef" [("handler", checkOf Node.string), ("code", checkOf readCode)]
  return ⟨← fs.get "handler" Node.string, ← fs.get "code" readCode⟩

/-- A key's note binding. -/
def readNoteTarget (n : Node) (p : Path) : Read NoteTarget := do
  let fs ← n.record p "struct NoteTarget" [("note", checkOf readByte), ("channel_offset", checkOf readByte)]
  return ⟨← fs.get "note" readByte, ← fs.getD "channel_offset" readByte 0⟩

/-- The fields of a loose record: names (or field numbers) with their values, each at most once. -/
def looseFields (names : List String) (entries : List (Loose × Loose)) :
    Except String (List (String × Loose)) :=
  let step (acc : List (String × Loose)) (e : Loose × Loose) :
      Except String (List (String × Loose)) := do
    let name : Option String ← match e.1 with
      | .text s => pure (if names.contains s then some s else none)
      | .int i => if 0 ≤ i then pure names[i.toNat]? else throw (e.1.wrongKind "field identifier")
      | k => throw (k.wrongKind "field identifier")
    match name with
    | some s =>
      if acc.any (·.1 == s) then throw ("duplicate field " ++ "`" ++ s ++ "`")
      return acc ++ [(s, e.2)]
    | none => return acc
  entries.foldlM step []

/-- A field of a loose record, typed, or `dflt`. -/
def looseGet {α : Type} (fs : List (String × Loose)) (name : String)
    (read : Loose → Except String α) (dflt : Option α) : Except String α :=
  match fs.find? (·.1 == name), dflt with
  | some (_, v), _ => read v
  | none, some d => pure d
  | none, none => throw ("missing field " ++ "`" ++ name ++ "`")

/-- An action of a loose record. -/
def looseAction (l : Loose) : Except String Action := l.asChoice (Action.all.map fun a => (a, a.name))

/-- A byte of a loose record. -/
def looseByte (l : Loose) : Except String UInt8 := do return (← l.asNat 255 "u8").toUInt8

/-- The role of an axis from the loose fields of its binding. -/
def looseRole (entries : List (Loose × Loose)) : Except String AxisRole := do
  let kinds := ["cc", "pitch_bend", "note", "action"]
  let step (st : Option Nat × List (Loose × Loose)) (e : Loose × Loose) :
      Except String (Option Nat × List (Loose × Loose)) := do
    match e.1 with
    | .text "type" =>
      if st.1.isSome then throw ("duplicate field " ++ "`type`")
      let idx ← match e.2 with
        | .text s =>
          match kinds.idxOf? s with
          | some i => pure i
          | none => throw ("unknown variant " ++ "`" ++ s ++ "`" ++ ", " ++ Node.oneOf kinds)
        | .int i =>
          if i < 0 then throw (Loose.wrongKind (.int i) "variant identifier")
          else if i < 4 then pure i.toNat
          else throw ("invalid value: integer " ++ "`" ++ toString i ++ "`" ++
            ", expected variant index 0 <= i < 4")
        | v => throw (v.wrongKind "variant identifier")
      return (some idx, st.2)
    | _ => return (st.1, st.2 ++ [e])
  let (tag, rest) ← entries.foldlM step (none, [])
  let bool (fs : List (String × Loose)) (name : String) := looseGet fs name Loose.asBool (some false)
  match tag with
  | none => throw "missing field `type`"
  | some 0 =>
    let fs ← looseFields ["cc", "cc_neg", "bidirectional", "flip"] rest
    return .controller (← looseGet fs "cc" looseByte none) (← looseGet fs "cc_neg" looseByte (some 0))
      (← bool fs "bidirectional") (← bool fs "flip")
  | some 1 =>
    let fs ← looseFields ["flip"] rest
    return .pitchBend (← bool fs "flip")
  | some 2 =>
    let fs ← looseFields ["note", "note_neg", "bidirectional"] rest
    return .note (← looseGet fs "note" looseByte none) (← looseGet fs "note_neg" looseByte (some 0))
      (← bool fs "bidirectional")
  | _ =>
    let fs ← looseFields ["action", "action_neg", "bidirectional"] rest
    let neg ← looseGet fs "action_neg" (fun l => match l with
      | .absent | .unit => pure none
      | _ => (looseAction l).map some) (some none)
    return .action (← looseGet fs "action" looseAction none) neg (← bool fs "bidirectional")

/-- Walks the entries of an axis binding: the common fields are typed at once, the others kept
loose, in order. -/
def axisEntries (n : Node) (p : Path) :
    List (Node × Node) → Option UInt8 → Option Bool → List (Loose × Loose) →
    Read (Option UInt8 × Option Bool × List (Loose × Loose))
  | [], off, center, acc => pure (off, center, acc)
  | (k, v) :: rest, off, center, acc => do
    let name ← match ← k.resolve with
      | .scalar t _ _ _ => pure t
      | k => throw (k.wrongKind p "field identifier")
    let q := Node.valuePath k p
    if name == "channel_offset" then
      if off.isSome then throw (n.faultAt p ("duplicate field " ++ "`channel_offset`"))
      let b ← readByte v q
      axisEntries n p rest (some b) center acc
    else if name == "deadzone_at_center" then
      if center.isSome then throw (n.faultAt p ("duplicate field " ++ "`deadzone_at_center`"))
      let b ← v.bool q
      axisEntries n p rest off (some b) acc
    else
      let l ← Loose.ofNode q v
      axisEntries n p rest off center (acc ++ [(.text name, l)])

/-- An axis binding. -/
def readAxis (n : Node) (p : Path) : Read AxisBinding := do
  let n ← n.resolve
  let typed (off : Option UInt8) (center : Option Bool) (loose : List (Loose × Loose)) :
      Read AxisBinding :=
    match looseRole loose with
    | .ok role => pure ⟨role, off.getD 0, center.getD false⟩
    | .error msg => throw (n.faultAt p msg)
  match n with
  | .map entries stop _ m =>
    nested m do
      let (off, center, loose) ← axisEntries n p entries none none []
      if let some f := stop then throw f
      typed off center loose
  | _ => if n.isEmptyCollection then typed none none [] else throw (n.wrongKind p "struct AnalogMapping")

/-- A layer. -/
def readLayer (n : Node) (p : Path) : Read Layer := do
  let keys := readCodeMap readNoteTarget
  let axes := readCodeMap readAxis
  let dz := readCodeMap Node.float
  let fs ← n.record p "struct KeyMapping"
    [("name", checkOf Node.string), ("keys", checkOf keys), ("analog", checkOf axes),
     ("deadzones", checkOf dz)]
  return ⟨← fs.get "name" Node.string, ← fs.getD "keys" keys .empty, ← fs.getD "analog" axes .empty,
    ← fs.getD "deadzones" dz .empty⟩

/-- A whole profile. -/
def read (n : Node) (p : Path) : Read Profile := do
  let exits (n : Node) (p : Path) := n.list p readKeyRef
  let actions := readCodeMap readAction
  let layers (n : Node) (p : Path) := n.list p readLayer
  let fs ← n.record p "struct DeviceConfig"
    [("name", checkOf Node.string), ("device_type", checkOf readKind),
     ("identifier", checkOf readIdentity), ("collision_mode", checkOf readCollision),
     ("defaults", checkOf readDefaults), ("exit_sequence", checkOf exits),
     ("actions", checkOf actions), ("mappings", checkOf layers)]
  let name ← fs.get "name" Node.string
  let kind ← fs.get "device_type" readKind
  let identifier ← fs.getD "identifier" readIdentity {}
  let collision ← fs.getD "collision_mode" readCollision .noRepeat
  let defaults ← fs.getD "defaults" readDefaults {}
  let exitSequence ← fs.getD "exit_sequence" exits []
  let acts ← fs.getD "actions" actions .empty
  let ls ← fs.get "mappings" layers
  return { name, kind, identifier, collision, defaults, exitSequence, actions := acts, layers := ls }

end Profile

end KeyMidi
