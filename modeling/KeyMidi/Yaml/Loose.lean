import KeyMidi.Yaml.Decode
/-!
# Values read without a type in mind

Some records can only be read after all their entries are seen — a record whose kind is named
by one of its fields, say. Their entries are first read as loose values, whose scalars are
resolved by the core schema, and typed afterwards. Problems found while typing a loose value
have no position of their own; the reader of the whole record places them.

Typing a loose value differs from typing a node in one respect: a negative integer for an
unsigned type is out of range rather than of the wrong kind.
-/

namespace KeyMidi.Yaml

/-- A value without a type. -/
inductive Loose where
  | absent
  | unit
  | bool (b : Bool)
  | int (i : Int)
  | float (x : Float)
  | text (s : String)
  | seq (items : List Loose)
  | map (entries : List (Loose × Loose))
  deriving Repr, Inhabited

/-- The fault for a node with a local tag where a loose value is read: a tag names a choice,
and loose values hold none. -/
def enumInput (n : Node) (p : Path) : Fault :=
  n.faultAt p "untagged and internally tagged enums do not support enum input"

/-- Whether a node carries a local tag, which names a choice. -/
def Node.choiceTag (tag : Option Tag) : Bool := (tag.bind Tag.name?).isSome

/-- Reads a node as a loose value; faults inside it stop the reading. Collections count
against the nesting budget, and `fuel`, which is never less than that budget, bounds the
depth. -/
def Loose.ofNodeWith : Nat → Path → Node → Read Loose
  | 0, _, n => throw (.recursionLimit n.mark)
  | fuel + 1, p, n => do
    let n ← n.resolve
    match n with
    | .scalar t s tag _ =>
      if Node.choiceTag tag then throw (enumInput n p)
      match Scalar.meaning t s tag with
      | .ok .null => pure .unit
      | .ok (.bool b) => pure (.bool b)
      | .ok (.int i) => pure (.int i)
      | .ok (.wide i) =>
        throw (n.faultAt p ("invalid type: " ++ (Scalar.wide i).found ++ ", expected any value"))
      | .ok (.float x) => pure (.float x)
      | .ok (.text s) => pure (.text s)
      | .error msg => throw (n.faultAt p msg)
    | .seq items stop tag m =>
      if Node.choiceTag tag then throw (enumInput n p)
      nested m do
        let xs ← items.zipIdx.mapM fun (x, i) => Loose.ofNodeWith fuel (.index p i) x
        match stop with
        | some f => throw f
        | none => pure (.seq xs)
    | .map entries stop tag m =>
      if Node.choiceTag tag then throw (enumInput n p)
      nested m do
        let xs ← entries.mapM fun (k, v) => do
          let key ← Loose.ofNodeWith fuel p k
          let value ← Loose.ofNodeWith fuel (Node.valuePath k p) v
          pure (key, value)
        match stop with
        | some f => throw f
        | none => pure (.map xs)
    | .void _ => pure .absent
    | .fault f => throw f
    | .alias _ _ => throw .endOfStream

/-- Reads a node as a loose value. -/
def Loose.ofNode (p : Path) (n : Node) : Read Loose := Loose.ofNodeWith 129 p n

namespace Loose

/-- What a loose value is, as named in messages. -/
def found : Loose → String
  | .absent => "option"
  | .unit => "unit value"
  | .bool b => "boolean " ++ "`" ++ toString b ++ "`"
  | .int i => "integer " ++ "`" ++ toString i ++ "`"
  | .float x => "floating point " ++ "`" ++ floatFound x ++ "`"
  | .text s => "string " ++ debugQuote s
  | .seq _ => "sequence"
  | .map _ => "map"

/-- The message for a loose value of the wrong kind. -/
def wrongKind (l : Loose) (wanted : String) : String :=
  "invalid type: " ++ l.found ++ ", expected " ++ wanted

/-- An unsigned integer up to `max`, named `ty` in messages. -/
def asNat (l : Loose) (max : Nat) (ty : String) : Except String Nat :=
  match l with
  | .int i =>
    if 0 ≤ i ∧ i ≤ max then pure i.toNat
    else throw ("invalid value: integer " ++ "`" ++ toString i ++ "`" ++ ", expected " ++ ty)
  | _ => throw (l.wrongKind ty)

/-- A boolean. -/
def asBool (l : Loose) : Except String Bool :=
  match l with
  | .bool b => pure b
  | _ => throw (l.wrongKind "a boolean")

/-- One of several named choices: a name, or a mapping of one choice (a name or a position) to
nothing. -/
def asChoice {α : Type} (l : Loose) (choices : List (α × String)) : Except String α :=
  let byName (s : String) : Except String α :=
    match choices.find? (·.2 == s) with
    | some (a, _) => pure a
    | none => throw ("unknown variant " ++ "`" ++ s ++ "`" ++ ", " ++ Node.oneOf (choices.map (·.2)))
  let byKey (k : Loose) : Except String α :=
    match k with
    | .text s => byName s
    | .int i =>
      if i < 0 then throw (k.wrongKind "variant identifier")
      else match choices[i.toNat]? with
        | some (a, _) => pure a
        | none => throw ("invalid value: integer " ++ "`" ++ toString i ++ "`" ++
            ", expected variant index 0 <= i < " ++ toString choices.length)
    | _ => throw (k.wrongKind "variant identifier")
  match l with
  | .text s => byName s
  | .map [(k, v)] => do
    let a ← byKey k
    match v with
    | .unit => pure a
    | _ => throw (v.wrongKind "unit")
  | .map _ => throw "invalid value: map, expected map with a single key"
  | _ => throw (l.wrongKind "string or map")

end Loose

end KeyMidi.Yaml
