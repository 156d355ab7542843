import KeyMidi.Yaml.Node
import KeyMidi.Decimal.Text
/-!
# Reading typed data out of nodes

A plain scalar means what the YAML core schema says: empty, `~` and `null` are null, `true` and
`false` (also capitalised or in capitals) are booleans, decimal, `0x`, `0o` and `0b` numerals
are integers (a numeral with a leading zero is text), decimals and `.inf`/`.nan` are floats,
and everything else is text. Quoted scalars are always text.

Typed readers take a node and the path that leads to it, and either give a value or a fault
that says what was found, what was expected, and where. The rules of the messages:

* a value of the wrong kind is `invalid type: <found>, expected <wanted>`;
* a number of the right kind out of range is `invalid value: integer <n>, expected <type>`;
  a negative numeral for an unsigned type is of the wrong kind;
* a record reports the first problem in the order of the text: a value that does not read, a
  field given twice, a problem inside a skipped value; then the first missing field in the
  order the record declares its fields.
-/

namespace KeyMidi.Yaml

/-- Where a value sits: the keys and indices that lead to it from the root. -/
inductive Path where
  | root
  | key (parent : Path) (name : String)
  | index (parent : Path) (i : Nat)
  /-- Under a key that is not a scalar. -/
  | unknown (parent : Path)
  deriving Repr, Inhabited

/-- A path as text: `mappings[0].keys.kbd`; the root is `.`. -/
def Path.describe : Path → String
  | .root => "."
  | .key .root k => k
  | .key p k => p.describe ++ "." ++ k
  | .index p i => p.describe ++ "[" ++ toString i ++ "]"
  | .unknown .root => "?"
  | .unknown p => p.describe ++ ".?"

section Numerals

/-- The value of a digit in a radix. -/
def digitValue (radix : Nat) (c : Char) : Option Nat :=
  let v := if c.isDigit then some (c.toNat - 48)
    else if 'a' ≤ c && c ≤ 'z' then some (c.toNat - 87)
    else if 'A' ≤ c && c ≤ 'Z' then some (c.toNat - 55)
    else none
  v.bind fun d => if d < radix then some d else none

/-- The value of a non-empty run of digits. -/
def digitsValue (radix : Nat) (cs : List Char) : Option Nat :=
  if cs.isEmpty then none
  else cs.foldl (fun acc c => acc.bind fun a => (digitValue radix c).map (a * radix + ·)) (some 0)

/-- Digits with an optional leading `+` or `-`, in a radix. -/
def signedDigits (radix : Nat) : List Char → Option Int
  | '-' :: cs => (digitsValue radix cs).map fun n => -(n : Int)
  | '+' :: cs => (digitsValue radix cs).map fun n => (n : Int)
  | cs => (digitsValue radix cs).map fun n => (n : Int)

/-- A numeral with a leading zero and more digits is text, not a number. -/
def digitsButNotNumber (s : String) : Bool :=
  let cs := match s.toList with
    | '-' :: r => r
    | '+' :: r => r
    | r => r
  cs.length > 1 && cs.head? == some '0' && (cs.drop 1).all Char.isDigit

/-- An unsigned numeral: decimal, or `0x`, `0o`, `0b` with that radix; one `+` may lead. -/
def parseUnsigned (s : String) : Option Nat :=
  let cs := s.toList
  let un := match cs with
    | '+' :: r => r
    | r => r
  let radixed (p : List Char) (radix : Nat) : Option Nat :=
    if un.take 2 == p then
      let rest := un.drop 2
      if rest.head? == some '+' || rest.head? == some '-' then none else digitsValue radix rest
    else none
  match radixed ['0', 'x'] 16 with
  | some n => some n
  | none => match radixed ['0', 'o'] 8 with
    | some n => some n
    | none => match radixed ['0', 'b'] 2 with
      | some n => some n
      | none =>
        if un.head? == some '+' || un.head? == some '-' then none
        else if digitsButNotNumber s then none
        else digitsValue 10 un

/-- A negative numeral: `-` and decimal digits, or `-0x`, `-0o`, `-0b` and digits. -/
def parseNegative (s : String) : Option Int :=
  let cs := s.toList
  let radixed (p : List Char) (radix : Nat) : Option Int :=
    if cs.take 3 == p then signedDigits radix ('-' :: cs.drop 3) else none
  match radixed ['-', '0', 'x'] 16 with
  | some n => some n
  | none => match radixed ['-', '0', 'o'] 8 with
    | some n => some n
    | none => match radixed ['-', '0', 'b'] 2 with
      | some n => some n
      | none => if digitsButNotNumber s then none else signedDigits 10 cs

/-- A decimal number `digits[.digits][e[±]digits]` (at least one digit before the exponent),
read to the nearest double. -/
def parseDecimal (cs : List Char) : Option Float :=
  let (neg, cs) := match cs with
    | '-' :: r => (true, r)
    | '+' :: r => (false, r)
    | r => (false, r)
  let whole := cs.takeWhile Char.isDigit
  let cs := cs.drop whole.length
  let (frac, cs) := match cs with
    | '.' :: r => (r.takeWhile Char.isDigit, r.drop (r.takeWhile Char.isDigit).length)
    | r => ([], r)
  if whole.isEmpty && frac.isEmpty then none
  else
    let expPart : Option Int := match cs with
      | [] => some 0
      | e :: r => if e == 'e' || e == 'E' then signedDigits 10 r else none
    expPart.map fun ex =>
      let mant := (digitsValue 10 (whole ++ frac)).getD 0
      let e10 : Int := ex - frac.length
      -- the value is below 10^(size + e10); far outside the range of doubles it is 0 or infinite
      let size : Int := (Nat.toDigits 10 mant).length
      let x :=
        if mant == 0 || size + e10 < -400 then 0.0
        else if size + e10 > 400 then 1.0 / 0.0
        else if e10 ≥ 0 then Float.ofScientific mant false e10.toNat
        else Float.ofScientific mant true (-e10).toNat
      if neg then -x else x

/-- A float numeral: `.inf`, `-.inf`, `.nan` (in three spellings each), or a finite decimal. -/
def parseFloat (s : String) : Option Float :=
  let cs := s.toList
  let (ok, un) := match cs with
    | '+' :: r => (!(r.head? == some '+' || r.head? == some '-'), r)
    | r => (true, r)
  let unS := String.ofList un
  if !ok then none
  else if unS == ".inf" || unS == ".Inf" || unS == ".INF" then some (1.0 / 0.0)
  else if s == "-.inf" || s == "-.Inf" || s == "-.INF" then some (-1.0 / 0.0)
  else if s == ".nan" || s == ".NaN" || s == ".NAN" then some (0.0 / 0.0)
  else (parseDecimal un).bind fun x => if Decimal.isNumber x then some x else none

/-- `true` and `false`, also capitalised or in capitals. -/
def parseBool (s : String) : Option Bool :=
  if s == "true" || s == "True" || s == "TRUE" then some true
  else if s == "false" || s == "False" || s == "FALSE" then some false
  else none

/-- The words for null: `~` and `null` in three spellings. -/
def isNullWord (s : String) : Bool :=
  s == "~" || s == "null" || s == "Null" || s == "NULL"

/-- Null in a plain scalar: empty, or a word for null. -/
def isNull (s : String) : Bool := s.isEmpty || isNullWord s

end Numerals

/-- What a scalar means. -/
inductive Scalar where
  | null
  | bool (b : Bool)
  /-- An integer that fits 64 bits (unsigned, or signed when negative). -/
  | int (i : Int)
  /-- An integer that needs 128 bits. -/
  | wide (i : Int)
  | float (x : Float)
  | text (s : String)
  deriving Repr, Inhabited

/-- The integer a numeral stands for, if it fits 128 bits: 64 bits are tried first. -/
def Scalar.integer? (text : String) : Option Scalar :=
  match parseUnsigned text, parseNegative text with
  | some v, _ => if v < Nat.pow 2 64 then some (.int v) else if v < Nat.pow 2 128 then some (.wide v) else none
  | none, some v =>
    if -Int.pow 2 63 ≤ v then some (.int v) else if -Int.pow 2 127 ≤ v then some (.wide v) else none
  | none, none => none

/-- The meaning of a plain scalar by the core schema. -/
def Scalar.untagged (text : String) : Scalar :=
  if isNull text then .null
  else match parseBool text with
    | some b => .bool b
    | none =>
      match Scalar.integer? text with
      | some s => s
      | none =>
        if digitsButNotNumber text then .text text
        else match parseFloat text with
          | some x => .float x
          | none => .text text

/-- Text in double quotes with the escapes of a debugging view. -/
def debugQuote (s : String) : String :=
  let body := s.foldl (fun acc c =>
    if c == '"' then acc ++ "\\\""
    else if c == '\\' then acc ++ "\\\\"
    else if c == '\n' then acc ++ "\\n"
    else if c == '\r' then acc ++ "\\r"
    else if c == '\t' then acc ++ "\\t"
    else if c == '\x00' then acc ++ "\\0"
    else if c.toNat < 32 || c.toNat == 127 then
      acc ++ "\\u" ++ "\x7b" ++ String.ofList (Nat.toDigits 16 c.toNat) ++ "\x7d"
    else acc.push c) ""
  "\"" ++ body ++ "\""

/-- The message for a text that a core tag does not fit. -/
def invalidText (text wanted : String) : String :=
  "invalid value: string " ++ debugQuote text ++ ", expected " ++ wanted

/-- What a scalar means when it is read as any value. A core tag decides how its text is read,
and a text it does not fit is a fault, given by its message; a plain scalar with no tag or a
local one means what the core schema says; any other scalar is text. -/
def Scalar.meaning (text : String) (style : ScalarStyle) (tag : Option Tag) : Except String Scalar :=
  match tag with
  | some t =>
    if t == Tag.core "bool" then
      match parseBool text with
      | some b => .ok (.bool b)
      | none => .error (invalidText text "a boolean")
    else if t == Tag.core "int" then
      match Scalar.integer? text with
      | some s => .ok s
      | none => .error (invalidText text "an integer")
    else if t == Tag.core "float" then
      match parseFloat text with
      | some x => .ok (.float x)
      | none => .error (invalidText text "a float")
    else if t == Tag.core "null" then
      if isNullWord text then .ok .null else .error (invalidText text "null")
    else if t.isLocal && style == .plain then .ok (Scalar.untagged text)
    else .ok (.text text)
  | none => .ok (if style == .plain then Scalar.untagged text else .text text)

/-- A float as found in messages: its positional text, with `.0` if it has no point. -/
def floatFound (x : Float) : String :=
  let t := Decimal.Layout.message.write x
  if Decimal.isNumber x && !t.contains '.' then t ++ ".0" else t

/-- A scalar's meaning as named in messages. -/
def Scalar.found : Scalar → String
  | .null => "unit value"
  | .bool b => "boolean " ++ "`" ++ toString b ++ "`"
  | .int i => "integer " ++ "`" ++ toString i ++ "`"
  | .wide i =>
    "integer " ++ "`" ++ toString i ++ "`" ++ (if i < 0 then " as i128" else " as u128")
  | .float x => "floating point " ++ "`" ++ floatFound x ++ "`"
  | .text s => "string " ++ debugQuote s

/-- A fault about the value at a node. -/
def Node.faultAt (n : Node) (p : Path) (text : String) : Fault :=
  match n with
  | .fault f => f
  | _ => .message text (some (n.mark, p.describe))

/-- A fault without a position takes that of the node being read, the innermost one that
encloses it. -/
def Fault.placeAt (f : Fault) (n : Node) (p : Path) : Fault :=
  match f with
  | .message text none => .message text (some (n.mark, p.describe))
  | f => f

/-- The fault for a node of the wrong kind: what was found and what was wanted. A scalar whose
core tag does not fit its text reports that instead, and an empty document is an early end. -/
def Node.wrongKind (n : Node) (p : Path) (wanted : String) : Fault :=
  let wrong (found : String) := n.faultAt p ("invalid type: " ++ found ++ ", expected " ++ wanted)
  match n with
  | .void _ => .endOfStream
  | .scalar t s tag _ =>
    match Scalar.meaning t s tag with
    | .ok sc => wrong sc.found
    | .error msg => n.faultAt p msg
  | .seq .. => wrong "sequence"
  | .map .. => wrong "map"
  | _ => wrong "unit value"

/-- The first fault anywhere inside a node, met when a value is skipped; aliases are skipped
without being followed. -/
def Node.firstFault : Node → Option Fault
  | .fault f => some f
  | .seq items stop _ _ => match firstFaultOfList items with
    | some f => some f
    | none => stop
  | .map entries stop _ _ => match firstFaultOfEntries entries with
    | some f => some f
    | none => stop
  | _ => none
where
  /-- The first fault in a list of nodes. -/
  firstFaultOfList : List Node → Option Fault
    | [] => none
    | n :: rest => match n.firstFault with
      | some f => some f
      | none => firstFaultOfList rest
  /-- The first fault in a list of entries. -/
  firstFaultOfEntries : List (Node × Node) → Option Fault
    | [] => none
    | (k, v) :: rest => match k.firstFault with
      | some f => some f
      | none => match v.firstFault with
        | some f => some f
        | none => firstFaultOfEntries rest

/-! ## Reading

Reading follows aliases to the nodes their anchors stand for. A document may follow aliases at
most a hundred times for each of its events, and collections may nest 128 deep counting those
reached through aliases. -/

/-- What reading may still spend, and what it needs to follow aliases. -/
structure Reading where
  anchors : List (Nat × Node) := []
  jumpLimit : Nat := 0
  jumps : Nat := 0
  depth : Nat := 128

/-- Data read from a node. -/
abbrev Read := StateT Reading (Except Fault)

/-- Runs a reading, giving faults without a position the position of a node. -/
def within {α : Type} (n : Node) (p : Path) (r : Read α) : Read α :=
  tryCatch r fun f => throw (f.placeAt n p)

/-- Runs a reading one collection deeper; at the limit, the collection at `m` is one too many. -/
def nested {α : Type} (m : Mark) (r : Read α) : Read α := do
  let st ← get
  match st.depth with
  | 0 => throw (.recursionLimit m)
  | d + 1 =>
    set { st with depth := d }
    let a ← r
    modify fun st => { st with depth := d + 1 }
    return a

namespace Node

/-- The node an alias stands for, counting the jump; other nodes stand for themselves. -/
def resolve (n : Node) : Read Node :=
  match n with
  | .alias id _ => do
    let st ← get
    if st.jumps + 1 > st.jumpLimit then throw .repetitionLimit
    set { st with jumps := st.jumps + 1 }
    match st.anchors.lookup id with
    | some target => pure target
    | none => throw .endOfStream
  | n => pure n

/-- A scalar that a typed reader reads by its text: a plain one, or a literal one carrying the
core tag of the reader's type. -/
def readable (style : ScalarStyle) (tag : Option Tag) (core : String) : Bool :=
  style == .plain || (style == .literal && tag == some (Tag.core core))

/-- An unsigned integer up to `max`, named `ty` in messages. -/
def nat (n : Node) (p : Path) (max : Nat) (ty : String) : Read Nat := do
  let n ← n.resolve
  match n with
  | .scalar t s tag _ =>
    match (if readable s tag "int" then parseUnsigned t else none) with
    | some v =>
      if v < Nat.pow 2 64 then
        if v ≤ max then pure v
        else throw (n.faultAt p ("invalid value: integer " ++ "`" ++ toString v ++ "`" ++ ", expected " ++ ty))
      else throw (n.wrongKind p ty)
    | none => throw (n.wrongKind p ty)
  | _ => throw (n.wrongKind p ty)

/-- A signed integer in `[lo, hi]`, named `ty` in messages. -/
def int (n : Node) (p : Path) (lo hi : Int) (ty : String) : Read Int := do
  let n ← n.resolve
  let outOfRange (v : Int) : Fault :=
    n.faultAt p ("invalid value: integer " ++ "`" ++ toString v ++ "`" ++ ", expected " ++ ty)
  match n with
  | .scalar t s tag _ =>
    let v : Option Int := if !readable s tag "int" then none else match parseUnsigned t with
      | some u => if u < Nat.pow 2 63 then some u else none
      | none => (parseNegative t).bind fun v => if -Int.pow 2 63 ≤ v then some v else none
    match v with
    | some v => if lo ≤ v ∧ v ≤ hi then pure v else throw (outOfRange v)
    | none => throw (n.wrongKind p ty)
  | _ => throw (n.wrongKind p ty)

/-- A double. -/
def float (n : Node) (p : Path) : Read Float := do
  let n ← n.resolve
  match n with
  | .scalar t s tag _ =>
    match (if readable s tag "float" then parseFloat t else none) with
    | some x => pure x
    | none => throw (n.wrongKind p "f64")
  | _ => throw (n.wrongKind p "f64")

/-- A boolean. -/
def bool (n : Node) (p : Path) : Read Bool := do
  let n ← n.resolve
  match n with
  | .scalar t s tag _ =>
    match (if readable s tag "bool" then parseBool t else none) with
    | some b => pure b
    | none => throw (n.wrongKind p "a boolean")
  | _ => throw (n.wrongKind p "a boolean")

/-- Text: any scalar, as written, whatever its tag. -/
def string (n : Node) (p : Path) : Read String := do
  let n ← n.resolve
  match n with
  | .scalar t _ _ _ => pure t
  | _ => throw (n.wrongKind p "a string")

/-- The list `one of a, b, c` of names in messages. -/
def oneOf (names : List String) : String :=
  let q (s : String) := "`" ++ s ++ "`"
  match names with
  | [] => "there are no variants"
  | [a] => "expected " ++ q a
  | [a, b] => "expected " ++ q a ++ " or " ++ q b
  | _ => "expected one of " ++ ", ".intercalate (names.map q)

/-- One of several named choices. A node with a local tag gives the choice by the tag's name
and must then hold nothing: an empty or null plain scalar. An unknown name in a tag has no
position of its own. Any other scalar gives the choice by its text; an untagged collection gives
none. -/
def choice {α : Type} (n : Node) (p : Path) (choices : List (α × String)) : Read α := do
  let unknown (s : String) : String :=
    "unknown variant " ++ "`" ++ s ++ "`" ++ ", " ++ oneOf (choices.map (·.2))
  let byTag (name : String) (holds : Read Unit) : Read α :=
    match choices.find? (·.2 == name) with
    | some (a, _) => do holds; pure a
    | none => throw (.message (unknown name) none)
  let n ← n.resolve
  match n with
  | .scalar t s tag _ =>
    match tag.bind Tag.name? with
    | some name =>
      byTag name do
        if !(s == .plain && isNull t) then throw (n.faultAt p (invalidText t "null"))
    | none =>
      match choices.find? (·.2 == t) with
      | some (a, _) => pure a
      | none => throw (n.faultAt p (unknown t))
  | .seq _ _ tag _ | .map _ _ tag _ =>
    match tag.bind Tag.name? with
    | some name => byTag name (throw (n.wrongKind p "unit"))
    | none => throw (n.wrongKind p "a YAML tag starting with '!'")
  | _ => throw (n.wrongKind p "a YAML tag starting with '!'")

/-- An optional value. An empty or null plain scalar is `none`, and so is a plain scalar with
the core null tag, whose text must then be a word for null; a missing value too. -/
def option {α : Type} (n : Node) (p : Path) (read : Node → Path → Read α) : Read (Option α) := do
  let n ← n.resolve
  match n with
  | .scalar t .plain (some tag) _ =>
    if tag == Tag.core "null" then
      if isNullWord t then pure none else throw (.message (invalidText t "null") none)
    else some <$> read n p
  | .scalar t .plain none _ => if isNull t then pure none else some <$> read n p
  | .void _ => pure none
  | _ => some <$> read n p

/-- An empty plain scalar, or an empty document, reads as an empty collection. -/
def isEmptyCollection (n : Node) : Bool :=
  match n with
  | .scalar "" .plain _ _ => true
  | .void _ => true
  | _ => false

/-- Reads the items of a list in order. -/
def readItems {α : Type} (read : Node → Path → Read α) (p : Path) :
    Nat → List Node → Read (List α)
  | _, [] => pure []
  | i, x :: rest => do
    let a ← read x (.index p i)
    let as ← readItems read p (i + 1) rest
    return a :: as

/-- A list. -/
def list {α : Type} (n : Node) (p : Path) (read : Node → Path → Read α) : Read (List α) := do
  let n ← n.resolve
  match n with
  | .seq items stop _ m =>
    within n p do
      let xs ← nested m (readItems read p 0 items)
      match stop with
      | some f => throw f
      | none => pure xs
  | _ => if n.isEmptyCollection then pure [] else throw (n.wrongKind p "a sequence")

/-- The path of the value under a key: a key that is not a scalar, or is an alias, gives no
name. -/
def valuePath (key : Node) (p : Path) : Path :=
  match key with
  | .scalar t _ _ _ => .key p t
  | _ => .unknown p

/-- Reads the entries of a table in order. -/
def readEntries {κ α : Type} (readKey : Node → Path → Read κ) (read : Node → Path → Read α)
    (p : Path) : List (Node × Node) → Read (List (κ × α))
  | [] => pure []
  | (k, v) :: rest => do
    let key ← readKey k p
    let a ← read v (valuePath k p)
    let more ← readEntries readKey read p rest
    return (key, a) :: more

/-- A table: a mapping whose keys and values both read; keys are read at the table's path. -/
def table {κ α : Type} (n : Node) (p : Path) (readKey : Node → Path → Read κ)
    (read : Node → Path → Read α) : Read (List (κ × α)) := do
  let n ← n.resolve
  match n with
  | .map entries stop _ m =>
    within n p do
      let xs ← nested m (readEntries readKey read p entries)
      match stop with
      | some f => throw f
      | none => pure xs
  | _ => if n.isEmptyCollection then pure [] else throw (n.wrongKind p "a map")

/-- A check of one field's value. -/
abbrev FieldCheck := Node → Path → Read Unit

/-- The fields found in a mapping read as a record: names with their values and paths. -/
structure Fields where
  node : Node
  path : Path
  found : List (String × Node × Path)

/-- Walks a mapping's entries as the fields of a record: checks each known field's value in
turn, refuses a field given twice, and skips the values of unknown names (a fault inside them
still stops the walk). -/
def walkFields (n : Node) (p : Path) (checks : List (String × FieldCheck)) :
    List (Node × Node) → List (String × Node × Path) → Read (List (String × Node × Path))
  | [], acc => pure acc.reverse
  | (k, v) :: rest, acc => do
    let name ← match ← k.resolve with
      | .scalar t _ _ _ => pure t
      | k => throw (k.wrongKind p "field identifier")
    let q := valuePath k p
    match checks.find? (·.1 == name) with
    | some (_, check) =>
      if acc.any (·.1 == name) then
        throw (n.faultAt p ("duplicate field " ++ "`" ++ name ++ "`"))
      check v q
      walkFields n p checks rest ((name, v, q) :: acc)
    | none =>
      match v.firstFault with
      | some f => throw f
      | none => walkFields n p checks rest acc

/-- Reads a mapping as a record named `what` with the given fields. -/
def record (n : Node) (p : Path) (what : String) (checks : List (String × FieldCheck)) :
    Read Fields := do
  let n ← n.resolve
  match n with
  | .map entries stop _ m =>
    within n p do
      let found ← nested m (walkFields n p checks entries [])
      match stop with
      | some f => throw f
      | none => pure ⟨n, p, found⟩
  | _ => if n.isEmptyCollection then pure ⟨n, p, []⟩ else throw (n.wrongKind p what)

end Node

/-- Reads again a value that was already checked: the aliases it follows were counted then. -/
def again {α : Type} (r : Read α) : Read α := do
  let st ← get
  set { st with jumps := 0 }
  let a ← r
  set st
  return a

namespace Node.Fields

/-- A field's value read with `read`, or `dflt` when absent. -/
def getD {α : Type} (fs : Fields) (name : String) (read : Node → Path → Read α) (dflt : α) :
    Read α :=
  match fs.found.find? (·.1 == name) with
  | some (_, v, q) => again (read v q)
  | none => pure dflt

/-- A required field's value; its absence is a fault at the record. -/
def get {α : Type} (fs : Fields) (name : String) (read : Node → Path → Read α) : Read α :=
  match fs.found.find? (·.1 == name) with
  | some (_, v, q) => again (read v q)
  | none => throw (fs.node.faultAt fs.path ("missing field " ++ "`" ++ name ++ "`"))

end Node.Fields

/-- Turns a reader into a check of a field's value. -/
def checkOf {α : Type} (read : Node → Path → Read α) : Node.FieldCheck :=
  fun n p => (read n p).map fun _ => ()

/-- Reads the single document of a text with `read`: a fault after the value, or a second
document, also fails the reading. -/
def Document.decode {α : Type} (text : String) (read : Node → Path → Read α) : Except Fault α := do
  let d := Document.read text
  let (a, _) ← (read d.root .root).run { anchors := d.anchors, jumpLimit := d.eventCount * 100 }
  if let some f := d.trailing then throw f
  if d.more then throw .moreDocuments
  return a

end KeyMidi.Yaml
