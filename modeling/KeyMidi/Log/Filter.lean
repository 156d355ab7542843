import KeyMidi.Text.Blank
import KeyMidi.Text.Letter
/-!
# Log levels and filters

A log record has a level, a target (the module path it comes from) and the names of its fields.
A filter is a list of directives separated by commas; empty pieces are skipped. A directive is
`target[span{field,...}]=level`, where every part may be left out: a level alone, a target
alone, or a span part alone. Level names are read without regard to case (in ASCII), and the
numbers `0` to `5`, with an optional `+`, stand for `off` to `trace`; a directive without a
level enables everything.

A directive is read from its text with the white space around it trimmed, but the pieces it
cuts are taken from the untrimmed text at the positions found in the trimmed one. So white space
before a directive shifts its parts: ` a=info` has the target ` ` and the level `=info`. A
directive that ends on its first part is a level when that part reads as one, and a target
otherwise; the part keeps any white space that followed it.

A record passes when the most specific directive that concerns it allows its level: the one
with the longest target that begins the record's target, then with the most field names; a
directive that names fields concerns only records that have all of them. Of two directives
equally specific the later counts. Directives with a span part, or with a field that names a
value, concern only records inside spans, which this program does not make. A filter with no
directive at all lets errors pass.

A filter read strictly fails on the first directive it cannot read; read leniently, it skips such
directives, noting each one.
-/

namespace KeyMidi.Log

/-- The level of a record, from the most to the least severe. -/
inductive Level where
  | error
  | warn
  | info
  | debug
  | trace
  deriving Repr, DecidableEq, Inhabited

/-- The verbosity a level needs: 1 for errors up to 5 for traces. -/
def Level.rank : Level → Nat
  | .error => 1
  | .warn => 2
  | .info => 3
  | .debug => 4
  | .trace => 5

/-- The name of a level, right-aligned in five columns. -/
def Level.label : Level → String
  | .error => "ERROR"
  | .warn => " WARN"
  | .info => " INFO"
  | .debug => "DEBUG"
  | .trace => "TRACE"

/-- A verbosity from its name or number: 0 is off, 5 is trace. A number may have a leading `+`
and leading zeros; names are compared without regard to ASCII case, and the empty name is
errors only. -/
def verbosityOf (s : String) : Option Nat :=
  let digits := match s.toList with
    | '+' :: ds => ds
    | ds => ds
  let number : Option Nat :=
    if !digits.isEmpty && digits.all Char.isDigit then
      let n := digits.foldl (fun acc c => acc * 10 + (c.toNat - 48)) 0
      if n < Nat.pow 2 64 && n ≤ 5 then some n else none
    else none
  let lower := String.ofList (s.toList.map fun c => if c.isUpper then c.toLower else c)
  match number with
  | some n => some n
  | none =>
    match lower with
    | "" | "error" => some 1
    | "warn" => some 2
    | "info" => some 3
    | "debug" => some 4
    | "trace" => some 5
    | "off" => some 0
    | _ => none

/-- The message for a level that does not read. -/
def levelError : String :=
  "error parsing level filter: expected one of \"off\", \"error\", \"warn\", \"info\", " ++
    "\"debug\", \"trace\", or a number 0-5"

/-- The message for a directive that does not read. -/
def directiveError : String := "invalid filter directive"

/-- A field a directive names, and whether it also names a value. -/
structure FieldMatch where
  name : String
  hasValue : Bool
  deriving Repr, DecidableEq, Inhabited

/-- A directive as written: an optional target, an optional span, the fields it names and a
verbosity. -/
structure Directive where
  target : Option String := none
  span : Option String := none
  fields : List FieldMatch := []
  verbosity : Nat := 5
  deriving Repr, DecidableEq, Inhabited

/-- Where the reading of a directive stands; positions are byte offsets. -/
inductive Stage where
  | start
  | levelOrTarget (start : Nat)
  | span (start : Nat)
  | field (start : Nat)
  | fields
  | target
  | level (start : Nat)
  | complete
  deriving Repr, DecidableEq, Inhabited

/-- The text between two byte offsets, if they fall on character boundaries. -/
def slice (bytes : ByteArray) (lo hi : Nat) : Except String String :=
  match String.fromUTF8? (bytes.extract lo hi) with
  | some s => .ok s
  | none => .error directiveError

/-- A field as written inside braces: a name, and a value after `=`. An empty field does not
read. -/
def FieldMatch.read (s : String) : Except String FieldMatch :=
  if s.isEmpty then .error directiveError
  else match s.splitOn "=" with
    | name :: _ :: _ => .ok ⟨name, true⟩
    | _ => .ok ⟨s, false⟩

/-- A level as written after `=`: empty is everything. -/
def readLevel (s : String) : Except String Nat :=
  if s.isEmpty then .ok 5
  else match verbosityOf s with
    | some v => .ok v
    | none => .error levelError

/-- One step of reading a directive: the character `c` at byte offset `i` of the trimmed text,
with pieces cut from the untrimmed text `bytes`. -/
def step (bytes : ByteArray) (acc : Stage × Directive) (ic : Nat × Char) :
    Except String (Stage × Directive) := do
  let (stage, d) := acc
  let (i, c) := ic
  match stage with
  | .start =>
    if c == '[' then return (.span (i + 1), d)
    else if c == '-' || c == ':' || c == '_' || Text.isAlphanumeric c then
      return (.levelOrTarget i, d)
    else throw directiveError
  | .levelOrTarget s =>
    if c == '=' then return (.level (i + 1), { d with target := some (← slice bytes s i) })
    else if c == '[' then return (.span (i + 1), { d with target := some (← slice bytes s i) })
    else if c == ',' then return (.complete, { d with target := some (← slice bytes s i) })
    else return (stage, d)
  | .target => if c == '=' then return (.level (i + 1), d) else throw directiveError
  | .span s =>
    if c == ']' then return (.target, { d with span := some (← slice bytes s i) })
    else if c == '\x7b' then
      let name ← slice bytes s i
      return (.field (i + 1), { d with span := if name.isEmpty then none else some name })
    else return (stage, d)
  | .field s =>
    if c == '\x7d' then
      return (.fields, { d with fields := d.fields ++ [← FieldMatch.read (← slice bytes s i)] })
    else if c == ',' then
      return (.field (i + 1), { d with fields := d.fields ++ [← FieldMatch.read (← slice bytes s i)] })
    else return (stage, d)
  | .fields => if c == ']' then return (.target, d) else throw directiveError
  | .level s =>
    if c == ',' then return (.complete, { d with verbosity := ← readLevel (← slice bytes s i) })
    else return (stage, d)
  | .complete => throw directiveError

/-- The characters of a text with their byte offsets. -/
def withOffsets (cs : List Char) : List (Nat × Char) :=
  (cs.foldl (fun (acc : List (Nat × Char) × Nat) c => ((acc.2, c) :: acc.1, acc.2 + c.utf8Size))
    ([], 0)).1.reverse

/-- Text with the white space at both ends removed. -/
def trimWhite (s : String) : List Char :=
  ((s.toList.dropWhile Text.isWhite).reverse.dropWhile Text.isWhite).reverse

/-- Reads one directive. -/
def Directive.read (s : String) : Except String Directive := do
  let bytes := s.toUTF8
  let (stage, d) ← (withOffsets (trimWhite s)).foldlM (step bytes) (Stage.start, ({} : Directive))
  match stage with
  | .levelOrTarget st =>
    let part ← slice bytes st bytes.size
    match verbosityOf part with
    | some v => return { d with verbosity := v }
    | none => return { d with target := some part }
  | .level st => return { d with verbosity := ← readLevel (← slice bytes st bytes.size) }
  | .target | .complete => return d
  | _ => throw directiveError

/-- A directive that concerns records outside spans: an optional target, the names of the fields
a record must have, and a verbosity. -/
structure Rule where
  target : Option String
  fields : List String
  verbosity : Nat
  deriving Repr, DecidableEq, Inhabited

/-- The rule of a directive, if it concerns records outside spans. -/
def Directive.rule? (d : Directive) : Option Rule :=
  if d.span.isNone && !d.fields.any (·.hasValue) then some ⟨d.target, d.fields.map (·.name), d.verbosity⟩
  else none

/-- A filter: the rules for records outside spans, in the order given. -/
structure Filter where
  rules : List Rule := []
  deriving Repr, Inhabited

/-- The filter of a list of directives: with none at all, errors pass. -/
def Filter.ofDirectives (ds : List Directive) : Filter :=
  if ds.isEmpty then ⟨[⟨none, [], 1⟩]⟩ else ⟨ds.filterMap Directive.rule?⟩

/-- The pieces of a filter text. -/
def pieces (s : String) : List String := (s.splitOn ",").filter (· != "")

/-- Reads a filter strictly. -/
def Filter.read (s : String) : Except String Filter := do
  let ds ← (pieces s).mapM Directive.read
  return Filter.ofDirectives ds

/-- Reads a filter leniently: the filter, and a note for each directive skipped. -/
def Filter.readLenient (s : String) : Filter × List String :=
  let step (acc : List Directive × List String) (p : String) :=
    match Directive.read p with
    | .ok d => (acc.1 ++ [d], acc.2)
    | .error e => (acc.1, acc.2 ++ ["ignoring " ++ "`" ++ p ++ "`" ++ ": " ++ e])
  let (ds, notes) := (pieces s).foldl step ([], [])
  (Filter.ofDirectives ds, notes)

/-- A filter that lets nothing pass. -/
def Filter.silent : Filter := {}

/-- The rule that decides for a record: among those that concern it, the one with the longest
target, then the most field names, the later of equals. -/
def Filter.decider (f : Filter) (target : String) (fields : List String) : Option Rule :=
  let concerned := f.rules.filter fun r =>
    (r.target.map fun t => target.startsWith t).getD true && r.fields.all (fields.contains ·)
  let weight (r : Rule) : Nat × Nat := ((r.target.map fun t => t.utf8ByteSize + 1).getD 0, r.fields.length)
  concerned.foldl (fun best r => match best with
    | none => some r
    | some b =>
      let (w, n) := weight r
      let (wb, nb) := weight b
      if w > wb || (w == wb && n ≥ nb) then some r else some b) none

/-- A record of a level, from a target and with the given fields, passes the filter. -/
def Filter.allows (f : Filter) (target : String) (fields : List String) (level : Level) : Bool :=
  match f.decider target fields with
  | some r => level.rank ≤ r.verbosity
  | none => false

end KeyMidi.Log
