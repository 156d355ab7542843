import KeyMidi.Environment
/-!
# The command line

The program takes five options: `--settings <SETTINGS>` (short `-s`), `--log-level <LOG_LEVEL>`
(short `-l`, default `info`), `--log-dir <LOG_DIR>`, `--list-ports` and `--list-devices`, besides
`--help` (`-h`) and `--version` (`-V`). The first three fall back on the environment variables
`HID2MIDI_SETTINGS`, `LOG_LEVEL` and `HID2MIDI_LOG_DIR`.

Arguments are read in order. A long option takes its value after `=` or as the next argument; a
short one right after its letter (an `=` there is dropped) or as the next argument; letters of
switches may be grouped. Help and version answer as soon as they are read. An option waiting for
its value is settled when the next option comes or the arguments end, and only then is it
checked: it needs a value, may not be given twice, and a path may not be empty. After `--`
every argument is a positional one, and the program takes none. An unknown long option gets the
known one most like it as a tip, when one is close enough by the Jaro similarity (above 0.7).

Most errors show the general usage line. Two show the options used so far instead: an unknown
long option names those read (a waiting one too) and then the tip; a value given to a switch
names the switch alone when nothing came before it, and else the group of the program's own
options, after the switch if it is help or version.
-/

namespace KeyMidi.Cli

/-- An option of the command line. -/
inductive Opt where
  | settings
  | logLevel
  | logDir
  | listPorts
  | listDevices
  | help
  | version
  deriving Repr, DecidableEq, Inhabited

namespace Opt

/-- The options, in the order of the help. -/
def all : List Opt := [.settings, .logLevel, .logDir, .listPorts, .listDevices, .help, .version]

/-- The long name. -/
def long : Opt → String
  | .settings => "settings"
  | .logLevel => "log-level"
  | .logDir => "log-dir"
  | .listPorts => "list-ports"
  | .listDevices => "list-devices"
  | .help => "help"
  | .version => "version"

/-- The short name, if any. -/
def short : Opt → Option Char
  | .settings => some 's'
  | .logLevel => some 'l'
  | .help => some 'h'
  | .version => some 'V'
  | _ => none

/-- The option takes a value. -/
def takesValue : Opt → Bool
  | .settings | .logLevel | .logDir => true
  | _ => false

/-- The value is a path, which may not be empty. -/
def isPath : Opt → Bool
  | .settings | .logDir => true
  | _ => false

/-- How errors name the option. -/
def shown : Opt → String
  | .settings => "--settings <SETTINGS>"
  | .logLevel => "--log-level <LOG_LEVEL>"
  | .logDir => "--log-dir <LOG_DIR>"
  | o => "--" ++ o.long

/-- The option is one of the program's own, not help or version. -/
def isOwn : Opt → Bool
  | .help | .version => false
  | _ => true

/-- The environment variable the option falls back on. -/
def envVar : Opt → Option String
  | .settings => some "HID2MIDI_SETTINGS"
  | .logLevel => some "LOG_LEVEL"
  | .logDir => some "HID2MIDI_LOG_DIR"
  | _ => none

end Opt

/-- What the options ask for. -/
structure Options where
  settings : Option String := none
  logLevel : String := "info"
  logDir : Option String := none
  listPorts : Bool := false
  listDevices : Bool := false
  deriving Repr, Inhabited

/-- The usage line of an error. -/
inductive Usage where
  /-- The general line, all options in brackets. -/
  | general
  /-- The options named, in order; with none, the general line. -/
  | naming (opts : List Opt)
  /-- The options named, then the group of the program's own options. -/
  | grouped (opts : List Opt)
  deriving Repr, Inhabited

/-- The usage line. -/
def usageLine : String := "Usage: hid2midi [OPTIONS]"

/-- The options of a list, each at its first place. -/
def firstPlaces (os : List Opt) : List Opt :=
  os.foldl (fun acc o => if acc.contains o then acc else acc ++ [o]) []

/-- The program's own options as one group. -/
def groupShown : String := "<" ++ "|".intercalate ((Opt.all.filter Opt.isOwn).map Opt.shown) ++ ">"

/-- A usage line as printed. -/
def Usage.text : Usage → String
  | .general | .naming [] => usageLine
  | .naming os => "Usage: hid2midi " ++ " ".intercalate ((firstPlaces os).map Opt.shown)
  | .grouped os => "Usage: hid2midi " ++ " ".intercalate ((firstPlaces os).map Opt.shown ++ [groupShown])

/-- A mistake on the command line. -/
inductive ArgError where
  | unexpected (arg : String) (tip : Option String) (usage : Usage)
  | missingValue (o : Opt)
  | repeated (o : Opt)
  | extraValue (o : Opt) (value : String) (usage : Usage)
  deriving Repr, Inhabited

/-- The text of a mistake, as printed. -/
def ArgError.text : ArgError → String
  | .unexpected arg tip usage =>
    let tipText := match tip with
      | some t => "\n  tip: a similar argument exists: '" ++ t ++ "'\n"
      | none => ""
    "error: unexpected argument '" ++ arg ++ "' found\n" ++ tipText ++ "\n" ++ usage.text ++
      "\n\nFor more information, try '--help'.\n"
  | .missingValue o =>
    "error: a value is required for '" ++ o.shown ++ "' but none was supplied\n\n" ++
      "For more information, try '--help'.\n"
  | .repeated o =>
    "error: the argument '" ++ o.shown ++ "' cannot be used multiple times\n\n" ++ usageLine ++
      "\n\nFor more information, try '--help'.\n"
  | .extraValue o v usage =>
    "error: unexpected value '" ++ v ++ "' for '" ++ o.shown ++ "' found; no more were expected\n\n" ++
      usage.text ++ "\n\nFor more information, try '--help'.\n"

/-- Why reading the command line stopped. -/
inductive Stop where
  | help
  | version
  | error (e : ArgError)
  deriving Repr, Inhabited

/-! ## Similarity of names -/

/-- Marks the first unmarked position of `b` within `window` of `i` holding `c`. -/
def claim (b : List Char) (used : List Bool) (c : Char) (lo hi : Nat) : Option (List Bool) :=
  let hit := (List.range b.length).find? fun j =>
    lo ≤ j && j < hi && b[j]? == some c && used[j]? == some false
  hit.map fun j => used.set j true

/-- The Jaro similarity of two texts as a fraction: matches over the first length, over the
second, and matches less half the transpositions over matches, averaged. -/
def jaro (a b : String) : Nat × Nat :=
  let a := a.toList
  let b := b.toList
  if a.isEmpty && b.isEmpty then (1, 1)
  else if a.isEmpty || b.isEmpty then (0, 1)
  else
    let range := max a.length b.length / 2 - 1
    let (aUsed, bUsed) := a.zipIdx.foldl (fun (acc : List Bool × List Bool) (c, i) =>
      let lo := i - range
      let hi := min b.length (i + range + 1)
      match claim b acc.2 c lo hi with
      | some bu => (acc.1.set i true, bu)
      | none => acc) (List.replicate a.length false, List.replicate b.length false)
    let aMatched := (a.zip aUsed).filterMap fun (c, u) => if u then some c else none
    let bMatched := (b.zip bUsed).filterMap fun (c, u) => if u then some c else none
    let m := aMatched.length
    if m == 0 then (0, 1)
    else
      let t := ((aMatched.zip bMatched).filter fun (x, y) => x != y).length / 2
      (m * b.length * m + m * a.length * m + (m - t) * a.length * b.length, 3 * a.length * b.length * m)

/-- The known long option most like a name, if close enough; of equals the later. -/
def closest (name : String) : Option Opt :=
  let scored := Opt.all.filterMap fun o =>
    let (n, d) := jaro name o.long
    -- above 0.7
    if 10 * n > 7 * d then some (o, n, d) else none
  let best := scored.foldl (fun (acc : Option (Opt × Nat × Nat)) x => match acc with
    | none => some x
    | some y => if x.2.1 * y.2.2 ≥ y.2.1 * x.2.2 then some x else some y) none
  best.map (·.1)

/-! ## Reading the arguments -/

/-- The state of reading: values given so far, an option waiting for its value (with the value
once it came), and whether `--` was seen. -/
structure Reading where
  given : List (Opt × String) := []
  pending : Option (Opt × Option String) := none
  trailing : Bool := false
  deriving Inhabited

/-- Takes an option with its values. -/
def Reading.take (r : Reading) (o : Opt) (vals : List String) : Except Stop Reading :=
  if o.takesValue && vals.isEmpty then .error (.error (.missingValue o))
  else if o == .help then .error .help
  else if o == .version then .error .version
  else if r.given.any (·.1 == o) then .error (.error (.repeated o))
  else
    let v := vals.headD "true"
    if o.isPath && v.isEmpty then .error (.error (.missingValue o))
    else .ok { r with given := r.given ++ [(o, v)] }

/-- Settles the option waiting for its value. -/
def Reading.settle (r : Reading) : Except Stop Reading :=
  match r.pending with
  | none => .ok r
  | some (o, v) => { r with pending := none }.take o v.toList

/-- Settles the waiting option, ignoring what is wrong with it. -/
def Reading.drop (r : Reading) : Reading := { r with pending := none }

/-- Takes an option after settling the waiting one. -/
def Reading.react (r : Reading) (o : Opt) (vals : List String) : Except Stop Reading := do
  (← r.settle).take o vals

/-- Reads the letters of a group of short options. -/
def Reading.shorts (r : Reading) : List Char → Except Stop Reading
  | [] => .ok r
  | c :: rest =>
    match Opt.all.find? (·.short == some c) with
    | none => .error (.error (.unexpected ("-" ++ String.singleton c) none .general))
    | some o =>
      if !o.takesValue then do
        let r ← r.react o []
        r.shorts rest
      else if rest.isEmpty then do
        let r ← r.settle
        .ok { r with pending := some (o, none) }
      else
        let v := match rest with
          | '=' :: v => v
          | v => v
        r.react o [String.ofList v]

/-- Reads one argument. -/
def Reading.read (r : Reading) (arg : String) : Except Stop Reading :=
  let unexpected : Except Stop Reading := .error (.error (.unexpected arg none .general))
  if r.trailing then unexpected
  else if arg == "--" then .ok { r with trailing := true }
  else if arg.startsWith "--" then
    let body := (arg.drop 2).toString
    let name := (body.splitOn "=").headD ""
    let value := if body.contains '=' then some (body.drop (name.length + 1)).toString else none
    match Opt.all.find? (·.long == name) with
    | none =>
      let tip := closest name
      let used := r.given.map (·.1) ++ (r.pending.map (·.1)).toList ++ tip.toList
      .error (.error (.unexpected ("--" ++ name) (tip.map fun o => "--" ++ o.long) (.naming used)))
    | some o =>
      if o.takesValue then
        match value with
        | some v => r.react o [v]
        | none => do
          let r ← r.settle
          .ok { r with pending := some (o, none) }
      else
        match value with
        | some v =>
          let usage : Usage := if r.given.isEmpty then .naming [o]
            else .grouped (if o.isOwn then [] else [o])
          .error (.error (.extraValue o v usage))
        | none => r.react o []
  else if arg.startsWith "-" && arg != "-" then r.shorts (arg.toList.drop 1)
  else
    match r.pending with
    | some (o, none) => .ok { r with pending := some (o, some arg) }
    | _ => unexpected

/-- Reads every argument, then settles the waiting option. -/
def Reading.readAll (r : Reading) : List String → Except Stop Reading
  | [] => r.settle
  | a :: rest => do
    let r ← r.read a
    r.readAll rest

/-- Reads a command line, the environment filling in options not given. -/
def parse (args : List String) (env : Environment) : Except Stop Options := do
  let r ← ({} : Reading).readAll args
  let r ← [Opt.settings, .logLevel, .logDir].foldlM (fun (r : Reading) o =>
    if r.given.any (·.1 == o) then .ok r
    else match o.envVar.bind env.get? with
      | some v => r.take o [v]
      | none => .ok r) r
  let get (o : Opt) : Option String := (r.given.find? (·.1 == o)).map (·.2)
  return { settings := get .settings, logLevel := (get .logLevel).getD "info",
           logDir := get .logDir, listPorts := (get .listPorts).isSome,
           listDevices := (get .listDevices).isSome }

/-- The help text; the options that fall back on a variable show its value. -/
def helpText (env : Environment) : String :=
  -- the lines of a help text after its first are indented to the column of the help texts
  let indent (s : String) : String := s.replace "\n" ("\n" ++ String.ofList (List.replicate 31 ' '))
  let envNote (name : String) : String := indent ("[env: " ++ name ++ "=" ++ (env.get? name).getD "" ++ "]")
  "Turn keyboards and gamepads into hot-pluggable MIDI controllers\n\n" ++
  usageLine ++ "\n\nOptions:\n" ++
  "  -s, --settings <SETTINGS>    Path to the settings file " ++ envNote "HID2MIDI_SETTINGS" ++ "\n" ++
  "  -l, --log-level <LOG_LEVEL>  Log level (error, warn, info, debug, trace) " ++ envNote "LOG_LEVEL" ++
    " [default: info]\n" ++
  "      --log-dir <LOG_DIR>      Also write logs to daily files in this directory " ++
    envNote "HID2MIDI_LOG_DIR" ++ "\n" ++
  "      --list-ports             List available MIDI ports\n" ++
  "      --list-devices           List connected input devices and the config each one resolves to\n" ++
  "  -h, --help                   Print help\n" ++
  "  -V, --version                Print version\n"

/-- The version line. -/
def versionText : String := "hid2midi 1.0.0\n"

end KeyMidi.Cli
