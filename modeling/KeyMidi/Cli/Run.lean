import KeyMidi.Cli.Args
import KeyMidi.Log.Filter
import KeyMidi.Settings.Read
import KeyMidi.Store.Load
import KeyMidi.Store.Disk
import KeyMidi.Store.Watch
/-!
# A run of the program

A run reads the `.env` file of the working folder (or of a folder above it), the command line,
sets up logging, and then either lists the MIDI inputs and outputs, lists the input devices, or runs: it opens
the MIDI output and the loopback input, watches the profile folders, loads the profiles and
starts discovery, and then waits for an interrupt. A change of a profile file in a watched
folder is signalled 100 ms later and makes the profiles load again; a failed reload keeps the
old ones. An interrupt shuts everything down. No input device is ever present here, so no device
task is ever started.

Log records go to standard output as `<time> LEVEL message` when the filter lets them pass. The
filter comes from `RUST_LOG` when it is set and readable, and from the log level otherwise.
Errors end the run with code 1 and are printed in full after `Error: `; mistakes on the command
line end it with code 2.

The outside world is a machine: a disk under a root, the environment, the MIDI system, and chores
that happen at given times while the program runs: an interrupt, or a file written or removed.
A program that does not run until interrupted is gone before any chore; one that is never
interrupted is stopped after 5 seconds.
-/

namespace KeyMidi.Cli

open KeyMidi.Log

/-- The MIDI system of the machine. -/
inductive MidiSystem where
  /-- No MIDI support at all. -/
  | absent
  /-- MIDI support with no inputs or outputs but the program's own. -/
  | virtualOnly
  deriving Repr, DecidableEq, Inhabited

/-- Something that happens to a running program; files are named by their place under the
root. -/
inductive Chore where
  | interrupt
  | write (place : List String) (text : String)
  | remove (place : List String)
  deriving Repr, Inhabited

/-- What came of a chore. -/
inductive ChoreResult where
  | ok
  | failed
  | notRun
  deriving Repr, DecidableEq, Inhabited

/-- The machine a run happens on. -/
structure Machine where
  disk : Disk
  env : Environment
  midi : MidiSystem
  /-- How the time of a log record is written. -/
  stamp : String
  /-- How the date in a log file name is written. -/
  date : String
  /-- Chores with their times in milliseconds; those of one time happen in the order given. -/
  chores : List (Nat × Chore) := []
  deriving Inhabited

/-- What a run leaves. -/
structure Transcript where
  exitCode : Option Nat
  out : String
  err : String
  disk : Disk
  chores : List ChoreResult
  deriving Inhabited

/-! ## Log targets

Records carry the module they come from, which filters can name. -/

/-- The program itself. -/
def mainTarget : String := "hid2midi"
/-- Settings. -/
def settingsTarget : String := "hid2midi::config::settings"
/-- The profile store. -/
def storeTarget : String := "hid2midi::config::store"
/-- The profile folder watch. -/
def watcherTarget : String := "hid2midi::config::watcher"
/-- The device manager. -/
def managerTarget : String := "hid2midi::manager"
/-- The MIDI connections. -/
def midiTarget : String := "hid2midi::midi::ports"
/-- The gamepad library, where it loads its button mappings. -/
def gamepadTarget : String := "gilrs::gamepad"

/-- The fields of the program's own records: the message only. -/
def messageFields : List String := ["message"]
/-- The fields of the records the gamepad library logs through the program's logger: the
message and where it was logged. -/
def bridgedFields : List String :=
  ["message", "log.target", "log.module_path", "log.file", "log.line"]

/-- The console and disk of a run. -/
structure Console where
  out : String := ""
  err : String := ""
  filter : Filter := {}
  stamp : String
  disk : Disk
  deriving Inhabited

/-- Steps of a run. -/
abbrev Prog := StateM Console

/-- Logs a record with the given fields, if the filter lets it pass. -/
def sayWith (fields : List String) (target : String) (level : Level) (msg : String) : Prog Unit :=
  modify fun c => if c.filter.allows target fields level
    then { c with out := c.out ++ c.stamp ++ " " ++ level.label ++ " " ++ msg ++ "\n" } else c

/-- Logs a record of the program, if the filter lets it pass. -/
def say (target : String) (level : Level) (msg : String) : Prog Unit := sayWith messageFields target level msg

/-- Prints to standard output. -/
def print (text : String) : Prog Unit := modify fun c => { c with out := c.out ++ text }

/-- Ends the run with an error: code 1. -/
def failWith (r : Report) : Prog (Option Nat) := do
  modify fun c => { c with err := c.err ++ "Error: " ++ r.full ++ "\n" }
  return some 1

/-! ## Places -/

/-- Joins a path and a name. -/
def joinPath (a b : String) : String := if a.endsWith "/" then a ++ b else a ++ "/" ++ b

/-- The configuration and data folders: from `XDG_CONFIG_HOME` and `XDG_DATA_HOME` when they
are absolute paths of the disk, else under the home folder, else the working folder. -/
def platformDirs (d : Disk) (env : Environment) : PlatformDirs :=
  let home := (env.get? "HOME").filter (· != "")
  let pick (var sub : String) : String :=
    match (env.get? var).filter d.isAbsolute with
    | some p => p
    | none => match home with
      | some h => joinPath h sub
      | none => "."
  ⟨pick "XDG_CONFIG_HOME" ".config", pick "XDG_DATA_HOME" ".local/share"⟩

/-- The text of the `.env` file of the working folder or the nearest folder above it. -/
def dotEnvText (d : Disk) : Option String :=
  let candidates := (List.range (d.cwd.length + 1)).reverse.map fun k => d.cwd.take k ++ [".env"]
  candidates.findSome? fun p => match d.entryAt p with
    | .file bytes => textOfBytes bytes
    | _ => none

/-- What reading a file gave: none when it does not exist. -/
def readText (d : Disk) (path : String) : Option (Except String String) :=
  match d.entry path with
  | .file bytes => some (match textOfBytes bytes with
    | some t => .ok t
    | none => .error "stream did not contain valid UTF-8")
  | .folder => some (.error "Is a directory (os error 21)")
  | _ => none

/-! ## The steps of a run -/

/-- Loads the profiles of one folder, noting a missing folder. -/
def loadFolder (dir : String) : Prog (Except ProfileError (List Profile)) := do
  let place := (← get).disk.place dir
  if place == .missing then say storeTarget .debug ("Config directory " ++ dir ++ " does not exist")
  return loadProfiles dir place

/-- Loads the profiles of both folders, the user's first; on failure the store is unchanged. -/
def loadStore (s : ProfileStore) : Prog (Except ProfileError ProfileStore) := do
  match ← loadFolder s.userDir with
  | .error e => return .error e
  | .ok user =>
    match ← loadFolder s.factoryDir with
    | .error e => return .error e
    | .ok factory => return .ok { s with user, factory }

/-- The report of a failed profile load. -/
def loadFailure (e : ProfileError) : Report := ⟨["Failed to load device configs", e.describe] ++ e.cause.toList⟩

/-- The line that says what was loaded. -/
def loadedLine (s : ProfileStore) : String :=
  "Loaded " ++ toString s.user.length ++ " user and " ++ toString s.factory.length ++ " factory configs"

/-- Lists the input devices: none is ever connected. -/
def listDevices (store : ProfileStore) : Prog (Option Nat) := do
  match ← loadStore store with
  | .error e => failWith (loadFailure e)
  | .ok s =>
    say storeTarget .info (loadedLine s)
    print "\n=== Connected Devices ===\n  No devices found\n\n"
    return some 0

/-- The state of a run that waits for its interrupt. -/
structure Waiting where
  store : ProfileStore
  watch : ProfileWatch
  /-- When change signals arrive. -/
  signals : List Nat := []
  results : List ChoreResult := []
  deriving Inhabited

/-- Reloads the profiles after a change signal. -/
def reload (w : Waiting) : Prog Waiting := do
  say managerTarget .info "Device configs changed, reloading"
  let w ← match ← loadStore w.store with
    | .ok s => do
      say storeTarget .info (loadedLine s)
      pure { w with store := s }
    | .error e => do
      say managerTarget .warn ("Failed to reload device configs (keeping old configs): " ++ e.describe)
      pure w
  say managerTarget .info "Discovery cycle started"
  return w

/-- Notes a change at a place: a seen profile file brings a signal 100 ms later. -/
def Waiting.touched (w : Waiting) (t : Nat) (p : List String) : Waiting :=
  if w.watch.sees p && ProfileWatch.namesProfile p then { w with signals := w.signals ++ [t + 100] }
  else w

/-- Does a chore on the disk. -/
def doChore (w : Waiting) (t : Nat) : Chore → Prog Waiting
  | .interrupt => return w
  | .write p text => do
    let c ← get
    match c.disk.writeFile p text.toUTF8.toList with
    | some (d, seen) =>
      set { c with disk := d }
      return { (w.touched t seen) with results := w.results ++ [.ok] }
    | none => return { w with results := w.results ++ [.failed] }
  | .remove p => do
    let c ← get
    match c.disk.removeFile p with
    | some d =>
      set { c with disk := d }
      return { (w.touched t p) with results := w.results ++ [.ok] }
    | none => return { w with results := w.results ++ [.failed] }

/-- The time after which a program that is never interrupted is stopped. -/
def killAfter : Nat := 5000

/-- Waits for the interrupt: chores and change signals in time order. -/
def wait (chores : List (Nat × Chore)) : Nat → Waiting → Prog (Option Nat × List ChoreResult)
  | 0, w => return (none, w.results ++ chores.map fun _ => .notRun)
  | fuel + 1, w => do
    let signal := w.signals.min?
    match chores with
    | [] =>
      match signal with
      | some s =>
        if s < killAfter then
          let w ← reload { w with signals := w.signals.filter (· != s) }
          wait [] fuel w
        else return (none, w.results)
      | none => return (none, w.results)
    | (t, chore) :: rest =>
      match signal with
      | some s =>
        if s < t && s < killAfter then
          let w ← reload { w with signals := w.signals.filter (· != s) }
          wait chores fuel w
        else next t chore rest fuel w
      | none => next t chore rest fuel w
where
  /-- Does the next chore, unless the program was stopped before it. -/
  next (t : Nat) (chore : Chore) (rest : List (Nat × Chore)) (fuel : Nat) (w : Waiting) :
      Prog (Option Nat × List ChoreResult) := do
    if t ≥ killAfter then return (none, w.results ++ ((t, chore) :: rest).map fun _ => .notRun)
    match chore with
    | .interrupt =>
      say mainTarget .info "Shutdown signal received"
      say managerTarget .info "Waiting for 0 device tasks"
      say managerTarget .info "Device manager stopped"
      say mainTarget .info "Shutdown complete"
      return (some 0, w.results ++ [.ok] ++ rest.map fun _ => .notRun)
    | c =>
      let w ← doChore w t c
      wait rest fuel w

/-- Runs until interrupted: MIDI output and input, the folder watch, the first load, then the chores. -/
def runFully (m : Machine) (settings : Settings) (store : ProfileStore) (chores : List (Nat × Chore)) :
    Prog (Option Nat × List ChoreResult) := do
  let notRun := chores.map fun _ => ChoreResult.notRun
  let client := settings.midi.clientName
  match m.midi with
  | .absent =>
    return (← failWith ⟨["Failed to open MIDI output", "MIDI support could not be initialized"]⟩, notRun)
  | .virtualOnly =>
    match settings.midi.outputPort with
    | some p =>
      return (← failWith ⟨["Failed to open MIDI output", "MIDI output port '" ++ p ++ "' not found"]⟩, notRun)
    | none =>
      say midiTarget .info ("Virtual MIDI output created: '" ++ client ++ "'")
      match settings.midi.inputPort with
      | some p => say mainTarget .warn ("MIDI loopback input unavailable: MIDI input port '" ++ p ++ "' not found")
      | none => say midiTarget .info ("Virtual MIDI input created: '" ++ client ++ " loopback'")
      let disk := (← get).disk
      let isDir (dir : String) : Bool := disk.entry dir == .folder
      for dir in [store.userDir, store.factoryDir] do
        if !isDir dir then say watcherTarget .warn ("Not watching " ++ dir ++ ": not a directory")
      let watched := [store.userDir, store.factoryDir].filter isDir
      say watcherTarget .info ("Config watcher started for " ++ toString watched.length ++ " directories")
      say mainTarget .info "hid2midi is running. Press Ctrl+C to exit."
      match ← loadStore store with
      | .error e =>
        say mainTarget .info "Shutdown complete"
        return (← failWith (loadFailure e), notRun)
      | .ok s =>
        say storeTarget .info (loadedLine s)
        say managerTarget .info "Discovery cycle started"
        let w : Waiting := { store := s, watch := { tree := disk.files, covered := watched.filterMap disk.watchedPlace } }
        wait chores (2 * chores.length + 2) w

/-- Sets up logging: the filter, and the log folder with today's file. -/
def setUpLogging (m : Machine) (env : Environment) (o : Options) : Prog (Option Report) := do
  let (filter, notes) := match env.get? "RUST_LOG" with
    | some v => match Filter.read v with
      | .ok f => (f, [])
      | .error _ => Filter.readLenient o.logLevel
    | none => Filter.readLenient o.logLevel
  modify fun c => { c with filter, err := c.err ++ String.join (notes.map (· ++ "\n")) }
  match o.logDir with
  | none => return none
  | some dir =>
    let c ← get
    match c.disk.makeDirs dir with
    | .error cause => return some ⟨["Failed to create log directory: " ++ dir, cause]⟩
    | .ok d =>
      let d := match d.locate dir with
        | some p => ((d.writeFile (p ++ ["hid2midi.log." ++ m.date]) []).map (·.1)).getD d
        | none => d
      set { c with disk := d }
      return none

/-- The run after the command line was read. -/
def runWith (m : Machine) (env : Environment) (o : Options) : Prog (Option Nat × List ChoreResult) := do
  let notRun := m.chores.map fun _ => ChoreResult.notRun
  if let some r ← setUpLogging m env o then return (← failWith r, notRun)
  if o.listPorts then
    match m.midi with
    | .absent => return (← failWith (Report.just "MIDI support could not be initialized"), notRun)
    | .virtualOnly =>
      print "\n=== Available MIDI Ports ===\n\nInput Ports:\n  No ports found\n\nOutput Ports:\n  No ports found\n\n"
      return (some 0, notRun)
  let plat := platformDirs m.disk env
  let path := o.settings.getD (Settings.defaultPath plat)
  say mainTarget .info "Starting hid2midi 1.0.0"
  say mainTarget .info ("Settings file: " ++ path)
  let file := readText (← get).disk path
  if file.isNone then say settingsTarget .info ("No settings file at " ++ path ++ ", using defaults")
  match Settings.load path file with
  | .error r => return (← failWith r, notRun)
  | .ok settings =>
    let store : ProfileStore := { userDir := settings.profileDirs.userDir plat,
                                  factoryDir := settings.profileDirs.factoryDir plat }
    -- the gamepad library starts before devices are listed or the run begins
    sayWith bridgedFields gamepadTarget .debug "Loaded 716 mappings."
    if o.listDevices then return (← listDevices store, notRun)
    runFully m settings store m.chores

/-- Runs the program with a command line on a machine. -/
def runProgram (m : Machine) (args : List String) : Transcript :=
  let env := match dotEnvText m.disk with
    | some text => m.env.loadDotEnv text
    | none => m.env
  let notRun := m.chores.map fun _ => ChoreResult.notRun
  match parse args env with
  | .error .help => ⟨some 0, helpText env, "", m.disk, notRun⟩
  | .error .version => ⟨some 0, versionText, "", m.disk, notRun⟩
  | .error (.error e) => ⟨some 2, "", e.text, m.disk, notRun⟩
  | .ok o =>
    let order := (m.chores.zipIdx.mergeSort fun a b => a.1.1 ≤ b.1.1)
    let ((code, results), c) :=
      (runWith { m with chores := order.map (·.1) } env o).run { stamp := m.stamp, disk := m.disk }
    -- results come in time order; give them back in the order the chores were listed
    let byIndex := (order.map (·.2)).zip results
    let results := (List.range m.chores.length).map fun i =>
      ((byIndex.find? (·.1 == i)).map (·.2)).getD .notRun
    ⟨code, c.out, c.err, c.disk, results⟩

end KeyMidi.Cli
