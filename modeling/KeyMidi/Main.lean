import KeyMidi.Cli.Run
/-!
# The program

The entry point gathers what a run looks at: the command line, the variables the program reads,
the `.env` files of the working folder and of the folders above it, and the settings file. It
then prints what the run writes and ends with its exit code. The machine offers no MIDI system
and no input device, and the run sees only the files named here, so a full run stops at opening
the MIDI output.
-/

namespace KeyMidi.Cli

/-- The variables a run reads. -/
def variablesRead : List String :=
  ["HOME", "XDG_CONFIG_HOME", "XDG_DATA_HOME", "RUST_LOG", "LOG_LEVEL", "HID2MIDI_SETTINGS",
    "HID2MIDI_LOG_DIR", "NO_COLOR"]

/-- The absolute path of a place. -/
def placePath (place : List String) : String := "/" ++ "/".intercalate place

/-- Adds a file to a folder at its place, if it can be read. -/
def gather (f : Folder) (place : List String) : IO Folder := do
  try
    let bytes ← IO.FS.readBinFile (placePath place)
    return f.put place (.file bytes.toList)
  catch _ => return f

/-- Builds the machine of a run from the process's surroundings. -/
def surroundings (args : List String) : IO Machine := do
  let cwd := pathComponents (← IO.currentDir).toString
  let mut env : Environment := {}
  for v in variablesRead do
    if let some x ← IO.getEnv v then env := env.set v x
  let mut files : Folder := {}
  for k in List.range (cwd.length + 1) do
    files ← gather files (cwd.take k ++ [".env"])
  let disk : Disk := { root := "", cwd, files }
  let seen := match dotEnvText disk with
    | some text => env.loadDotEnv text
    | none => env
  if let .ok o := parse args seen then
    let path := o.settings.getD (Settings.defaultPath (platformDirs disk seen))
    if let some place := disk.lexicalPlace path then files ← gather files place
  let stamp := toString (← IO.monoMsNow)
  return { disk := { disk with files }, env, midi := .absent, stamp, date := "log" }

end KeyMidi.Cli

open KeyMidi.Cli in
/-- Runs the program. -/
def main (args : List String) : IO UInt32 := do
  let t := runProgram (← surroundings args) args
  IO.print t.out
  IO.eprint t.err
  return (t.exitCode.getD 1).toUInt32
