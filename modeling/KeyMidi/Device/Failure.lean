import KeyMidi.Device.Identity
/-!
# Why a device could not be opened
-/

namespace KeyMidi

/-- Why opening the input of a device failed. -/
inductive OpenError where
  /-- The device is not connected. -/
  | notFound (identity : Identity)
  /-- The device refused to open. -/
  | refused (identity : Identity) (reason : String)
  /-- Opening kept failing until the open timeout, after `elapsedMs` milliseconds. -/
  | timeout (identity : Identity) (elapsedMs : Nat)
  /-- The input backend stopped. -/
  | backendStopped
  /-- Opening was cancelled. -/
  | cancelled (identity : Identity)
  deriving Repr, Inhabited

namespace OpenError

/-- The name of the kind of error. -/
def kindName : OpenError → String
  | .notFound _ => "NotFound"
  | .refused .. => "Open"
  | .timeout .. => "Timeout"
  | .backendStopped => "BackendStopped"
  | .cancelled _ => "Cancelled"

/-- A duration of whole milliseconds as written for people: `1.5s`, `200ms`, `0ns`. -/
def durationText (ms : Nat) : String :=
  if ms == 0 then "0ns"
  else if ms < 1000 then toString ms ++ "ms"
  else
    let secs := ms / 1000
    let frac := ms % 1000
    if frac == 0 then toString secs ++ "s"
    else
      let digits := toString (frac + 1000)
      let digits := (digits.drop 1).toString
      let trimmed := String.ofList (digits.toList.reverse.dropWhile (· == '0')).reverse
      toString secs ++ "." ++ trimmed ++ "s"

/-- The message of an error. -/
def describe : OpenError → String
  | .notFound i => "device " ++ i.describe ++ " is not connected"
  | .refused i reason => "failed to open " ++ i.describe ++ ": " ++ reason
  | .timeout i ms => "gave up opening " ++ i.describe ++ " after " ++ durationText ms
  | .backendStopped => "input backend stopped"
  | .cancelled i => "open of " ++ i.describe ++ " cancelled"

end OpenError

end KeyMidi
