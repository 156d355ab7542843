/-!
# Error reports

An error report is a message with the chain of its causes, outermost first. It is written in two
ways: on one line, the messages joined by `": "`; or in full, the outermost message, then a blank
line and `Caused by:` with the causes indented under it, numbered when there are several.
-/

namespace KeyMidi

/-- An error with the chain of its causes, outermost first. -/
structure Report where
  chain : List String
  deriving Repr, DecidableEq, Inhabited

namespace Report

/-- A report of one message. -/
def just (msg : String) : Report := ⟨[msg]⟩

/-- A report with one more outer message. -/
def within (r : Report) (context : String) : Report := ⟨context :: r.chain⟩

/-- The report on one line. -/
def line (r : Report) : String := ": ".intercalate r.chain

/-- Indents the lines of a message after the first by `pad`. -/
def indentRest (pad : String) (msg : String) : String :=
  ("\n" ++ pad).intercalate (msg.splitOn "\n")

/-- The report in full. -/
def full (r : Report) : String :=
  match r.chain with
  | [] => ""
  | [m] => m
  | [m, c] => m ++ "\n\nCaused by:\n    " ++ indentRest "    " c
  | m :: causes =>
    m ++ "\n\nCaused by:" ++ String.join (causes.zipIdx.map fun (c, i) =>
      "\n" ++ (if i < 10 then "    " else "   ") ++ toString i ++ ": " ++ indentRest "       " c)

end Report

end KeyMidi
