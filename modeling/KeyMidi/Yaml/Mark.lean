/-!
# Positions and syntax problems in YAML text

A mark is a position in the text: characters and bytes read so far, and the line and column,
all counted from 0 (a line break `\r\n` counts as two characters and one line). Marks are shown counted
from 1, and a mark at the very start of the text is not shown at all.

A syntax problem names what went wrong at a mark, and usually what was being read and where
that began.
-/

namespace KeyMidi.Yaml

/-- A position in YAML text, counted from 0: in characters, lines and columns, and in bytes of
the text's UTF-8 form. -/
structure Mark where
  index : Nat := 0
  line : Nat := 0
  column : Nat := 0
  byte : Nat := 0
  deriving Repr, DecidableEq, Inhabited

/-- A mark as people count: `line 3 column 7`. -/
def Mark.describe (m : Mark) : String := s!"line {m.line + 1} column {m.column + 1}"

/-- The very start of the text, where marks are not shown. -/
def Mark.isStart (m : Mark) : Bool := m.line == 0 && m.column == 0

/-- A syntax problem: what went wrong and where, and what was being read from where. A problem
found while decoding the text, before any mark exists, has a byte offset instead. -/
structure Problem where
  problem : String
  mark : Mark
  context : Option (String × Mark) := none
  offset : Nat := 0
  deriving Repr, Inhabited

/-- The text of a syntax problem: the problem, its mark unless at the start (its byte offset then,
unless that is 0), then the context and its mark when that mark is a different one. -/
def Problem.describe (p : Problem) : String :=
  let head :=
    if !p.mark.isStart then p.problem ++ " at " ++ p.mark.describe
    else if p.offset != 0 then p.problem ++ " at position " ++ toString p.offset
    else p.problem
  match p.context with
  | none => head
  | some (ctx, m) =>
    if m.isStart || (m.line == p.mark.line && m.column == p.mark.column) then head ++ ", " ++ ctx
    else head ++ ", " ++ ctx ++ " at " ++ m.describe

end KeyMidi.Yaml
