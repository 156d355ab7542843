import KeyMidi.Notes.Voice
/-!
# How many inputs sound each voice

A count per voice, never negative: lowering a count of zero leaves it, and a count that reaches
zero is forgotten.
-/

namespace KeyMidi

/-- The number of inputs sounding each voice; voices with count 0 are absent. -/
structure Counts where
  entries : List (Voice × Nat)
  deriving Repr, Inhabited

namespace Counts

/-- No voice sounds. -/
def empty : Counts := ⟨[]⟩

/-- How many inputs sound a voice. -/
def count (c : Counts) (v : Voice) : Nat :=
  ((c.entries.find? (·.1 == v)).map (·.2)).getD 0

/-- One more input sounds a voice. -/
def increment (c : Counts) (v : Voice) : Counts :=
  let n := c.count v
  ⟨(v, n + 1) :: c.entries.filter (·.1 != v)⟩

/-- One input fewer sounds a voice. -/
def decrement (c : Counts) (v : Voice) : Counts :=
  let n := c.count v
  let rest := c.entries.filter (·.1 != v)
  if n ≤ 1 then ⟨rest⟩ else ⟨(v, n - 1) :: rest⟩

end Counts

end KeyMidi
