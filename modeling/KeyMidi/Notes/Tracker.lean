import KeyMidi.Notes.Voice
/-!
# Which input holds which voices

A tracker maps each input to the voices it sounds, kept in input order, so that releasing all
of them (`drain`) goes input by input in that order. An input may be recorded with no voices;
it still counts as an entry.

`chordOffsets` reads a chord off the held inputs: the first note of each, ascending, without
repeats, as distances from the lowest — empty unless two different notes are held.
-/

namespace KeyMidi

/-- Voices held per input, in input order. -/
structure Tracker where
  entries : List (InputId × List Voice)
  deriving Repr, Inhabited

namespace Tracker

/-- No input holds anything. -/
def empty : Tracker := ⟨[]⟩

/-- Inserts an entry into an ordered list, replacing one for the same input. -/
def insertEntry (key : InputId) (voices : List Voice) :
    List (InputId × List Voice) → List (InputId × List Voice)
  | [] => [(key, voices)]
  | (k, vs) :: rest =>
    match key.cmp k with
    | .lt => (key, voices) :: (k, vs) :: rest
    | .eq => (key, voices) :: rest
    | .gt => (k, vs) :: insertEntry key voices rest

/-- Records the voices of an input, replacing what it held. -/
def insert (t : Tracker) (key : InputId) (voices : List Voice) : Tracker :=
  ⟨insertEntry key voices t.entries⟩

/-- The voices of an input, if it has an entry. -/
def find? (t : Tracker) (key : InputId) : Option (List Voice) :=
  (t.entries.find? (fun e => e.1 == key)).map (·.2)

/-- Removes an input's entry and returns its voices. -/
def remove (t : Tracker) (key : InputId) : Option (List Voice) × Tracker :=
  (t.find? key, ⟨t.entries.filter (fun e => e.1 != key)⟩)

/-- The number of voices held. -/
def size (t : Tracker) : Nat := (t.entries.map (·.2.length)).foldr (· + ·) 0

/-- No entry at all. -/
def isEmpty (t : Tracker) : Bool := t.entries.isEmpty

/-- Every voice, input by input. -/
def voices (t : Tracker) : List Voice := t.entries.flatMap (·.2)

/-- Every voice, input by input, and the emptied tracker. -/
def drain (t : Tracker) : List Voice × Tracker := (t.voices, empty)

/-- Inserts a note into an ascending list without repeats. -/
def insertSorted (n : UInt8) : List UInt8 → List UInt8
  | [] => [n]
  | m :: rest => if n < m then n :: m :: rest else if n = m then m :: rest else m :: insertSorted n rest

/-- The chord of the held inputs, as distances from its lowest root. -/
def chordOffsets (t : Tracker) : List UInt8 :=
  let roots := t.entries.filterMap (fun e => e.2.head?.map (·.note))
  let sorted := roots.foldr insertSorted []
  match sorted with
  | lowest :: _ :: _ => sorted.map (· - lowest)
  | _ => []

end Tracker

end KeyMidi
