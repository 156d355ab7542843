/-!
# Voices and the inputs that hold them

A voice is a note on a channel. An input is named by the handler that reports it and its code;
inputs are ordered by handler text (character by character, which is byte order), then by code.
-/

namespace KeyMidi

/-- A note on a channel. -/
structure Voice where
  channel : UInt8
  note : UInt8
  deriving Repr, DecidableEq, Inhabited

/-- An input: the handler that reports it and its code there. -/
structure InputId where
  handler : String
  code : Nat
  deriving Repr, DecidableEq, Inhabited

/-- Inputs by handler, then by code. -/
def InputId.cmp (a b : InputId) : Ordering :=
  (compare a.handler b.handler).then (compare a.code b.code)

instance : Ord InputId := ⟨InputId.cmp⟩

end KeyMidi
