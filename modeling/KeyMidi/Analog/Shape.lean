import KeyMidi.Numeric.Double
/-!
# Shaping analog samples

A raw axis sample lies in the axis' calibrated range. It is first brought to a unit scale —
`[-1, 1]` when the range reaches below zero, `[0, 1]` otherwise — with each half of a signed
range scaled on its own so that 0 stays exactly at rest. Then a band around the rest point is
cut out (the dead zone) and the rest stretched so that the output is continuous at the band's
edge; finally a value may be reflected around the middle of its scale.

The last step sorts a shaped level into three zones, at half the scale either way, which is how
an axis plays a note or holds an action.
-/

namespace KeyMidi.Analog

open KeyMidi.Double

/-- The calibrated range of an axis. -/
structure Bounds where
  min : Int
  max : Int
  deriving Repr, DecidableEq, Inhabited

/-- A range that reaches below zero is signed, and scales to `[-1, 1]`. -/
def Bounds.isSigned (b : Bounds) : Bool := decide (b.min < 0)

/-- A raw sample on the unit scale of its range; an empty or inverted range gives 0. -/
def normalize (value : Int) (b : Bounds) : Float :=
  if b.max ≤ b.min then 0.0
  else
    let v := Float.ofInt (max b.min (min value b.max))
    let lo := Float.ofInt b.min
    let hi := Float.ofInt b.max
    if b.isSigned then
      if v < 0.0 then v / (-lo) else if hi > 0.0 then v / hi else 0.0
    else (v - lo) / (hi - lo)

/-- Removes the band of width `deadzone` around the rest point and rescales the remainder.
Signed values rest at 0; unsigned ones at 0.5 when `atCenter`, else at 0. -/
def applyDeadzone (value deadzone : Float) (signed atCenter : Bool) : Float :=
  let (rest, span) : Float × Float := if !signed && atCenter then (0.5, 0.5) else (0.0, 1.0)
  if deadzone ≤ 0.0 then value
  else if deadzone ≥ 1.0 then rest
  else
    let offset := (value - rest) / span
    let magnitude := offset.abs
    if magnitude < deadzone then rest
    else
      let scaled := minNum ((magnitude - deadzone) / (1.0 - deadzone)) 1.0
      rest + signum offset * scaled * span

/-- Reflects a unit value around the middle of its scale. -/
def flip (value : Float) (signed : Bool) : Float :=
  if signed then -value else 1.0 - value

/-- Where a shaped level stands: past half the scale upward, past half downward (only for
two-sided axes), or in between. -/
inductive Zone where
  | low
  | middle
  | high
  deriving Repr, DecidableEq, Inhabited

/-- The zone of a level. -/
def Zone.ofLevel (level : Float) (twoSided : Bool) : Zone :=
  if level ≥ 0.5 then .high
  else if twoSided && level ≤ -0.5 then .low
  else .middle

end KeyMidi.Analog
