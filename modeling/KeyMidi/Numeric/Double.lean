/-!
# Rules of double arithmetic used by the controller

The arithmetic itself is `Float`'s (IEEE binary64, rounded to nearest). What this module adds are
the rules of a few operations whose treatment of not-a-number and of signed zero is fixed here,
because outputs depend on it:

* `clamp` leaves not-a-number unchanged;
* `minNum` ignores a not-a-number operand;
* `signum` is `±1` for the zeros too, and not-a-number for not-a-number;
* `toByte` and `toWord` round nothing: they cut toward zero and saturate, with not-a-number to 0.
-/

namespace KeyMidi.Double

/-- Not-a-number is the one value unequal to itself. -/
def isNaN (x : Float) : Bool := x != x

/-- `x` limited to `[lo, hi]`; not-a-number stays. -/
def clamp (x lo hi : Float) : Float :=
  if x < lo then lo else if x > hi then hi else x

/-- The smaller operand; a not-a-number operand is ignored. -/
def minNum (x y : Float) : Float :=
  if isNaN x then y else if isNaN y then x else if y < x then y else x

/-- The sign of `x` as `±1`, by its sign bit (so `-0.0` gives `-1`); not-a-number stays. -/
def signum (x : Float) : Float :=
  if isNaN x then x else if x.toBits ≥ 0x8000000000000000 then -1.0 else 1.0

/-- Saturating conversion to a byte, toward zero; not-a-number gives 0. -/
def toByte (x : Float) : UInt8 := x.toUInt8

/-- Saturating conversion to a 16-bit word, toward zero; not-a-number gives 0. -/
def toWord (x : Float) : UInt16 := x.toUInt16

/-- Nearest integer, ties away from zero. -/
def roundHalfAway (x : Float) : Float := x.round

end KeyMidi.Double
