/-!
# Shortest decimals of binary doubles

A finite double is `m · 2^q`. The reals that read back as it form an interval around it, whose ends
belong to it exactly when `m` is even (reading rounds ties to the even mantissa). The shortest
decimal of the double is the decimal with the fewest significant digits in that interval; among
those with that many digits it is the one nearest the double, and an exact tie goes to the even
significand. `shortest` finds it by trying 1, 2, …, 17 digits, where on each grid only the two
grid points around the double can be nearest, so exact natural-number comparisons decide.
-/

namespace KeyMidi.Decimal

/-- A decimal `significand · 10^exponent`; the canonical one has no trailing zero. -/
structure Digits where
  significand : Nat
  exponent : Int
  deriving Repr, DecidableEq, Inhabited

/-- Compares `x · 2^b` with `d · 10^k`, exactly. -/
def compareScaled (x : Nat) (b : Int) (d : Nat) (k : Int) : Ordering :=
  compare (x * Nat.pow 2 b.toNat * Nat.pow 10 (-k).toNat) (d * Nat.pow 10 k.toNat * Nat.pow 2 (-b).toNat)

/-- `⌊x · 2^b / 10^k⌋`. -/
def floorScaled (x : Nat) (b : Int) (k : Int) : Nat :=
  (x * Nat.pow 2 b.toNat * Nat.pow 10 (-k).toNat) / (Nat.pow 10 k.toNat * Nat.pow 2 (-b).toNat)

/-- The largest `k` with `10^k ≤ x · 2^b`, for `x > 0`: an estimate from the binary length,
corrected by exact comparisons (the estimate is off by at most one). -/
def decimalExponent (x : Nat) (b : Int) : Int :=
  let est : Int := Int.fdiv ((b + Nat.log2 x) * 78913) 262144
  let below (k : Int) : Bool := compareScaled x b 1 k != .lt
  if below (est + 1) then (if below (est + 2) then est + 2 else est + 1)
  else if below est then est
  else if below (est - 1) then est - 1 else est - 2

/-- Drops trailing zeros of a decimal; `fuel` bounds the number of digits removed. -/
def Digits.trimWith : Nat → Digits → Digits
  | 0, d => d
  | fuel + 1, d =>
    if d.significand ≠ 0 ∧ d.significand % 10 = 0 then
      Digits.trimWith fuel ⟨d.significand / 10, d.exponent + 1⟩
    else d

/-- The canonical form of a decimal: trailing zeros moved into the exponent. -/
def Digits.trim (d : Digits) : Digits := d.trimWith (Nat.log2 d.significand + 1)

/-- The reading interval of `m · 2^q` in units of `2^(q-2)`: its lower end, its upper end, and
whether the ends belong to it. At a power of two above the least exponent the gap below is half
the gap above. -/
def interval (m : Nat) (narrowBelow : Bool) : Nat × Nat × Bool :=
  (if narrowBelow then 4 * m - 1 else 4 * m - 2, 4 * m + 2, m % 2 == 0)

/-- The grid point `d · 10^k` lies in the reading interval of `m · 2^q`. -/
def reads (m : Nat) (q : Int) (narrowBelow : Bool) (d : Nat) (k : Int) : Bool :=
  let (lo, hi, closed) := interval m narrowBelow
  let b := q - 2
  let aboveLo := match compareScaled lo b d k with
    | .lt => true
    | .eq => closed
    | .gt => false
  let belowHi := match compareScaled hi b d k with
    | .gt => true
    | .eq => closed
    | .lt => false
  aboveLo && belowHi

/-- Of the grid points `d · 10^k` and `(d+1) · 10^k` around `m · 2^q`, the ones that read back,
nearest first; a tie puts the even one first. -/
def candidates (m : Nat) (q : Int) (narrowBelow : Bool) (k : Int) : List Nat :=
  let d := floorScaled m q k
  let lower := if reads m q narrowBelow d k then [d] else []
  let upper := if reads m q narrowBelow (d + 1) k then [d + 1] else []
  match lower, upper with
  | [a], [c] =>
    -- compare 2·v with (2d+1)·10^k: below the midpoint the lower point is nearer
    match compareScaled m (q + 1) (2 * d + 1) k with
    | .lt => [a, c]
    | .gt => [c, a]
    | .eq => if a % 2 = 0 then [a, c] else [c, a]
  | l, u => l ++ u

/-- The shortest decimal of `m · 2^q` (`m > 0`), canonical. `narrowBelow` says that the gap to
the next double below is half the gap above. -/
def shortest (m : Nat) (q : Int) (narrowBelow : Bool) : Digits :=
  let top := decimalExponent m q
  let tryDigits (n : Nat) : Option Digits :=
    let k := top + 1 - n
    (candidates m q narrowBelow k).head?.map fun d => ⟨d, k⟩
  match (List.range 17).findSome? (fun i => tryDigits (i + 1)) with
  | some d => d.trim
  | none => (Digits.mk (floorScaled m q (top - 16)) (top - 16)).trim

/-- What a double is, for printing: not a number, an infinity, or a signed `m · 2^q`
(`m = 0` for the zeros), with the shape of its reading interval. -/
inductive Parts where
  | nan
  | infinite (negative : Bool)
  | finite (negative : Bool) (m : Nat) (q : Int) (narrowBelow : Bool)
  deriving Repr, DecidableEq

/-- Splits the 64 bits of a double into sign, exponent and fraction. -/
def Parts.ofBits (bits : UInt64) : Parts :=
  let n : Nat := bits.toNat
  let negative : Bool := n / Nat.pow 2 63 % 2 == 1
  let biased : Nat := n / Nat.pow 2 52 % 2048
  let frac : Nat := n % Nat.pow 2 52
  if biased = 2047 then
    if frac = 0 then .infinite negative else .nan
  else if biased = 0 then .finite negative frac (-1074) false
  else .finite negative (Nat.pow 2 52 + frac) ((biased : Int) - 1075) (frac == 0 && biased > 1)

/-- The parts of a double. -/
def Parts.ofFloat (x : Float) : Parts := Parts.ofBits x.toBits

end KeyMidi.Decimal
