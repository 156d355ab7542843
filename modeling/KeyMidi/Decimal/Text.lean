import KeyMidi.Decimal.Shortest
/-!
# Writing doubles as text

A double is written from its shortest decimal (`Decimal.shortest`). What differs between the two
texts this library writes is a handful of decisions, gathered in a `Layout`: for which positions
of the decimal point the digits are written positionally, whether an integral value keeps `.0`,
how zero is spelled, and the words for the values that are not numbers.

* `Layout.data` is the text of numbers in data documents: positional while the point stands
  after at most sixteen digits and before at most four zeros, otherwise `d.ddde±x`; `.0` is kept.
* `Layout.message` is the text of numbers inside messages: always positional, no `.0`.
-/

namespace KeyMidi.Decimal

/-- The decisions that turn a shortest decimal into text. -/
structure Layout where
  /-- Point positions `p` (the value is `0.digits · 10^p`) written without an exponent:
  `lo < p ≤ hi`; `none` writes every value positionally. -/
  positional : Option (Int × Int)
  /-- An integral value is written with a trailing `.0`. -/
  pointZero : Bool
  /-- The text of not-a-number. -/
  nanText : String
  /-- The text of positive infinity; negative infinity has a minus sign before it. -/
  infText : String
  deriving Repr

/-- The text of numbers in data documents (lists of values and settings written out). -/
def Layout.data : Layout := ⟨some (-5, 16), true, "NaN", "inf"⟩

/-- The text of numbers inside messages. -/
def Layout.message : Layout := ⟨none, false, "NaN", "inf"⟩

/-- The decimal digits of a natural number, most significant first. -/
def digitsOf (n : Nat) : String := String.ofList (Nat.toDigits 10 n)

/-- `n` zeros. -/
def zeros (n : Nat) : String := String.ofList (List.replicate n '0')

/-- The text of a positive canonical decimal under a layout. -/
def Digits.render (layout : Layout) (d : Digits) : String :=
  let ds := digitsOf d.significand
  let len := ds.length
  -- the value is 0.ds · 10^point
  let point : Int := len + d.exponent
  let tail := if layout.pointZero then ".0" else ""
  let positional := match layout.positional with
    | none => true
    | some (lo, hi) => lo < point ∧ point ≤ hi
  if positional then
    if 0 ≤ d.exponent then ds ++ zeros d.exponent.toNat ++ tail
    else if 0 < point then
      let whole := String.ofList (ds.toList.take point.toNat)
      let frac := String.ofList (ds.toList.drop point.toNat)
      whole ++ "." ++ frac
    else "0." ++ zeros (-point).toNat ++ ds
  else
    let first := String.ofList (ds.toList.take 1)
    let rest := String.ofList (ds.toList.drop 1)
    let expText := toString (point - 1)
    if rest.isEmpty then first ++ "e" ++ expText else first ++ "." ++ rest ++ "e" ++ expText

/-- The text of a double under a layout. -/
def Layout.write (layout : Layout) (x : Float) : String :=
  match Parts.ofFloat x with
  | .nan => layout.nanText
  | .infinite neg => (if neg then "-" else "") ++ layout.infText
  | .finite neg m q narrow =>
    let sign := if neg then "-" else ""
    if m = 0 then sign ++ "0" ++ (if layout.pointZero then ".0" else "")
    else sign ++ (shortest m q narrow).render layout

/-- A double is a number: neither not-a-number nor infinite. -/
def isNumber (x : Float) : Bool :=
  match Parts.ofFloat x with
  | .finite .. => true
  | _ => false

end KeyMidi.Decimal
