/-!
# Bytes as hexadecimal text

Messages are shown as their bytes, each as two uppercase hexadecimal digits, separated by one
space: `[0x90, 60, 64]` is `90 3C 40`.
-/

namespace KeyMidi.Midi

/-- The uppercase hexadecimal digit of `n < 16`. -/
def hexDigit (n : Nat) : Char :=
  if n < 10 then Char.ofNat (48 + n) else Char.ofNat (55 + n)

/-- A byte as two uppercase hexadecimal digits. -/
def hexByte (b : UInt8) : String :=
  String.ofList [hexDigit (b.toNat / 16), hexDigit (b.toNat % 16)]

/-- Bytes as hexadecimal pairs separated by single spaces. -/
def hexText (bytes : List UInt8) : String :=
  " ".intercalate (bytes.map hexByte)

end KeyMidi.Midi
