/-!
# Devices: identity and kind

A physical device is known by its bus, vendor, product and version numbers (its model) and,
optionally, by per-unit fields: a unique serial and a physical location. The model alone is
what profiles are matched on; the all-zero model marks a profile as the default one for its kind.
It is written `bbbb:vvvv:pppp:rrrr` in lowercase hexadecimal, followed by the per-unit fields
that are set.

Only keyboards and gamepads have profiles.
-/

namespace KeyMidi

/-- The identity of a physical device. -/
structure Identity where
  bus : Nat := 0
  vendor : Nat := 0
  product : Nat := 0
  version : Nat := 0
  uniq : String := ""
  phys : String := ""
  deriving Repr, DecidableEq, Inhabited

namespace Identity

/-- The model part: the per-unit fields cleared. -/
def model (i : Identity) : Identity := ⟨i.bus, i.vendor, i.product, i.version, "", ""⟩

/-- The all-zero model, which default profiles carry. -/
def isDefault (i : Identity) : Bool :=
  i.bus == 0 && i.vendor == 0 && i.product == 0 && i.version == 0

/-- Four lowercase hexadecimal digits, more if the number needs them. -/
def hex4 (n : Nat) : String :=
  let ds := Nat.toDigits 16 n
  String.ofList (List.replicate (4 - ds.length) '0' ++ ds)

/-- The identity as text: the model in hexadecimal, then the per-unit fields that are set. -/
def describe (i : Identity) : String :=
  let base := ":".intercalate [hex4 i.bus, hex4 i.vendor, hex4 i.product, hex4 i.version]
  let withUniq := if i.uniq.isEmpty then base else base ++ " uniq=" ++ i.uniq
  if i.phys.isEmpty then withUniq else withUniq ++ " phys=" ++ i.phys

end Identity

/-- The kind of a device, as far as profiles are concerned. -/
inductive DeviceKind where
  | keyboard
  | gamepad
  | mouse
  | other
  deriving Repr, DecidableEq, Inhabited

namespace DeviceKind

/-- The name of a kind. -/
def name : DeviceKind → String
  | .keyboard => "keyboard"
  | .gamepad => "gamepad"
  | .mouse => "mouse"
  | .other => "other"

/-- All kinds, in the order in which profiles list them. -/
def all : List DeviceKind := [.keyboard, .gamepad, .mouse, .other]

/-- Profiles exist for keyboards and gamepads only. -/
def isSupported : DeviceKind → Bool
  | .keyboard | .gamepad => true
  | _ => false

end DeviceKind

end KeyMidi
