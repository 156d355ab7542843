import Mathlib
import KeyMidi.Proofs.Profile.WellFormed
/-!
# Which profiles pass their check, and why the others fail

`Profile.check` walks a profile with early exits: the profile's own fields, then each layer in
order, and in a layer its keys, its axes and its dead zones, one table entry after another. This
module lays the same checks out flat, as the list of their verdicts in the order they are made
(`Profile.verdicts`), and shows:

- `check` is the first error among its verdicts (`Profile.check_eq`), built from the same fact
  for a loop over a list (`forIn_eq_firstError`), for an axis (`Profile.checkAxis_eq`) and for a
  layer (`Profile.checkLayer_eq`); a layer's errors carry the prefix `mapping '<name>': `;
- the verdicts all pass exactly when the profile is valid (`Profile.verdicts_ok`), a conjunction
  of range and presence conditions on every field (`Profile.Valid`, `Layer.Valid`,
  `AxisRole.Valid`).

A dead zone is compared with Float's own order, so not-a-number passes no bound and is refused.
-/

namespace KeyMidi

/-! ## The first error of a list of verdicts -/

section FirstError

variable {ε : Type}

/-- The first error among verdicts, in order; success when there is none. -/
def firstError : List (Except ε Unit) → Except ε Unit
  | [] => pure ()
  | r :: rs => r >>= fun _ => firstError rs

@[simp] theorem firstError_nil : firstError ([] : List (Except ε Unit)) = pure () := rfl

@[simp] theorem firstError_cons (r : Except ε Unit) (rs : List (Except ε Unit)) :
    firstError (r :: rs) = (r >>= fun _ => firstError rs) := rfl

theorem Except.pure_unit : (pure () : Except ε Unit) = .ok () := rfl

@[simp] theorem Except.error_bind {α β : Type} (e : ε) (f : α → Except ε β) :
    (Except.error e >>= f) = .error e := rfl

@[simp] theorem Except.ok_bind {α β : Type} (a : α) (f : α → Except ε β) :
    (Except.ok a >>= f) = f a := rfl

theorem firstError_append (a b : List (Except ε Unit)) :
    firstError (a ++ b) = (firstError a >>= fun _ => firstError b) := by
  induction a with
  | nil => simp
  | cons r a ih => simp [ih]

theorem firstError_flatMap {α : Type} (xs : List α) (f : α → List (Except ε Unit)) :
    firstError (xs.flatMap f) = firstError (xs.map fun x => firstError (f x)) := by
  induction xs with
  | nil => rfl
  | cons x xs ih => simp [firstError_append, ih]

theorem firstError_map_mapError {ε' : Type} (f : ε → ε') (rs : List (Except ε Unit)) :
    firstError (rs.map (Except.mapError f)) = (firstError rs).mapError f := by
  induction rs with
  | nil => rfl
  | cons r rs ih => cases r <;> simp [ih, Except.mapError]

theorem firstError_eq_ok {rs : List (Except ε Unit)} :
    firstError rs = .ok () ↔ ∀ r ∈ rs, r = .ok () := by
  induction rs with
  | nil => simp [Except.pure_unit]
  | cons r rs ih => cases r <;> simp [ih]

theorem firstError_eq_error {rs : List (Except ε Unit)} {e : ε} :
    firstError rs = .error e ↔ ∃ pre post, rs = pre ++ .error e :: post ∧ ∀ r ∈ pre, r = .ok () := by
  induction rs with
  | nil => simp [Except.pure_unit]
  | cons r rs ih =>
    cases r with
    | error e' =>
      simp only [firstError_cons, Except.error_bind, Except.error.injEq]
      constructor
      · rintro rfl
        exact ⟨[], rs, rfl, by simp⟩
      · rintro ⟨pre, post, hrs, hpre⟩
        cases pre with
        | nil => exact Except.error.inj (List.cons_eq_cons.mp hrs).1
        | cons r pre => simp_all
    | ok u =>
      simp only [firstError_cons, Except.ok_bind, ih]
      constructor
      · rintro ⟨pre, post, rfl, hpre⟩
        exact ⟨.ok u :: pre, post, rfl, by simpa using hpre⟩
      · rintro ⟨pre, post, hrs, hpre⟩
        cases pre with
        | nil => simp at hrs
        | cons r pre =>
          obtain ⟨-, rfl⟩ := List.cons_eq_cons.mp hrs
          exact ⟨pre, post, rfl, fun r hr => hpre r (by simp [hr])⟩

/-- A loop whose body runs one check per element and goes on gives the first error of the
checks. -/
theorem forIn_eq_firstError {α : Type} (xs : List α) (body : α → PUnit → Except ε (ForInStep PUnit))
    (g : α → Except ε Unit) (h : ∀ x, body x () = (g x >>= fun _ => pure (.yield ()))) :
    forIn xs () body = firstError (xs.map g) := by
  induction xs with
  | nil => rfl
  | cons x xs ih =>
    rw [List.forIn_cons, h, List.map_cons, firstError_cons, ← ih]
    simp

end FirstError

/-- A check that fails, with message `e`, when `c` holds. -/
def failIf (c : Prop) [Decidable c] (e : String) : Except String Unit := if c then throw e else pure ()

/-- A failure guard written with a join point is `failIf` followed by the rest. -/
theorem ite_throw {α : Type} (c : Prop) [Decidable c] (e : String) (x : Except String α) :
    (if c then throw e >>= (fun (_ : Unit) => x) else x) = (failIf c e >>= fun _ => x) := by
  unfold failIf; split <;> rfl

theorem failIf_eq_ok {c : Prop} [Decidable c] {e : String} : failIf c e = .ok () ↔ ¬c := by
  unfold failIf; split <;> simp_all [throw, throwThe, MonadExceptOf.throw, Except.pure_unit]

/-! ## What a valid profile is -/

theorem DeviceKind.isSupported_iff {k : DeviceKind} :
    k.isSupported = true ↔ k = .keyboard ∨ k = .gamepad := by
  cases k <;> simp [DeviceKind.isSupported]

/-- What the check of an axis's role asks: 7-bit controllers and notes, and a negative action for
a two-sided action axis. -/
def AxisRole.Valid : AxisRole → Prop
  | .controller cc ccNeg _ _ => cc ≤ 127 ∧ ccNeg ≤ 127
  | .pitchBend _ => True
  | .note n nNeg _ => n ≤ 127 ∧ nNeg ≤ 127
  | .action _ neg twoSided => twoSided = true → neg.isSome

/-- A layer that passes its checks, given the keys bound to actions: no key is bound both to a
note and to an action, notes and offsets are in range, and so are dead zones. -/
structure Layer.Valid (actions : CodeMap Action) (l : Layer) : Prop where
  keys : ∀ h c t, (h, c, t) ∈ l.keys.toList →
    actions.find? h c = none ∧ t.note ≤ 127 ∧ t.channelOffset ≤ 15
  axes : ∀ h c a, (h, c, a) ∈ l.axes.toList → a.channelOffset ≤ 15 ∧ a.role.Valid
  deadzones : ∀ h c d, (h, c, d) ∈ l.deadzones.toList → 0.0 ≤ d ∧ d < 1.0

/-- A profile that passes its check. -/
structure Profile.Valid (p : Profile) : Prop where
  name_ne : p.name ≠ ""
  kind : p.kind = .keyboard ∨ p.kind = .gamepad
  layers_ne : p.layers ≠ []
  channel_le : p.defaults.channel ≤ 15
  mapping_lt : p.defaults.mapping < p.layers.length
  velocity_le : p.defaults.velocity ≤ 127
  deadzone : 0.0 ≤ p.defaults.deadzone ∧ p.defaults.deadzone < 1.0
  layers : ∀ l ∈ p.layers, l.Valid p.actions

namespace Profile

/-! ## The checks, laid out flat -/

/-- The checks of a key binding: not bound to an action as well, then its note, then its channel
offset. -/
def keyVerdicts (actions : CodeMap Action) : String × Nat × NoteTarget → List (Except String Unit)
  | (h, c, t) =>
    [failIf ((actions.find? h c).isSome = true)
        ("key " ++ h ++ ":" ++ toString c ++ " is bound to both a note and an action"),
      checkSeven "note" t.note, checkOffset t.channelOffset]

/-- The checks of an axis binding: its channel offset, then what its role asks. -/
def axisVerdicts : String × Nat × AxisBinding → List (Except String Unit)
  | (h, c, a) => checkOffset a.channelOffset :: match a.role with
    | .controller cc ccNeg _ _ => [checkSeven "cc" cc, checkSeven "cc_neg" ccNeg]
    | .pitchBend _ => []
    | .note n nNeg _ => [checkSeven "note" n, checkSeven "note_neg" nNeg]
    | .action _ neg twoSided =>
      [failIf ((twoSided && neg.isNone) = true)
        ("axis " ++ h ++ ":" ++ toString c ++ " is bidirectional but has no action_neg")]

/-- The checks of a layer: its keys, then its axes, then its dead zones, entry by entry. -/
def layerVerdicts (actions : CodeMap Action) (l : Layer) : List (Except String Unit) :=
  l.keys.toList.flatMap (keyVerdicts actions) ++ l.axes.toList.flatMap axisVerdicts ++
    l.deadzones.toList.map fun x => checkDeadzone "deadzone" x.2.2

/-- Every check of a profile, in the order they are made: its own fields, then each layer's
checks with the layer's name before their message. -/
def verdicts (p : Profile) : List (Except String Unit) :=
  [failIf (p.name.isEmpty = true) "config name cannot be empty",
    failIf ((!p.kind.isSupported) = true) ("device type '" ++ p.kind.name ++ "' is not supported"),
    failIf (p.layers.isEmpty = true) "at least one mapping must be defined",
    failIf (p.defaults.channel > 15)
      ("default channel " ++ toString p.defaults.channel ++ " is invalid (must be 0-15)"),
    failIf (p.defaults.mapping ≥ p.layers.length)
      ("default mapping " ++ toString p.defaults.mapping ++ " is out of range (" ++
        toString p.layers.length ++ " mappings)"),
    failIf (p.defaults.velocity > 127)
      ("default velocity " ++ toString p.defaults.velocity ++ " is invalid (must be 0-127)"),
    checkDeadzone "default deadzone" p.defaults.deadzone] ++
  p.layers.flatMap fun l =>
    (layerVerdicts p.actions l).map (Except.mapError fun e => "mapping '" ++ l.name ++ "': " ++ e)

/-! ## The check is the first error of its verdicts -/

theorem checkAxis_eq (h : String) (c : Nat) (a : AxisBinding) :
    checkAxis h c a = firstError (axisVerdicts (h, c, a)) := by
  obtain ⟨role, offset, _⟩ := a
  cases role with
  | action act neg twoSided =>
    cases twoSided <;> cases neg <;> simp [checkAxis, axisVerdicts, failIf]
  | _ => simp [checkAxis, axisVerdicts]

theorem checkLayer_eq (actions : CodeMap Action) (l : Layer) :
    checkLayer actions l = firstError (layerVerdicts actions l) := by
  unfold checkLayer layerVerdicts
  rw [firstError_append, firstError_append, firstError_flatMap, firstError_flatMap,
    forIn_eq_firstError _ _ (fun x => firstError (keyVerdicts actions x)) ?keys,
    forIn_eq_firstError _ _ (fun x => firstError (axisVerdicts x)) ?axes,
    forIn_eq_firstError _ _ (fun x => checkDeadzone "deadzone" x.2.2) ?dz]
  · simp
  case keys =>
    rintro ⟨h, c, t⟩
    cases hf : actions.find? h c <;> simp [keyVerdicts, failIf, hf]
  case axes =>
    rintro ⟨h, c, a⟩
    simp [checkAxis_eq]
  case dz =>
    rintro ⟨h, c, d⟩
    rfl

theorem check_eq (p : Profile) : p.check = firstError p.verdicts := by
  unfold check
  simp only []
  -- the six checks of the profile's own fields, outermost first, then the loop over the layers
  rw [ite_throw, ite_throw, ite_throw, ite_throw, ite_throw, ite_throw,
    forIn_eq_firstError _ _ (fun l => (checkLayer p.actions l).mapError fun e =>
      "mapping '" ++ l.name ++ "': " ++ e) ?layers]
  · simp only [verdicts, firstError_append, firstError_flatMap, firstError_map_mapError,
      ← checkLayer_eq, firstError_cons, firstError_nil, bind_assoc, bind_pure_unit]
  case layers =>
    intro l
    cases checkLayer p.actions l <;> rfl

/-! ## The verdicts pass exactly on valid profiles -/

theorem checkOffset_eq_ok {o : UInt8} : checkOffset o = .ok () ↔ o ≤ 15 := by
  unfold checkOffset
  split <;> simp_all [throw, throwThe, MonadExceptOf.throw, Except.pure_unit, UInt8.not_lt]

theorem checkDeadzone_eq_ok {what : String} {d : Float} :
    checkDeadzone what d = .ok () ↔ 0.0 ≤ d ∧ d < 1.0 := by
  unfold checkDeadzone
  split <;> simp_all [throw, throwThe, MonadExceptOf.throw, Except.pure_unit]

theorem mapError_eq_ok {ε' : Type} {f : String → ε'} {r : Except String Unit} :
    r.mapError f = .ok () ↔ r = .ok () := by
  cases r <;> simp [Except.mapError]

theorem keyVerdicts_ok {actions : CodeMap Action} {h : String} {c : Nat} {t : NoteTarget} :
    (∀ r ∈ keyVerdicts actions (h, c, t), r = .ok ()) ↔
      actions.find? h c = none ∧ t.note ≤ 127 ∧ t.channelOffset ≤ 15 := by
  simp [keyVerdicts, failIf_eq_ok, checkSeven_eq_ok, checkOffset_eq_ok]

theorem axisVerdicts_ok {h : String} {c : Nat} {a : AxisBinding} :
    (∀ r ∈ axisVerdicts (h, c, a), r = .ok ()) ↔ a.channelOffset ≤ 15 ∧ a.role.Valid := by
  obtain ⟨role, offset, _⟩ := a
  cases role with
  | action act neg twoSided =>
    cases twoSided <;> cases neg <;> simp [axisVerdicts, failIf_eq_ok, checkOffset_eq_ok, AxisRole.Valid]
  | _ => simp [axisVerdicts, checkOffset_eq_ok, checkSeven_eq_ok, AxisRole.Valid]

theorem layerVerdicts_ok {actions : CodeMap Action} {l : Layer} :
    (∀ r ∈ layerVerdicts actions l, r = .ok ()) ↔ l.Valid actions := by
  simp only [layerVerdicts, List.forall_mem_append, List.forall_mem_flatMap, List.forall_mem_map,
    Prod.forall, keyVerdicts_ok, axisVerdicts_ok, checkDeadzone_eq_ok]
  exact ⟨fun ⟨⟨hk, ha⟩, hd⟩ => ⟨hk, ha, hd⟩, fun ⟨hk, ha, hd⟩ => ⟨⟨hk, ha⟩, hd⟩⟩

theorem verdicts_ok {p : Profile} : (∀ r ∈ p.verdicts, r = .ok ()) ↔ p.Valid := by
  simp only [verdicts, List.forall_mem_append, List.forall_mem_cons, List.forall_mem_flatMap,
    List.forall_mem_map, mapError_eq_ok, layerVerdicts_ok, failIf_eq_ok, checkDeadzone_eq_ok,
    List.not_mem_nil, IsEmpty.forall_iff, implies_true, and_true, Bool.not_eq_true',
    Bool.not_eq_false, String.isEmpty_iff, List.isEmpty_iff, UInt8.not_lt, Nat.not_le, gt_iff_lt,
    ge_iff_le, DeviceKind.isSupported_iff]
  exact ⟨fun ⟨⟨a, b, c, d, e, f, g⟩, h⟩ => ⟨a, b, c, d, e, f, g, h⟩,
    fun ⟨a, b, c, d, e, f, g, h⟩ => ⟨⟨a, b, c, d, e, f, g⟩, h⟩⟩

/-- **A profile passes its check exactly when it is valid, and a refused profile is refused with
the message of the first of its checks that fails**, in the order `verdicts` lists them: the
profile's own fields, then each layer in order (its keys, its axes with the channel offset
first, its dead zones), a layer's message led by `mapping '<name>': `. -/
theorem check_laws (p : Profile) :
    (p.check = .ok () ↔ p.Valid) ∧
    ∀ e, p.check = .error e ↔
      ∃ pre post, p.verdicts = pre ++ .error e :: post ∧ ∀ r ∈ pre, r = .ok () := by
  rw [check_eq]
  exact ⟨firstError_eq_ok.trans verdicts_ok, fun _ => firstError_eq_error⟩

end Profile

end KeyMidi
