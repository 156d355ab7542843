import Mathlib
import KeyMidi.Profile.Check
/-!
# What a checked profile guarantees the engine

`Profile.check` refuses a profile whose defaults or bindings leave their ranges. The engine relies
on part of what it checks: that there is a layer, that the default layer exists, that the default
channel and velocity are in range, and that every controller axis of every layer names 7-bit
controllers. `Profile.WellFormed` gathers these facts and `Profile.wellFormed_of_check` reads them
off a successful check.

The checks are `Except` programs with early exits; they are read with `mvcgen`, after `throw` is
unfolded to `Except.error` (`Except.error_spec`).
-/

namespace KeyMidi

open Std.Do

set_option mvcgen.warning false

/-- An error raised in `Except` goes to the error half of the postcondition. -/
@[spec] theorem Except.error_spec {ε α : Type} {e : ε} {Q : PostCond α (.except ε .pure)} :
    ⦃spred(Q.2.1 e)⦄ (Except.error e : Except ε α) ⦃Q⦄ := by
  simp [Triple.iff]; exact id

/-- A binding found by handler and code is one of the listed bindings. -/
theorem CodeMap.mem_toList_of_find? {α : Type} {m : CodeMap α} {handler : String} {code : Nat}
    {a : α} (h : m.find? handler code = some a) : (handler, code, a) ∈ m.toList := by
  simp only [CodeMap.find?, Option.bind_eq_some_iff, Option.map_eq_some_iff] at h
  obtain ⟨e, he, x, hx, rfl⟩ := h
  have he₁ := List.find?_some he
  have hx₁ := List.find?_some hx
  simp only [beq_iff_eq] at he₁ hx₁
  simp only [CodeMap.toList, List.mem_flatMap, List.mem_map]
  exact ⟨e, List.mem_of_find?_eq_some he, x, List.mem_of_find?_eq_some hx, by rw [he₁, hx₁]⟩

namespace Profile

/-- What the engine relies on in a profile. -/
structure WellFormed (p : Profile) : Prop where
  layers_ne_nil : p.layers ≠ []
  channel_le : p.defaults.channel ≤ 15
  mapping_lt : p.defaults.mapping < p.layers.length
  velocity_le : p.defaults.velocity ≤ 127
  controllers_le : ∀ l ∈ p.layers, ∀ handler code b, l.axes.find? handler code = some b →
    ∀ cc ccNeg twoSided flip, b.role = .controller cc ccNeg twoSided flip → cc ≤ 127 ∧ ccNeg ≤ 127

/-- A sequence of `Except` steps succeeds when both steps do. -/
theorem Except.bind_eq_ok {ε α β : Type} {x : Except ε α} {f : α → Except ε β} {b : β} :
    x >>= f = .ok b ↔ ∃ a, x = .ok a ∧ f a = .ok b := by
  cases x <;> simp [bind, Except.bind]

/-- A 7-bit check passes exactly on values up to 127. -/
theorem checkSeven_eq_ok {what : String} {v : UInt8} : checkSeven what v = .ok () ↔ v ≤ 127 := by
  unfold checkSeven
  split <;> simp_all [throw, throwThe, MonadExceptOf.throw, pure, Except.pure, UInt8.not_lt]

/-- A checked axis binding of a controller names 7-bit controllers. -/
theorem controllers_le_of_checkAxis {handler : String} {code : Nat} {b : AxisBinding}
    (h : checkAxis handler code b = .ok ()) {cc ccNeg : UInt8} {twoSided flip : Bool}
    (hb : b.role = .controller cc ccNeg twoSided flip) : cc ≤ 127 ∧ ccNeg ≤ 127 := by
  simp only [checkAxis, hb, Except.bind_eq_ok] at h
  obtain ⟨_, -, _, h₁, h₂⟩ := h
  exact ⟨checkSeven_eq_ok.mp h₁, checkSeven_eq_ok.mp h₂⟩

/-- An `Except` program whose postcondition holds whenever it succeeds. -/
theorem Except.wp_of_ok {ε : Type} {x : Except ε Unit} {P : Prop} (h : x = .ok () → P) :
    (wp⟦x⟧ (fun _ => ⌜P⌝, fun _ => ⌜True⌝, ())).down := by
  cases x with
  | error e => exact trivial
  | ok u => exact h rfl

/-- A checked layer has every axis binding checked. -/
theorem checkAxis_of_checkLayer {actions : CodeMap Action} {l : Layer}
    (h : checkLayer actions l = .ok ()) :
    ∀ x ∈ l.axes.toList, checkAxis x.1 x.2.1 x.2.2 = .ok () := by
  apply Except.of_wp_eq h (fun r => r = .ok () → ∀ x ∈ l.axes.toList, checkAxis x.1 x.2.1 x.2.2 = .ok ())
    _ rfl
  unfold checkLayer
  simp -zeta only [checkDeadzone, checkSeven, checkOffset, throw, throwThe, MonadExcept.throw,
    MonadExceptOf.throw]
  mvcgen invariants
  | inv1 => post⟨fun _ => ⌜True⌝, fun _ => ⌜True⌝⟩
  | inv2 => post⟨fun ⟨cur, _⟩ => ⌜∀ x ∈ cur.prefix, checkAxis x.1 x.2.1 x.2.2 = .ok ()⌝, fun _ => ⌜True⌝⟩
  | inv3 => post⟨fun _ => ⌜∀ x ∈ l.axes.toList, checkAxis x.1 x.2.1 x.2.2 = .ok ()⌝, fun _ => ⌜True⌝⟩
  all_goals (try simp_all)
  -- what is left is the step over one axis binding, whose check is kept whole
  rename_i pref cur _ _ _ hpref
  refine Except.wp_of_ok fun hok handler code b hx => ?_
  rcases hx with hx | rfl
  · exact hpref handler code b hx
  · exact hok

/-- A checked profile has a layer, its defaults in range and every layer checked. -/
theorem defaults_of_check {p : Profile} (h : p.check = .ok ()) :
    p.layers ≠ [] ∧ p.defaults.channel ≤ 15 ∧ p.defaults.mapping < p.layers.length ∧
      p.defaults.velocity ≤ 127 ∧ ∀ l ∈ p.layers, checkLayer p.actions l = .ok () := by
  apply Except.of_wp_eq h (fun r => r = .ok () → p.layers ≠ [] ∧ p.defaults.channel ≤ 15 ∧
    p.defaults.mapping < p.layers.length ∧ p.defaults.velocity ≤ 127 ∧
      ∀ l ∈ p.layers, checkLayer p.actions l = .ok ()) _ rfl
  unfold check
  simp -zeta only [checkDeadzone, throw, throwThe, MonadExcept.throw, MonadExceptOf.throw]
  mvcgen invariants
  | inv1 => post⟨fun ⟨cur, _⟩ => ⌜∀ l ∈ cur.prefix, checkLayer p.actions l = .ok ()⌝, fun _ => ⌜True⌝⟩
  all_goals (try simp_all)
  · rintro l (hl | rfl) <;> simp_all
  · exact ⟨‹_›, ‹_›, ‹_›⟩

/-- What a successful check guarantees the engine. -/
theorem wellFormed_of_check {p : Profile} (h : p.check = .ok ()) : p.WellFormed := by
  obtain ⟨hl, hc, hm, hv, hlayers⟩ := defaults_of_check h
  refine ⟨hl, hc, hm, hv, fun l hl' handler code b hb cc ccNeg twoSided flip hr => ?_⟩
  exact controllers_le_of_checkAxis
    (checkAxis_of_checkLayer (hlayers l hl') _ (CodeMap.mem_toList_of_find? hb)) hr

end Profile

end KeyMidi
