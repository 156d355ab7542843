import Mathlib
import KeyMidi.Proofs.Engine.Moving
/-!
# Every step of the engine keeps the invariant

Each step of the engine is a function of the engine (`Acting`, `Moving`), built from the effects
of `Invariant`, and each function keeps the invariant `Engine.Good`: an action acting
(`Good.act`), a reset (`Good.resetTo`), an action pressed and let go of (`Good.pressed`,
`Good.released`), an axis settled (`Good.settled`), a sample played by the role of its binding
(`Good.played`), a key event (`Good.keyed`) and an axis sample (`Good.moved`). The triples of a
whole event (`handle_good`) and of the flush (`releaseAll_good`) are read off their runs.
-/

namespace KeyMidi

open Std.Do KeyMidi.Analog

/-- A channel taken modulo 16 is a channel. -/
theorem toUInt8_mod_le (n : Nat) : (n % 16).toUInt8 ≤ 15 := by
  rw [UInt8.le_iff_toNat_le]
  simp only [Nat.toUInt8_eq, UInt8.toNat_ofNat', UInt8.reduceToNat]
  omega

/-- A controller that an axis of the current layer drives is one that the profile controls. -/
theorem Engine.controls_of_binding {e : Engine} {layer : Layer} (hl : e.layer? = some layer)
    {key : InputId} {b : AxisBinding} (hb : layer.axes.find? key.handler key.code = some b)
    {cc ccNeg : UInt8} {twoSided flip : Bool} (hr : b.role = .controller cc ccNeg twoSided flip)
    (k : UInt8) (hk : k = cc ∨ k = ccNeg) : e.profile.Controls k :=
  ⟨layer, List.mem_of_getElem? hl, key.handler, key.code, b, hb, cc, ccNeg, twoSided, flip, hr, hk⟩

namespace Engine

variable {p : Profile} {h : List Request} {e : Engine}

/-! ## Actions -/

/-- A position moved in what the invariant does not read: the actions held, the octave, the
semitone and learning. -/
theorem Good.withPosition (hg : e.Good p h) {f : Position → Position}
    (hf : (f e.position).chord = e.position.chord ∧ (f e.position).velocity = e.position.velocity ∧
      (f e.position).channel = e.position.channel ∧ (f e.position).mapping = e.position.mapping) :
    (e.withPosition f).Good p h := by
  obtain ⟨hchord, hvel, hch, hm⟩ := hf
  refine hg.frame rfl rfl rfl rfl rfl ?_ hvel ?_
  · simpa [hchord] using hg.sound.chord_nodup
  · simpa [hch, hm] using hg.sound.bounded

/-- A request for a controller the profile controls, on a channel. -/
theorem Good.push_control (hg : e.Good p h) {c k : UInt8} (hc : c ≤ 15) (hk : p.Controls k)
    (x : UInt8) : (e.push (.controlChange c k x)).Good p h :=
  hg.push_controlChange hc (.inr (hg.profile_eq ▸ hk)) x

theorem Good.holdAction (hg : e.Good p h) (a : Action) : (e.holdAction a).Good p h :=
  hg.withPosition ⟨rfl, rfl, rfl, rfl⟩

/-- A reset copies a default, which the profile keeps in range. -/
theorem Good.resetTo (hg : e.Good p h) (par : Parameter) : (e.resetTo par).Good p h := by
  cases par with
  | mapping =>
    exact hg.frame rfl rfl rfl rfl rfl hg.sound.chord_nodup rfl
      fun hw => ⟨(hg.sound.bounded hw).1, hw.mapping_lt⟩
  | octave | semitone =>
    dsimp only [Engine.resetTo]
    exact hg.withPosition ⟨rfl, rfl, rfl, rfl⟩
  | channel =>
    exact hg.frame rfl rfl rfl rfl rfl hg.sound.chord_nodup rfl
      fun hw => ⟨hw.channel_le, (hg.sound.bounded hw).2⟩

/-- The channel wraps around, and the layer stops at both ends. -/
theorem Good.act (hg : e.Good p h) (a : Action) : (e.act a).Good p h := by
  cases a with
  | panic => exact hg.panic
  | octaveUp | octaveDown | semitoneUp | semitoneDown | ccLearning =>
    dsimp only [Engine.act]
    exact hg.withPosition ⟨rfl, rfl, rfl, rfl⟩
  | channelUp | channelDown =>
    exact hg.frame rfl rfl rfl rfl rfl hg.sound.chord_nodup rfl
      fun hw => ⟨toUInt8_mod_le _, (hg.sound.bounded hw).2⟩
  | mappingUp =>
    refine hg.frame rfl rfl rfl rfl rfl hg.sound.chord_nodup rfl
      fun hw => ⟨(hg.sound.bounded hw).1, ?_⟩
    have hpos := List.length_pos_of_ne_nil hw.layers_ne_nil
    dsimp only [Engine.act, Engine.withPosition] at hpos ⊢
    omega
  | mappingDown =>
    refine hg.frame rfl rfl rfl rfl rfl hg.sound.chord_nodup rfl
      fun hw => ⟨(hg.sound.bounded hw).1, ?_⟩
    have hlt := (hg.sound.bounded hw).2
    dsimp only [Engine.act, Engine.withPosition] at hlt ⊢
    omega
  | multinote => exact hg

theorem Good.applied (hg : e.Good p h) (a : Action) : (e.applied a).Good p h := by
  rcases e.applied_cases a with ⟨-, ha⟩ | ⟨-, ha | ⟨par, ha⟩ | ha⟩ <;> rw [ha]
  · exact hg
  · exact hg.holdAction a
  · exact (hg.holdAction a).resetTo par
  · exact (hg.holdAction a).act a

/-- A new layer takes the notes that axes sound under the others. -/
theorem Good.pressed (hg : e.Good p h) (a : Action) : (e.pressed a).Good p h := by
  rcases e.pressed_cases a with ⟨-, hp⟩ | ⟨-, hp⟩ <;> rw [hp]
  · exact hg.applied a
  · exact (hg.applied a).takeNotes _

/-- Letting go of multinote takes the chord of the keys held, which repeats no offset. -/
theorem Good.released (hg : e.Good p h) (a : Action) : (e.released a).Good p h := by
  unfold Engine.released
  split
  · cases a with
    | multinote =>
      have hg₁ : (e.withPosition fun pos => { pos with chord := e.notes.chordOffsets }).Good p h :=
        hg.frame rfl rfl rfl rfl rfl (Tracker.chordOffsets_nodup _) rfl hg.sound.bounded
      exact hg₁.withPosition ⟨rfl, rfl, rfl, rfl⟩
    | ccLearning => exact (hg.withPosition ⟨rfl, rfl, rfl, rfl⟩).withPosition ⟨rfl, rfl, rfl, rfl⟩
    | panic | octaveUp | octaveDown | semitoneUp | semitoneDown | channelUp | channelDown
      | mappingUp | mappingDown => exact hg.withPosition ⟨rfl, rfl, rfl, rfl⟩
  · exact hg

theorem Good.releasedOpt (hg : e.Good p h) (a : Option Action) : (e.releasedOpt a).Good p h := by
  cases a with
  | some a => exact hg.released a
  | none => exact hg

theorem Good.pressedOpt (hg : e.Good p h) (a : Option Action) : (e.pressedOpt a).Good p h := by
  cases a with
  | some a => exact hg.pressed a
  | none => exact hg

/-! ## Keys -/

/-- A key let go of, then its action or its notes; a key pressed, then its action or its notes. -/
theorem Good.keyed (hg : e.Good p h) (key : InputId) (value : Int) :
    (e.keyed key value).Good p h := by
  unfold Engine.keyed
  by_cases h0 : value = 0
  · rw [if_pos h0]
    have hg₁ : ({ e with heldKeys := e.heldKeys.erase key } : Engine).Good p h :=
      hg.frame rfl rfl rfl rfl rfl hg.sound.chord_nodup rfl hg.sound.bounded
    split
    · exact hg₁.released _
    · exact hg₁.releaseKey key
  by_cases h1 : value = 1
  · rw [if_neg h0, if_pos h1]
    have hg₁ : (e.holdKey key).Good p h :=
      hg.frame (holdKey_profile e key) (holdKey_notes e key) (holdKey_counts e key)
        (holdKey_axes e key) (by rw [holdKey_outbox]) (by simpa using hg.sound.chord_nodup)
        (by simp) (by simpa using hg.sound.bounded)
    split
    · exact hg₁.pressed _
    · rename_i hk
      split
      · exact hg₁.pressKey (by simpa using hk) _
      · exact hg₁
  · rw [if_neg h0, if_neg h1]
    exact hg

/-! ## Axes -/

/-- An axis whose memory belongs to another layer starts afresh: the note it sounded goes off,
and the action it held is let go of. -/
theorem Good.settled (hg : e.Good p h) (key : InputId) : (e.settled key).Good p h := by
  unfold Engine.settled
  split
  · exact hg
  · rename_i m hm
    split
    · exact hg
    · cases hn : m.note with
      | none =>
        cases m.action with
        | none => exact hg.storeAxis_quiet hm hn rfl
        | some a => exact (hg.storeAxis_quiet hm hn rfl).released a
      | some v =>
        cases m.action with
        | none => exact hg.storeAxis_off hm hn rfl
        | some a => exact (hg.storeAxis_off hm hn rfl).released a

/-- Crossing rest sets the controller of the side left back to rest. -/
theorem Good.leftSide (hg : e.Good p h) {channel cc ccNeg : UInt8} (hc : channel ≤ 15)
    (hk : ∀ s : Side, p.Controls (s.controller cc ccNeg)) (side : Side) (prev : Option Side) :
    (e.leftSide channel cc ccNeg side prev).Good p h := by
  cases prev with
  | some prev =>
    rw [Engine.leftSide]
    split
    · exact hg.push_control hc (hk prev) 0
    · exact hg
  | none => exact hg

/-- A memory that sounds no note stored in place of `m`, then the note off of what `m` sounded. -/
theorem Good.silencedOpt (hg : e.Good p h) {key : InputId} {m m' : AxisMemory}
    (hm : e.axisMemory? key = some m) (hn' : m'.note = none) :
    ((e.storeAxis key m').silencedOpt m.note).Good p h := by
  cases hn : m.note with
  | some v => exact hg.storeAxis_off hm hn hn'
  | none => exact hg.storeAxis_quiet hm hn hn'

/-- A note in range struck where the axis sounds none, with its memory. -/
theorem Good.struckOpt (hg : e.Good p h) {key : InputId} (hnone : (e.axisMemory? key).bind (·.note) = none)
    (m : AxisMemory) {pos : Position} {channel : UInt8} (hc : channel ≤ 15)
    (hvel : pos.velocity = p.defaults.velocity) {n : Option UInt8} (hn : ∀ x, n = some x → x ≤ 127) :
    (e.struckOpt key m pos channel n).Good p h := by
  cases n with
  | some x =>
    rw [Engine.struckOpt, push_storeAxis]
    exact hg.storeAxis_strike hnone rfl ⟨hc, hn x rfl⟩ (by rw [hg.profile_eq]; exact hvel)
  | none => exact hg

/-- A sample played on an engine that holds the memory `m` of the axis, on a channel, at the
velocity of the profile, by a binding whose controllers the profile controls. -/
theorem Good.played (hg : e.Good p h) {key : InputId} {m : AxisMemory}
    (hm : e.axisMemory? key = some m) {pos : Position} {channel : UInt8} (hc : channel ≤ 15)
    (hvel : pos.velocity = p.defaults.velocity) (signed : Bool) (value centered : Float)
    {role : AxisRole} (hctl : ∀ cc ccNeg twoSided flip, role = .controller cc ccNeg twoSided flip →
      ∀ k, k = cc ∨ k = ccNeg → p.Controls k) :
    (e.played key m pos channel signed value centered role).Good p h := by
  have hold : (e.axisMemory? key).bind (·.note) = m.note := by rw [hm]; rfl
  cases role with
  | controller cc ccNeg twoSided flip =>
    have hk := hctl cc ccNeg twoSided flip rfl
    cases twoSided with
    | false => exact hg.push_control hc (hk cc (.inl rfl)) _
    | true =>
      have hside : ∀ s : Side, p.Controls (s.controller cc ccNeg) := fun s =>
        hk _ (by cases s <;> simp [Side.controller])
      have hmem : ∀ side, (e.leftSide channel cc ccNeg side m.side).axisMemory? key =
          e.axisMemory? key := fun side =>
        leftSide_keeps e (·.axisMemory? key) (fun _ _ => rfl) channel cc ccNeg side m.side
      dsimp only [Engine.played]
      rw [if_pos rfl]
      exact ((hg.leftSide hc hside _ m.side).storeAxis_keep (by rw [hmem, hold])).push_control hc
        (hside _) _
  | pitchBend flip => exact hg.push_pitchBend hc _
  | note n nNeg twoSided =>
    dsimp only [Engine.played]
    generalize Zone.ofLevel (if twoSided then centered else value) twoSided = zone
    split
    · exact hg
    · refine (hg.silencedOpt hm ?_).struckOpt ?_ _ hc hvel fun x hx => ?_
      · rfl
      · rw [silencedOpt_keeps _ (·.axisMemory? key) (fun _ _ => rfl), axisMemory?_storeAxis_self]
        rfl
      · obtain ⟨b, -, hb⟩ := Option.bind_eq_some_iff.mp hx
        exact transpose_le hb
  | action a aNeg twoSided =>
    dsimp only [Engine.played]
    generalize Zone.ofLevel (if twoSided then centered else value) twoSided = zone
    split
    · exact hg
    · exact ((hg.storeAxis_keep (by rw [hold])).releasedOpt _).pressedOpt _

/-- A sample read under the binding of the active layer: dropped, or stored and played. -/
theorem Good.sampled (hg : e.Good p h) (key : InputId) (raw : Int) (bounds : Bounds) :
    (e.sampled key raw bounds).Good p h := by
  rcases e.sampled_cases key raw bounds with hs | hs | ⟨layer, b, value, hl, hb, hs⟩ <;> rw [hs]
  · exact hg
  · exact hg.recallAxis key _
  · refine (hg.storeAxis_keep ?_).played (axisMemory?_storeAxis_self key _) (channelFor_le _ _) ?_
      _ _ _ fun cc ccNeg twoSided flip hr k hk => ?_
    · exact recallAxis_note key _
    · rw [← hg.profile_eq]
      exact hg.sound.velocity_eq
    · rw [← hg.profile_eq]
      exact controls_of_binding hl hb hr k hk

theorem Good.moved (hg : e.Good p h) (key : InputId) (raw : Int) (bounds : Option Bounds) :
    (e.moved key raw bounds).Good p h := by
  cases bounds with
  | none => exact hg
  | some bounds => exact (hg.settled key).sampled key raw bounds

/-- An event handled, then the status published, which the invariant does not read. -/
theorem Good.handled (hg : e.Good p h) (ev : InputEvent) : (e.handled ev).Good p h := by
  cases ev with
  | key key value =>
    have hk := hg.keyed key value
    exact hk.frame rfl rfl rfl rfl rfl hk.sound.chord_nodup rfl hk.sound.bounded
  | axis key raw bounds =>
    have hk := hg.moved key raw bounds
    exact hk.frame rfl rfl rfl rfl rfl hk.sound.chord_nodup rfl hk.sound.bounded

end Engine

namespace EngineM

variable (p : Profile) (h : List Request)

theorem handle_good (ev : InputEvent) :
    ⦃fun e => ⌜e.Good p h⌝⦄ handle ev ⦃⇓ _ e => ⌜e.Good p h⌝⦄ :=
  triple_of_run fun e hg => by
    rw [handle_run]
    exact hg.handled ev

theorem releaseAll_good : ⦃fun e => ⌜e.Good p h⌝⦄ releaseAll ⦃⇓ _ e => ⌜e.Good p h⌝⦄ :=
  triple_of_run fun e hg => by
    rw [releaseAll_run]
    exact hg.releasedAll

end EngineM

end KeyMidi
