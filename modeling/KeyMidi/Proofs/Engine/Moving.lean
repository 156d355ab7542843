import Mathlib
import KeyMidi.Proofs.Engine.Acting
import KeyMidi.Proofs.Engine.Invariant
/-!
# Axis samples as functions of the engine

As `Acting` does for key events (`Engine.keyed`), an axis sample is given here as a plain function
of the engine, and its run is proved equal to it (`EngineM.handleAxis_run`):

* `Engine.played`: what a sample does, its memory stored, by the role of its binding: a controller
  sends its value, a two-sided one first resting the side it leaves; a pitch bend sends the bend;
  a note axis entering a zone lets go of its note and sounds the note of the zone; an action axis
  entering a zone lets go of its action and presses the action of the zone;
* `Engine.sampled`: a sample read under the binding of the active layer, dropped when it repeats
  the last one or learning ignores it, and otherwise stored and played;
* `Engine.moved`: an axis moved: nothing without bounds, and otherwise settled
  (`Engine.settled`), then sampled;
* `Engine.handled`: an input event, a key event or an axis sample, then the status published
  (`EngineM.handle_run`).

The steps of an axis sample are those of `Effects` and `Acting`: a field that storing a memory,
sending, and releasing and pressing actions all keep, an axis sample keeps (`moved_keeps`).
Each invariant of the engine is kept by an axis sample by the same case analysis on these
functions, the role of the binding giving the cases.
-/

namespace KeyMidi

open Std.Do KeyMidi.Analog KeyMidi.Midi

/-- The controller that a side of a two-sided axis drives. -/
def Side.controller (cc ccNeg : UInt8) : Side → UInt8
  | .positive => cc
  | .negative => ccNeg

/-- What an axis takes in a zone: the first of its two values high, the second low, and nothing
in the middle. -/
def Analog.Zone.pick {α : Type} (high low : Option α) : Zone → Option α
  | .high => high
  | .low => low
  | .middle => none

namespace Engine

/-- The controller of the side a two-sided axis was on set back to rest, if the axis now is on
the other side. -/
def leftSide (e : Engine) (channel cc ccNeg : UInt8) (side : Side) : Option Side → Engine
  | some prev =>
    if prev != side then e.push (.controlChange channel (prev.controller cc ccNeg) 0) else e
  | none => e

/-- The note off of the note an axis sounded, if it sounded one. -/
def silencedOpt (e : Engine) : Option Voice → Engine
  | some v => e.push v.noteOff
  | none => e

/-- The note `n` struck on the channel, then the memory that sounds it stored, if there is a note. -/
def struckOpt (e : Engine) (key : InputId) (m : AxisMemory) (pos : Position) (channel : UInt8) :
    Option UInt8 → Engine
  | some n =>
    (e.push (.noteOn channel n pos.velocity)).storeAxis key { m with note := some ⟨channel, n⟩ }
  | none => e

/-- The action let go of, if there is one. -/
def releasedOpt (e : Engine) : Option Action → Engine
  | some a => e.released a
  | none => e

/-- The action pressed, if there is one. -/
def pressedOpt (e : Engine) : Option Action → Engine
  | some a => e.pressed a
  | none => e

/-- What a sample does by the role of its binding, once its memory `m` (holding the sample) is
stored; `pos` is the position and `channel` the channel of the binding, `value` the shaped sample
and `centered` the sample with its rest point at 0. -/
def played (e : Engine) (key : InputId) (m : AxisMemory) (pos : Position) (channel : UInt8)
    (signed : Bool) (value centered : Float) : AxisRole → Engine
  | .controller cc ccNeg twoSided _ =>
    if twoSided then
      let side := if centered < 0.0 then Side.negative else Side.positive
      ((e.leftSide channel cc ccNeg side m.side).storeAxis key { m with side := some side }).push
        (.controlChange channel (side.controller cc ccNeg) (unitToSeven centered.abs))
    else
      e.push (.controlChange channel cc
        (unitToSeven (if signed then (value + 1.0) / 2.0 else value)))
  | .pitchBend _ => e.push (.pitchBend channel centered)
  | .note note noteNeg twoSided =>
    let zone := Zone.ofLevel (if twoSided then centered else value) twoSided
    if zone == m.zone then e
    else
      ((e.storeAxis key { m with zone, note := none }).silencedOpt m.note).struckOpt key
        { m with zone } pos channel ((zone.pick (some note) (some noteNeg)).bind (pos.transpose · 0))
  | .action action actionNeg twoSided =>
    let zone := Zone.ofLevel (if twoSided then centered else value) twoSided
    if zone == m.zone then e
    else
      let next := zone.pick (some action) actionNeg
      ((e.storeAxis key { m with zone, action := next }).releasedOpt m.action).pressedOpt next

/-- A sample of an axis with known bounds: read under the binding of the active layer; dropped
when it repeats the last sample of the axis, or when learning is on and it is nearer rest than
half the scale; otherwise stored in the axis's memory and played. -/
def sampled (e : Engine) (key : InputId) (raw : Int) (bounds : Bounds) : Engine :=
  match e.layer? with
  | none => e
  | some layer =>
    match layer.axes.find? key.handler key.code with
    | none => e
    | some binding =>
      let deadzone := (layer.deadzones.find? key.handler key.code).getD e.profile.defaults.deadzone
      let value := EngineM.shape binding bounds deadzone raw
      let r := e.recallAxis key e.position.mapping
      if EngineM.sameSample r.1.last value then r.2
      else if e.position.learning && value.abs < 0.5 then r.2
      else
        let m := { r.1 with last := some value }
        (r.2.storeAxis key m).played key m e.position (e.position.channelFor binding.channelOffset)
          bounds.isSigned value (if bounds.isSigned then value else value * 2.0 - 1.0) binding.role

/-- An axis moved: a sample without known bounds does nothing; any other settles the axis, then
is sampled. -/
def moved (e : Engine) (key : InputId) (raw : Int) : Option Bounds → Engine
  | none => e
  | some bounds => (e.settled key).sampled key raw bounds

/-- The current status published. -/
def published (e : Engine) : Engine := { e with shown := e.status }

/-- An input event handled, then the status published. -/
def handled (e : Engine) : InputEvent → Engine
  | .key key value => (e.keyed key value).published
  | .axis key raw bounds => (e.moved key raw bounds).published

end Engine

/-! ## Runs -/

namespace EngineM

theorem get_bind_run {α : Type} (f : Engine → EngineM α) (e : Engine) :
    (get >>= f).run e = (f e).run e := rfl

theorem handleAxis_run (key : InputId) (raw : Int) (bounds : Option Bounds) (e : Engine) :
    (handleAxis key raw bounds).run e = pure ((), e.moved key raw bounds) := by
  cases bounds with
  | none => rfl
  | some bounds =>
    unfold handleAxis
    dsimp only
    rw [StateT.run_bind, settleAxis_run, pure_bind, get_bind_run, Engine.moved, Engine.sampled]
    dsimp only
    generalize e.settled key = s
    cases s.layer? with
    | none => rfl
    | some layer =>
      dsimp only
      cases layer.axes.find? key.handler key.code with
      | none => rfl
      | some binding =>
        dsimp only
        generalize (layer.deadzones.find? key.handler key.code).getD s.profile.defaults.deadzone = dz
        generalize shape binding bounds dz raw = value
        rw [StateT.run_bind, recallAxis_run, pure_bind]
        generalize s.recallAxis key s.position.mapping = r
        by_cases hsame : sameSample r.1.last value = true
        · simp only [hsame, if_true]
          rfl
        by_cases hlearn : (s.position.learning && decide (value.abs < 0.5)) = true
        · simp only [hsame, hlearn, if_true, if_false, Bool.false_eq_true]
          rfl
        simp only [hsame, hlearn, if_false, Bool.false_eq_true]
        rw [StateT.run_bind, storeAxis_run, pure_bind]
        generalize (if bounds.isSigned = true then value else value * 2.0 - 1.0) = centered
        cases binding.role with
        | controller cc ccNeg twoSided flip =>
          cases twoSided
          · rfl
          dsimp only [Engine.played, if_true]
          cases r.1.side with
          | none => rfl
          | some prev =>
            dsimp only [Engine.leftSide]
            by_cases hturn : (prev != if centered < 0.0 then Side.negative else Side.positive) = true
            · simp only [hturn, if_true]
              rfl
            · simp only [hturn, if_false, Bool.false_eq_true]
              rfl
        | pitchBend flip => rfl
        | note n nNeg twoSided =>
          dsimp only [Engine.played]
          generalize Zone.ofLevel (if twoSided = true then centered else value) twoSided = zone
          by_cases hz : (zone == r.1.zone) = true
          · simp only [hz, if_true]
            rfl
          simp only [hz, if_false, Bool.false_eq_true, StateT.run_bind, storeAxis_run, pure_bind]
          cases zone with
          | middle => cases r.1.note <;> rfl
          | high =>
            dsimp only [Zone.pick, Option.bind]
            cases r.1.note <;> dsimp only <;> cases s.position.transpose n 0 <;> rfl
          | low =>
            dsimp only [Zone.pick, Option.bind]
            cases r.1.note <;> dsimp only <;> cases s.position.transpose nNeg 0 <;> rfl
        | action a aNeg twoSided =>
          dsimp only [Engine.played]
          generalize Zone.ofLevel (if twoSided = true then centered else value) twoSided = zone
          by_cases hz : (zone == r.1.zone) = true
          · simp only [hz, if_true]
            rfl
          simp only [hz, if_false, Bool.false_eq_true, StateT.run_bind, storeAxis_run, pure_bind]
          cases zone with
          | middle =>
            cases r.1.action with
            | none => rfl
            | some prev => simp only [StateT.run_bind, releaseAction_run, pure_bind]; rfl
          | high =>
            cases r.1.action with
            | none => simp only [pressAction_run]; rfl
            | some prev =>
              simp only [StateT.run_bind, releaseAction_run, pressAction_run, pure_bind]; rfl
          | low =>
            cases aNeg with
            | none =>
              cases r.1.action with
              | none => rfl
              | some prev => simp only [StateT.run_bind, releaseAction_run, pure_bind]; rfl
            | some b =>
              cases r.1.action with
              | none => simp only [pressAction_run]; rfl
              | some prev =>
                simp only [StateT.run_bind, releaseAction_run, pressAction_run, pure_bind]; rfl

theorem publish_run (e : Engine) : publish.run e = pure ((), e.published) := rfl

theorem handle_run (ev : InputEvent) (e : Engine) : (handle ev).run e = pure ((), e.handled ev) := by
  cases ev with
  | key key value => simp only [handle, StateT.run_bind, handleKey_run, publish_run, pure_bind]; rfl
  | axis key raw bounds =>
    simp only [handle, StateT.run_bind, handleAxis_run, publish_run, pure_bind]; rfl

end EngineM

/-! ## What a sample leaves alone -/

namespace Engine

variable (e : Engine)

theorem leftSide_keeps {β : Type} (g : Engine → β) (hp : ∀ e r, g (e.push r) = g e)
    (channel cc ccNeg : UInt8) (side : Side) (prev : Option Side) :
    g (e.leftSide channel cc ccNeg side prev) = g e := by
  cases prev with
  | some prev => rw [leftSide, apply_ite g, hp, ite_self]
  | none => rfl

theorem silencedOpt_keeps {β : Type} (g : Engine → β) (hp : ∀ e r, g (e.push r) = g e)
    (v : Option Voice) : g (e.silencedOpt v) = g e := by
  cases v with
  | some v => exact hp e _
  | none => rfl

theorem struckOpt_keeps {β : Type} (g : Engine → β) (hs : ∀ e k m, g (e.storeAxis k m) = g e)
    (hp : ∀ e r, g (e.push r) = g e) (key : InputId) (m : AxisMemory) (pos : Position)
    (channel : UInt8) (n : Option UInt8) : g (e.struckOpt key m pos channel n) = g e := by
  cases n with
  | some n => rw [struckOpt, hs, hp]
  | none => rfl

theorem releasedOpt_keeps {β : Type} (g : Engine → β) (hr : ∀ e a, g (e.released a) = g e)
    (prev : Option Action) : g (e.releasedOpt prev) = g e := by
  cases prev with
  | some a => exact hr e a
  | none => rfl

theorem pressedOpt_keeps {β : Type} (g : Engine → β) (hpr : ∀ e a, g (e.pressed a) = g e)
    (next : Option Action) : g (e.pressedOpt next) = g e := by
  cases next with
  | some a => exact hpr e a
  | none => rfl

/-- A field that storing a memory, sending, and releasing and pressing actions all keep, a sample
played keeps. -/
theorem played_keeps {β : Type} (g : Engine → β) (hs : ∀ e k m, g (e.storeAxis k m) = g e)
    (hp : ∀ e r, g (e.push r) = g e) (hr : ∀ e a, g (e.released a) = g e)
    (hpr : ∀ e a, g (e.pressed a) = g e) (key : InputId) (m : AxisMemory) (pos : Position)
    (channel : UInt8) (signed : Bool) (value centered : Float) (role : AxisRole) :
    g (e.played key m pos channel signed value centered role) = g e := by
  cases role with
  | controller cc ccNeg twoSided flip =>
    cases twoSided with
    | false => exact hp _ _
    | true =>
      dsimp only [played]
      rw [if_pos rfl, hp, hs, leftSide_keeps _ g hp]
  | pitchBend flip => exact hp _ _
  | note n nNeg twoSided =>
    dsimp only [played]
    rw [apply_ite g, struckOpt_keeps _ g hs hp, silencedOpt_keeps _ g hp, hs, ite_self]
  | action a aNeg twoSided =>
    dsimp only [played]
    rw [apply_ite g, pressedOpt_keeps _ g hpr, releasedOpt_keeps _ g hr, hs, ite_self]

/-- What a sample does: nothing, only recall the memory of the axis, or, under a binding of the
active layer, store the recalled memory with the new sample and play it. -/
theorem sampled_cases (key : InputId) (raw : Int) (bounds : Bounds) :
    e.sampled key raw bounds = e ∨
      e.sampled key raw bounds = (e.recallAxis key e.position.mapping).2 ∨
      ∃ (layer : Layer) (b : AxisBinding) (value : Float), e.layer? = some layer ∧
        layer.axes.find? key.handler key.code = some b ∧
        e.sampled key raw bounds =
          (e.storeAxis key { (e.recallAxis key e.position.mapping).1 with last := some value }).played
            key { (e.recallAxis key e.position.mapping).1 with last := some value } e.position
            (e.position.channelFor b.channelOffset) bounds.isSigned value
            (if bounds.isSigned then value else value * 2.0 - 1.0) b.role := by
  unfold sampled
  split
  · exact .inl rfl
  · rename_i layer hl
    split
    · exact .inl rfl
    · rename_i b hb
      dsimp only
      split
      · exact .inr (.inl rfl)
      · split
        · exact .inr (.inl rfl)
        · refine .inr (.inr ⟨layer, b, EngineM.shape b bounds
            ((layer.deadzones.find? key.handler key.code).getD e.profile.defaults.deadzone) raw,
            hl, hb, ?_⟩)
          rw [recallAxis_storeAxis]

theorem sampled_keeps {β : Type} (g : Engine → β) (hs : ∀ e k m, g (e.storeAxis k m) = g e)
    (hp : ∀ e r, g (e.push r) = g e) (hr : ∀ e a, g (e.released a) = g e)
    (hpr : ∀ e a, g (e.pressed a) = g e) (key : InputId) (raw : Int) (bounds : Bounds) :
    g (e.sampled key raw bounds) = g e := by
  have hrec : ∀ layer, g (e.recallAxis key layer).2 = g e := fun layer => by
    unfold recallAxis; split
    · rfl
    · exact hs _ _ _
  unfold sampled
  split
  · rfl
  · split
    · rfl
    · dsimp only
      split
      · exact hrec _
      · split
        · exact hrec _
        · rw [played_keeps _ g hs hp hr hpr, hs, hrec]

/-- A field that storing a memory, sending, and releasing and pressing actions all keep, an axis
sample keeps. -/
theorem moved_keeps {β : Type} (g : Engine → β) (hs : ∀ e k m, g (e.storeAxis k m) = g e)
    (hp : ∀ e r, g (e.push r) = g e) (hr : ∀ e a, g (e.released a) = g e)
    (hpr : ∀ e a, g (e.pressed a) = g e) (key : InputId) (raw : Int) (bounds : Option Bounds) :
    g (e.moved key raw bounds) = g e := by
  cases bounds with
  | none => rfl
  | some bounds =>
    rw [moved, sampled_keeps _ g hs hp hr hpr]
    exact settled_keeps e g hs hp hr key

@[simp] theorem moved_profile (key : InputId) (raw : Int) (bounds : Option Bounds) :
    (e.moved key raw bounds).profile = e.profile :=
  moved_keeps e profile (by simp) (by simp) (by simp) (by simp) key raw bounds
@[simp] theorem moved_heldKeys (key : InputId) (raw : Int) (bounds : Option Bounds) :
    (e.moved key raw bounds).heldKeys = e.heldKeys :=
  moved_keeps e heldKeys (by simp) (by simp) (by simp) (by simp) key raw bounds
@[simp] theorem moved_exitRequested (key : InputId) (raw : Int) (bounds : Option Bounds) :
    (e.moved key raw bounds).exitRequested = e.exitRequested :=
  moved_keeps e exitRequested (by simp) (by simp) (by simp) (by simp) key raw bounds

@[simp] theorem published_profile : e.published.profile = e.profile := rfl
@[simp] theorem published_position : e.published.position = e.position := rfl
@[simp] theorem published_notes : e.published.notes = e.notes := rfl
@[simp] theorem published_counts : e.published.counts = e.counts := rfl
@[simp] theorem published_axes : e.published.axes = e.axes := rfl
@[simp] theorem published_heldKeys : e.published.heldKeys = e.heldKeys := rfl
@[simp] theorem published_exitRequested : e.published.exitRequested = e.exitRequested := rfl
@[simp] theorem published_outbox : e.published.outbox = e.outbox := rfl

/-- The engine and the requests of a call on an event: the event handled on the engine with its
outbox emptied. -/
theorem request_handle (ev : InputEvent) :
    e.request (EngineM.handle ev) =
      ({ ({ e with outbox := #[] } : Engine).handled ev with outbox := #[] },
        (({ e with outbox := #[] } : Engine).handled ev).outbox.toList) := by
  simp only [request, EngineM.handle_run]
  rfl

/-- The engine after an event: the event handled on the engine with its outbox emptied. -/
theorem process_fst (ev : InputEvent) :
    (e.process ev).1 = { ({ e with outbox := #[] } : Engine).handled ev with outbox := #[] } := by
  simp only [process, runStep, request_handle]

end Engine

end KeyMidi
