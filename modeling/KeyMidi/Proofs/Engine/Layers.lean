import Mathlib
import KeyMidi.Proofs.Engine.Collision
import KeyMidi.Proofs.Engine.Silence
/-!
# Axis notes stay with their layer

An axis keeps its memory under the layer it was moved in. `Engine.NotesCurrent e` says that every
axis that sounds a note has its memory under the active layer.

The layer changes only when an action is pressed, and then the press takes the notes of the axes
under every other layer (`NotesCurrent.pressed`); a panic silences every axis. An axis whose memory
is under another layer is settled before it moves, so the memory it moves with is under the active
layer (`settled_recall_layer`), and a note it starts is stored there (`NotesCurrent.played`).
So every engine of a run keeps the invariant (`Run.notesCurrent`), and, with the notes a run has
sent (`Run.held_mem`), every note the listener still hears held from an axis is one of an axis
under the active layer: `Run.axis_notes_under_active_layer`.
-/

namespace KeyMidi

open Std.Do KeyMidi.Analog

namespace Engine

/-- Every axis that sounds a note has its memory under the active layer. -/
def NotesCurrent (e : Engine) : Prop :=
  ∀ x ∈ e.axes, x.2.note ≠ none → x.2.layer = e.position.mapping

variable {e e' : Engine}

/-! ## Axes silenced -/

/-- An axis that still sounds once the axes are silenced was there, and the layer kept is its
layer. -/
theorem mem_silenceAxes_of_note {keep : Option Nat} {x : InputId × AxisMemory}
    (hx : x ∈ (e.silenceAxes keep).axes) (hnote : x.2.note ≠ none) :
    x ∈ e.axes ∧ keep = some x.2.layer := by
  obtain ⟨y, hy, rfl⟩ := List.mem_map.mp hx
  by_cases hs : y.2.sounds keep
  · simp [hs, AxisMemory.silence] at hnote
  · simp only [hs, Bool.false_eq_true, if_false] at hnote ⊢
    refine ⟨hy, ?_⟩
    have hsome : y.2.note.isSome = true := Option.isSome_iff_ne_none.mpr hnote
    cases keep with
    | none => simp [AxisMemory.sounds, hsome] at hs
    | some l => simpa [AxisMemory.sounds, hsome] using hs

/-! ## Keeping the invariant -/

theorem NotesCurrent.frame (hn : e.NotesCurrent) (ha : e'.axes = e.axes)
    (hm : e'.position.mapping = e.position.mapping) : e'.NotesCurrent := by
  intro x hx hnote
  rw [hm]
  exact hn x (ha ▸ hx) hnote

@[simp] theorem notesCurrent_push (r : Request) : (e.push r).NotesCurrent ↔ e.NotesCurrent :=
  Iff.rfl

theorem NotesCurrent.push (hn : e.NotesCurrent) (r : Request) : (e.push r).NotesCurrent := hn

theorem NotesCurrent.pushAll (hn : e.NotesCurrent) (rs : List Request) :
    (e.pushAll rs).NotesCurrent :=
  hn.frame (by simp) (by simp)

theorem NotesCurrent.silenceAxes (hn : e.NotesCurrent) (keep : Option Nat) :
    (e.silenceAxes keep).NotesCurrent := fun x hx hnote =>
  hn x (mem_silenceAxes_of_note hx hnote).1 hnote

/-- Silencing the axes under every layer but the active one leaves the invariant, whatever held
before. -/
theorem notesCurrent_silenceAxes_active (e : Engine) :
    (e.silenceAxes (some e.position.mapping)).NotesCurrent := fun _ hx hnote =>
  (Option.some.inj (mem_silenceAxes_of_note hx hnote).2).symm

theorem notesCurrent_silenceAxes_none (e : Engine) : (e.silenceAxes none).NotesCurrent :=
  fun _ hx hnote => nomatch (mem_silenceAxes_of_note hx hnote).2

theorem notesCurrent_takeNotes_active (e : Engine) :
    (e.takeNotes (some e.position.mapping)).NotesCurrent :=
  (notesCurrent_silenceAxes_active e).pushAll _

theorem notesCurrent_releasedAll (e : Engine) : e.releasedAll.NotesCurrent :=
  (notesCurrent_silenceAxes_none e).frame (releasedAll_axes e) (by simp)

/-- A memory stored under the active layer, or one that sounds nothing. -/
theorem NotesCurrent.storeAxis (hn : e.NotesCurrent) (key : InputId) {m : AxisMemory}
    (hm : m.note ≠ none → m.layer = e.position.mapping) : (e.storeAxis key m).NotesCurrent := by
  intro x hx hnote
  rw [storeAxis_position]
  rcases mem_storeAxis_axes e hx with rfl | hx
  · exact hm hnote
  · exact hn x hx hnote

theorem NotesCurrent.recallAxis (hn : e.NotesCurrent) (key : InputId) (layer : Nat) :
    (e.recallAxis key layer).2.NotesCurrent := by
  unfold Engine.recallAxis
  split
  · exact hn
  · exact hn.storeAxis key fun h => (h rfl).elim

theorem NotesCurrent.released (hn : e.NotesCurrent) (a : Action) : (e.released a).NotesCurrent :=
  hn.frame (by simp) (by simp)

/-- A press that keeps the layer touches the axes only to silence them all. -/
theorem NotesCurrent.applied (hn : e.NotesCurrent) {a : Action}
    (hm : (e.applied a).position.mapping = e.position.mapping) : (e.applied a).NotesCurrent := by
  rcases e.applied_axes a with ha | ha
  · exact hn.frame ha hm
  · exact (notesCurrent_silenceAxes_none e).frame ha hm

/-- A press that changes the layer takes the notes of the axes under the other layers. -/
theorem NotesCurrent.pressed (hn : e.NotesCurrent) (a : Action) : (e.pressed a).NotesCurrent := by
  rcases e.pressed_cases a with ⟨hm, h⟩ | ⟨-, h⟩ <;> rw [h]
  · exact hn.applied hm
  · exact notesCurrent_takeNotes_active _

/-! ## Settling an axis -/

theorem axisMemory?_released (key : InputId) (a : Action) :
    (e.released a).axisMemory? key = e.axisMemory? key := by
  simp [axisMemory?]

/-- Once settled, the memory of an axis is under the active layer. -/
theorem settled_memory_layer {key : InputId} {m : AxisMemory}
    (hm : (e.settled key).axisMemory? key = some m) : m.layer = e.position.mapping := by
  unfold settled at hm
  split at hm
  · simp_all
  · rename_i m₀ hm₀
    split at hm
    · simp_all
    · dsimp only at hm
      split at hm <;> split at hm <;>
        simp only [axisMemory?_released, axisMemory?_push, axisMemory?_storeAxis_self,
          Option.some.injEq] at hm <;>
        rw [← hm]

/-- The memory an axis moves with, once settled, is under the active layer. -/
theorem settled_recall_layer (key : InputId) :
    ((e.settled key).recallAxis key (e.settled key).position.mapping).1.layer =
      (e.settled key).position.mapping := by
  unfold Engine.recallAxis
  split
  · rename_i m hm
    rw [settled_mapping]
    exact settled_memory_layer hm
  · rfl

theorem NotesCurrent.settled (hn : e.NotesCurrent) (key : InputId) : (e.settled key).NotesCurrent := by
  unfold Engine.settled
  split
  · exact hn
  · split
    · exact hn
    · have h₁ : (e.storeAxis key { layer := e.position.mapping }).NotesCurrent :=
        hn.storeAxis key fun h => (h rfl).elim
      dsimp only
      split <;> split
      · exact (h₁.push _).released _
      · exact h₁.released _
      · exact h₁.push _
      · exact h₁

theorem NotesCurrent.releaseKey (hn : e.NotesCurrent) (key : InputId) :
    (e.releaseKey key).NotesCurrent :=
  hn.frame (by simp) (by simp)

theorem NotesCurrent.pressKey (hn : e.NotesCurrent) (key : InputId) (t : NoteTarget) :
    (e.pressKey key t).NotesCurrent :=
  hn.frame (by simp) (by simp)

theorem NotesCurrent.holdKey (hn : e.NotesCurrent) (key : InputId) : (e.holdKey key).NotesCurrent :=
  hn.frame (by simp) (by simp)

theorem NotesCurrent.keyed (hn : e.NotesCurrent) (key : InputId) (value : Int) :
    (e.keyed key value).NotesCurrent := by
  have he : ({ e with heldKeys := e.heldKeys.erase key } : Engine).NotesCurrent := hn
  unfold Engine.keyed
  split_ifs
  · split
    · exact he.released _
    · exact he.releaseKey key
  · split
    · exact (hn.holdKey key).pressed _
    · split
      · exact (hn.holdKey key).pressKey key _
      · exact hn.holdKey key
  · exact hn

/-! ## An axis sample -/

theorem NotesCurrent.leftSide (hn : e.NotesCurrent) (channel cc ccNeg : UInt8) (side : Side)
    (prev : Option Side) : (e.leftSide channel cc ccNeg side prev).NotesCurrent :=
  hn.frame (leftSide_keeps e axes (fun _ _ => rfl) channel cc ccNeg side prev)
    (leftSide_keeps e (·.position.mapping) (fun _ _ => rfl) channel cc ccNeg side prev)

theorem NotesCurrent.silencedOpt (hn : e.NotesCurrent) (v : Option Voice) :
    (e.silencedOpt v).NotesCurrent := by
  cases v with
  | some v => exact hn.push _
  | none => exact hn

/-- A note struck stores the memory under the active layer. -/
theorem NotesCurrent.struckOpt (hn : e.NotesCurrent) (key : InputId) {m : AxisMemory}
    (hl : m.layer = e.position.mapping) (pos : Position) (channel : UInt8) (n : Option UInt8) :
    (e.struckOpt key m pos channel n).NotesCurrent := by
  cases n with
  | some n => exact (hn.push _).storeAxis key fun _ => hl
  | none => exact hn

theorem NotesCurrent.releasedOpt (hn : e.NotesCurrent) (a : Option Action) :
    (e.releasedOpt a).NotesCurrent := by
  cases a with
  | some a => exact hn.released a
  | none => exact hn

theorem NotesCurrent.pressedOpt (hn : e.NotesCurrent) (a : Option Action) :
    (e.pressedOpt a).NotesCurrent := by
  cases a with
  | some a => exact hn.pressed a
  | none => exact hn

/-- A sample played with a memory under the active layer stores every memory under it. -/
theorem NotesCurrent.played (hn : e.NotesCurrent) {key : InputId} {m : AxisMemory}
    (hl : m.layer = e.position.mapping) (pos : Position) (channel : UInt8) (signed : Bool)
    (value centered : Float) (role : AxisRole) :
    (e.played key m pos channel signed value centered role).NotesCurrent := by
  cases role with
  | controller cc ccNeg twoSided flip =>
    cases twoSided with
    | false => exact hn.push _
    | true =>
      dsimp only [Engine.played]
      rw [if_pos rfl]
      refine ((hn.leftSide channel cc ccNeg _ m.side).storeAxis key fun _ => ?_).push _
      rw [leftSide_keeps e (·.position.mapping) (fun _ _ => rfl)]
      exact hl
  | pitchBend flip => exact hn.push _
  | note n nNeg twoSided =>
    dsimp only [Engine.played]
    generalize Zone.ofLevel (if twoSided then centered else value) twoSided = zone
    split
    · exact hn
    · refine ((hn.storeAxis key fun h => (h rfl).elim).silencedOpt m.note).struckOpt key ?_ pos
        channel _
      rw [silencedOpt_keeps _ (·.position.mapping) (fun _ _ => rfl), storeAxis_position]
      exact hl
  | action a aNeg twoSided =>
    dsimp only [Engine.played]
    generalize Zone.ofLevel (if twoSided then centered else value) twoSided = zone
    split
    · exact hn
    · refine ((hn.storeAxis key fun _ => ?_).releasedOpt m.action).pressedOpt _
      exact hl

/-- A sample of an axis whose memory is under the active layer. -/
theorem NotesCurrent.sampled (hn : e.NotesCurrent) {key : InputId}
    (hr : (e.recallAxis key e.position.mapping).1.layer = e.position.mapping) (raw : Int)
    (bounds : Analog.Bounds) : (e.sampled key raw bounds).NotesCurrent := by
  rcases e.sampled_cases key raw bounds with hs | hs | ⟨layer, b, value, -, -, hs⟩ <;> rw [hs]
  · exact hn
  · exact hn.recallAxis key _
  · refine (hn.storeAxis key fun _ => ?_).played ?_ _ _ _ _ _ _
    · exact hr
    · rw [storeAxis_position]
      exact hr

/-- The axis is settled first, so it moves with a memory under the active layer. -/
theorem NotesCurrent.moved (hn : e.NotesCurrent) (key : InputId) (raw : Int)
    (bounds : Option Analog.Bounds) : (e.moved key raw bounds).NotesCurrent := by
  cases bounds with
  | none => exact hn
  | some bounds => exact (hn.settled key).sampled (settled_recall_layer key) raw bounds

theorem NotesCurrent.handled (hn : e.NotesCurrent) (ev : InputEvent) :
    (e.handled ev).NotesCurrent := by
  cases ev with
  | key key value => exact hn.keyed key value
  | axis key raw bounds => exact hn.moved key raw bounds

end Engine

namespace EngineM

theorem handle_notesCurrent (ev : InputEvent) :
    ⦃fun e => ⌜e.NotesCurrent⌝⦄ handle ev ⦃⇓ _ e => ⌜e.NotesCurrent⌝⦄ :=
  triple_of_run fun e hn => by
    rw [handle_run]
    exact hn.handled ev

theorem releaseAll_notesCurrent :
    ⦃fun e => ⌜e.NotesCurrent⌝⦄ releaseAll ⦃⇓ _ e => ⌜e.NotesCurrent⌝⦄ :=
  triple_of_run fun e _ => by
    rw [releaseAll_run]
    exact Engine.notesCurrent_releasedAll e

end EngineM

namespace Engine

variable {p : Profile} {e : Engine}

theorem NotesCurrent.request (hn : e.NotesCurrent) {step : EngineM Unit}
    (hstep : ⦃fun e => ⌜e.NotesCurrent⌝⦄ step ⦃⇓ _ e => ⌜e.NotesCurrent⌝⦄) :
    (e.request step).1.NotesCurrent :=
  EngineM.post_of_triple hstep hn

/-- Every engine of a run keeps the notes of its axes under the active layer. -/
theorem Run.notesCurrent {out : List Request} (hr : Run p e out) : e.NotesCurrent := by
  induction hr with
  | new => exact fun _ hx => nomatch hx
  | process ev _ ih => exact ih.request (EngineM.handle_notesCurrent ev)
  | flush _ ih => exact ih.request EngineM.releaseAll_notesCurrent

/-- **Axis notes do not outlive their layer.** In every run, an axis that sounds a note has its
memory under the active layer; so every note the listener still hears held is one of a key, or
one of an axis under the active layer: a note an axis sounded under another layer has been let
go of. -/
theorem Run.axis_notes_under_active_layer {out : List Request} (hr : Run p e out) :
    (∀ x ∈ e.axes, x.2.note ≠ none → x.2.layer = e.position.mapping) ∧
      ∀ w ∈ (heard out).held, w ∈ e.notes.voices ∨
        ∃ x ∈ e.axes, x.2.note = some w ∧ x.2.layer = e.position.mapping := by
  have hn := hr.notesCurrent
  refine ⟨hn, fun w hw => ?_⟩
  rcases hr.held_mem hw with hk | ⟨x, hx, hxw⟩
  · exact .inl hk
  · exact .inr ⟨x, hx, hxw, hn x hx (by simp [hxw])⟩

/-- An axis note sounds under the first layer; layer up lets go of it, and the axis, moved again,
starts afresh under the second layer and sounds its note there. -/
theorem Run.axis_notes_under_active_layer_sample :
    let evs : List InputEvent := [.axis ⟨"pad", 0⟩ 255 (some ⟨0, 255⟩), .key ⟨"kbd", 32⟩ 1,
      .axis ⟨"pad", 0⟩ 255 (some ⟨0, 255⟩)]
    let e := (Engine.new .sample).feed evs
    let out := (Engine.new .sample).requests evs
    out.map Request.packet = [.noteOn 0 72 64, .noteOff 0 72, .noteOn 0 74 64] ∧
      e.axes.map (fun x => (x.2.layer, x.2.note)) = [(1, some ⟨0, 74⟩)] ∧
      (∀ x ∈ e.axes, x.2.note ≠ none → x.2.layer = e.position.mapping) ∧
      ∀ w ∈ (heard out).held, w ∈ e.notes.voices ∨
        ∃ x ∈ e.axes, x.2.note = some w ∧ x.2.layer = e.position.mapping := by
  intro evs e out
  have hr : Run .sample e out := Run.feed_new .sample evs
  have hrun : out.map Request.packet = [.noteOn 0 72 64, .noteOff 0 72, .noteOn 0 74 64] ∧
      e.axes.map (fun x => (x.2.layer, x.2.note)) = [(1, some ⟨0, 74⟩)] := by
    decide +kernel
  exact ⟨hrun.1, hrun.2, Run.axis_notes_under_active_layer hr⟩

end Engine

end KeyMidi
