import Mathlib
import KeyMidi.Proofs.Engine.Effects
/-!
# Actions and settled axes as functions of the engine

The steps that press and release actions, and the one that settles an axis, do the same to every
engine they run on. As `Effects` does for notes, each is given here as a plain function of the
engine and its run is proved equal to it (`…_run`):

* `Engine.applied`: an action pressed; it is held, then its parameter is reset when its pair is
  complete (`Engine.resetTo`), or, held alone, it acts (`Engine.act`);
* `Engine.pressed`: the same, and a change of layer lets go of the notes that axes sound under
  other layers (`Engine.takeNotes`);
* `Engine.released`: an action let go of;
* `Engine.settled`: what an axis still sounds or holds under a layer that is no longer active,
  let go of;
* `Engine.keyed`: a key event, made of the steps above and those of `Effects`.

A property of the engine that such a function keeps, its step keeps: the triple is read off the
run (`EngineM.triple_of_run`).

None of these functions touches the keys held, the exit flag or the profile (the `…_heldKeys`,
`…_exitRequested` and `…_profile` lemmas, with those for the effects of `Effects`); a field that
the steps keep is kept by a fold of them, by settling an axis and, but for the keys held, by a
key event (`foldl_keeps`, `settled_keeps`, `keyed_keeps`). Only a panic or a change of layer
touches the axes, and then only silences some (`applied_axes`, `takeNotes_axes`); the actions
held change only by the action pressed or released (`applied_heldActions`,
`released_heldActions`).
-/

namespace KeyMidi

open Std.Do

/-- All Notes Off on every channel. -/
def Request.allNotesOff : List Request :=
  (List.range 16).map fun ch => .controlChange ch.toUInt8 123 0

namespace Engine

/-- The engine with its position moved. -/
def withPosition (e : Engine) (f : Position → Position) : Engine := { e with position := f e.position }

/-- A parameter set back to its default. -/
def resetTo (e : Engine) (par : Parameter) : Engine :=
  let d := e.profile.defaults
  match par with
  | .mapping => e.withPosition fun pos => { pos with mapping := d.mapping }
  | .octave => e.withPosition fun pos => { pos with octave := d.octave }
  | .semitone => e.withPosition fun pos => { pos with semitone := d.semitone }
  | .channel => e.withPosition fun pos => { pos with channel := d.channel }

/-- What an action does when it is the only one held. -/
def act (e : Engine) : Action → Engine
  | .panic => e.releasedAll.pushAll Request.allNotesOff
  | .octaveUp => e.withPosition fun pos => { pos with octave := Int8.stepUp pos.octave }
  | .octaveDown => e.withPosition fun pos => { pos with octave := Int8.stepDown pos.octave }
  | .semitoneUp => e.withPosition fun pos => { pos with semitone := Int8.stepUp pos.semitone }
  | .semitoneDown => e.withPosition fun pos => { pos with semitone := Int8.stepDown pos.semitone }
  | .channelUp => e.withPosition fun pos =>
      { pos with channel := ((pos.channel.toNat + 1) % 16).toUInt8 }
  | .channelDown => e.withPosition fun pos =>
      { pos with channel := ((pos.channel.toNat + 15) % 16).toUInt8 }
  | .mappingUp => e.withPosition fun pos =>
      { pos with mapping := min (pos.mapping + 1) (e.profile.layers.length - 1) }
  | .mappingDown => e.withPosition fun pos => { pos with mapping := pos.mapping - 1 }
  | .multinote => e
  | .ccLearning => e.withPosition fun pos => { pos with learning := true }

/-- An action joins those held. -/
def holdAction (e : Engine) (a : Action) : Engine :=
  e.withPosition fun pos => { pos with heldActions := a :: e.position.heldActions }

/-- An action pressed: nothing if it is held already; otherwise it is held, and then either the
parameter of a complete pair is reset, or the action acts if it is the only one held. -/
def applied (e : Engine) (a : Action) : Engine :=
  if e.position.heldActions.contains a then e
  else
    let held := a :: e.position.heldActions
    let e₁ := e.holdAction a
    match resetFor a held.contains with
    | some par => e₁.resetTo par
    | none => if held.length != 1 then e₁ else e₁.act a

/-- The notes of axes taken (of all layers, or only of other layers than `keep`), each with its
note off. -/
def takeNotes (e : Engine) (keep : Option Nat) : Engine :=
  (e.silenceAxes keep).pushAll ((e.takenNotes keep).map Voice.noteOff)

/-- An action pressed, and, if that changed the layer, the notes of axes under other layers
taken. -/
def pressed (e : Engine) (a : Action) : Engine :=
  let e₁ := e.applied a
  if e₁.position.mapping != e.position.mapping then e₁.takeNotes (some e₁.position.mapping)
  else e₁

/-- An action let go of, if it is held: letting go of multinote takes the chord of the keys
held, letting go of learning ends it. -/
def released (e : Engine) (a : Action) : Engine :=
  if e.position.heldActions.contains a then
    let e₁ := match a with
      | .multinote => e.withPosition fun pos => { pos with chord := e.notes.chordOffsets }
      | .ccLearning => e.withPosition fun pos => { pos with learning := false }
      | _ => e
    e₁.withPosition fun pos => { pos with heldActions := pos.heldActions.erase a }
  else e

/-- An axis whose memory belongs to another layer than the active one starts afresh under the
active layer; the note it sounded goes off and the action it held is let go of. -/
def settled (e : Engine) (key : InputId) : Engine :=
  match e.axisMemory? key with
  | none => e
  | some m =>
    if m.layer = e.position.mapping then e
    else
      let e₁ := e.storeAxis key { layer := e.position.mapping }
      let e₂ := match m.note with
        | some v => e₁.push v.noteOff
        | none => e₁
      match m.action with
      | some a => e₂.released a
      | none => e₂

/-- A key event: a release lets go of the key, then of its action or of its notes; a press holds
the key (requesting the exit if that completes the exit chord), then presses its action or
strikes its notes; any other value, such as a repeat, does nothing. -/
def keyed (e : Engine) (key : InputId) (value : Int) : Engine :=
  if value = 0 then
    let e₁ := { e with heldKeys := e.heldKeys.erase key }
    match e.profile.actions.find? key.handler key.code with
    | some a => e₁.released a
    | none => e₁.releaseKey key
  else if value = 1 then
    match e.profile.actions.find? key.handler key.code with
    | some a => (e.holdKey key).pressed a
    | none =>
      match e.layer?.bind (·.keys.find? key.handler key.code) with
      | some t => (e.holdKey key).pressKey key t
      | none => e.holdKey key
  else e

end Engine

/-! ## Runs -/

namespace EngineM

theorem move_run (f : Position → Position) (e : Engine) :
    (move f).run e = pure ((), e.withPosition f) := rfl

theorem reset_run (par : Parameter) (e : Engine) : (reset par).run e = pure ((), e.resetTo par) := by
  cases par <;> rfl

theorem applyAction_run (a : Action) (e : Engine) :
    (applyAction a).run e = pure ((), e.applied a) := by
  unfold applyAction Engine.applied
  simp only [StateT.run_bind, StateT.run_get, pure_bind]
  by_cases hc : e.position.heldActions.contains a
  · simp only [hc, if_true]; rfl
  · simp only [hc, Bool.false_eq_true, if_false, StateT.run_bind, move_run, pure_bind]
    cases resetFor a (a :: e.position.heldActions).contains with
    | some par => exact reset_run par _
    | none =>
      by_cases h1 : ((a :: e.position.heldActions).length != 1) = true
      · simp only [h1, if_true]; rfl
      · simp only [h1, Bool.false_eq_true, if_false]
        -- every action but the panic only moves the position
        cases a
        case panic => exact panic_run _
        all_goals rfl

theorem pressAction_run (a : Action) (e : Engine) :
    (pressAction a).run e = pure ((), e.pressed a) := by
  unfold pressAction Engine.pressed
  simp only [StateT.run_bind, StateT.run_get, pure_bind, applyAction_run]
  by_cases hm : ((e.applied a).position.mapping != e.position.mapping) = true
  · simp only [hm, if_true, StateT.run_bind, takeAxisNotes_run, sendAll_run, pure_bind]
    rfl
  · simp only [hm, Bool.false_eq_true, if_false]
    rfl

theorem releaseAction_run (a : Action) (e : Engine) :
    (releaseAction a).run e = pure ((), e.released a) := by
  unfold releaseAction Engine.released
  simp only [StateT.run_bind, StateT.run_get, pure_bind]
  by_cases hc : e.position.heldActions.contains a
  · simp only [hc, Bool.not_true, Bool.false_eq_true, if_false, if_true]
    cases a <;> rfl
  · simp only [hc, Bool.not_false, if_true, Bool.false_eq_true, if_false]
    rfl

theorem settleAxis_run (key : InputId) (e : Engine) :
    (settleAxis key).run e = pure ((), e.settled key) := by
  unfold settleAxis Engine.settled
  simp only [StateT.run_bind, StateT.run_get, pure_bind, axisMemory?_run]
  cases e.axisMemory? key with
  | none => rfl
  | some m =>
    by_cases hl : m.layer = e.position.mapping
    · simp [hl]
    · simp only [hl, beq_iff_eq, if_false, storeAxis_run, pure_bind, StateT.run_bind]
      cases m.note <;> cases m.action <;> simp [send_run, releaseAction_run]

theorem handleKey_run (key : InputId) (value : Int) (e : Engine) :
    (handleKey key value).run e = pure ((), e.keyed key value) := by
  unfold Engine.keyed
  by_cases h0 : value = 0
  · subst h0
    cases ha : e.profile.actions.find? key.handler key.code with
    | some a => simp only [if_true]; rw [handleKey_release_action_run ha, releaseAction_run]
    | none => simp only [if_true]; rw [handleKey_release_note_run ha]
  by_cases h1 : value = 1
  · subst h1
    cases ha : e.profile.actions.find? key.handler key.code with
    | some a => simp only [if_neg h0, if_true]; rw [handleKey_press_action_run ha, pressAction_run]
    | none =>
      cases ht : e.layer?.bind (·.keys.find? key.handler key.code) with
      | some t => simp only [if_neg h0, if_true]; rw [handleKey_press_note_run ha ht]
      | none => simp only [if_neg h0, if_true]; rw [handleKey_press_unbound_run ha ht]
  · simp only [if_neg h0, if_neg h1]
    exact handleKey_repeat_run h0 h1

/-- A triple read off the runs of a step: the step ends in an engine that meets the
postcondition whenever it starts in one that meets the precondition. -/
theorem triple_of_run {x : EngineM Unit} {P Q : Engine → Prop} (h : ∀ e, P e → Q (x.run e).2) :
    ⦃fun e => ⌜P e⌝⦄ x ⦃⇓ _ e => ⌜Q e⌝⦄ :=
  fun e he => h e he

end EngineM

/-! ## What the functions leave alone -/

namespace Engine

variable (e : Engine)

@[simp] theorem push_heldKeys (r : Request) : (e.push r).heldKeys = e.heldKeys := rfl
@[simp] theorem push_exitRequested (r : Request) : (e.push r).exitRequested = e.exitRequested := rfl
@[simp] theorem pushAll_heldKeys (rs : List Request) : (e.pushAll rs).heldKeys = e.heldKeys := by
  simp [pushAll_eq]
@[simp] theorem pushAll_exitRequested (rs : List Request) :
    (e.pushAll rs).exitRequested = e.exitRequested := by
  simp [pushAll_eq]
@[simp] theorem silenceAxes_heldKeys (keep : Option Nat) :
    (e.silenceAxes keep).heldKeys = e.heldKeys := rfl
@[simp] theorem silenceAxes_exitRequested (keep : Option Nat) :
    (e.silenceAxes keep).exitRequested = e.exitRequested := rfl
@[simp] theorem storeAxis_heldKeys (key : InputId) (m : AxisMemory) :
    (e.storeAxis key m).heldKeys = e.heldKeys := by
  unfold storeAxis; split <;> rfl
@[simp] theorem storeAxis_exitRequested (key : InputId) (m : AxisMemory) :
    (e.storeAxis key m).exitRequested = e.exitRequested := by
  unfold storeAxis; split <;> rfl
@[simp] theorem recallAxis_profile (key : InputId) (layer : Nat) :
    (e.recallAxis key layer).2.profile = e.profile := by
  unfold recallAxis; split <;> simp
@[simp] theorem recallAxis_position (key : InputId) (layer : Nat) :
    (e.recallAxis key layer).2.position = e.position := by
  unfold recallAxis; split <;> simp
@[simp] theorem recallAxis_heldKeys (key : InputId) (layer : Nat) :
    (e.recallAxis key layer).2.heldKeys = e.heldKeys := by
  unfold recallAxis; split <;> simp
@[simp] theorem recallAxis_exitRequested (key : InputId) (layer : Nat) :
    (e.recallAxis key layer).2.exitRequested = e.exitRequested := by
  unfold recallAxis; split <;> simp
@[simp] theorem releasedAll_heldKeys : e.releasedAll.heldKeys = e.heldKeys := by
  simp [releasedAll]
@[simp] theorem releasedAll_exitRequested : e.releasedAll.exitRequested = e.exitRequested := by
  simp [releasedAll]

/-- An axis after a memory is stored: the axis stored, or one that was there. -/
theorem mem_storeAxis_axes {key : InputId} {m : AxisMemory} {x : InputId × AxisMemory}
    (hx : x ∈ (e.storeAxis key m).axes) : x = (key, m) ∨ x ∈ e.axes := by
  unfold storeAxis at hx
  split at hx
  · obtain ⟨y, hy, rfl⟩ := List.mem_map.mp hx
    split
    · exact .inl rfl
    · exact .inr hy
  · rcases List.mem_append.mp hx with hx | hx
    · exact .inr hx
    · exact .inl (List.mem_singleton.mp hx)

/-- A field that each turn of a fold keeps is kept by the whole fold. -/
theorem foldl_keeps {α β : Type} (g : Engine → β) (f : Engine → α → Engine)
    (hf : ∀ e a, g (f e a) = g e) (l : List α) (e : Engine) : g (l.foldl f e) = g e := by
  induction l generalizing e with
  | nil => rfl
  | cons a l ih => rw [List.foldl_cons, ih, hf]

@[simp] theorem dropVoice_heldKeys (v : Voice) : (e.dropVoice v).heldKeys = e.heldKeys := by
  unfold dropVoice; split <;> rfl
@[simp] theorem dropVoice_exitRequested (v : Voice) :
    (e.dropVoice v).exitRequested = e.exitRequested := by
  unfold dropVoice; split <;> rfl
@[simp] theorem strikeVoice_heldKeys (vel : UInt8) (v : Voice) :
    (e.strikeVoice vel v).heldKeys = e.heldKeys := by
  unfold strikeVoice; dsimp only; split <;> split <;> rfl
@[simp] theorem strikeVoice_exitRequested (vel : UInt8) (v : Voice) :
    (e.strikeVoice vel v).exitRequested = e.exitRequested := by
  unfold strikeVoice; dsimp only; split <;> split <;> rfl
@[simp] theorem releaseKey_heldKeys (key : InputId) : (e.releaseKey key).heldKeys = e.heldKeys := by
  unfold releaseKey; split
  · rfl
  · exact foldl_keeps heldKeys dropVoice (fun _ _ => dropVoice_heldKeys _ _) _ _
@[simp] theorem releaseKey_exitRequested (key : InputId) :
    (e.releaseKey key).exitRequested = e.exitRequested := by
  unfold releaseKey; split
  · rfl
  · exact foldl_keeps exitRequested dropVoice (fun _ _ => dropVoice_exitRequested _ _) _ _
@[simp] theorem pressKey_heldKeys (key : InputId) (t : NoteTarget) :
    (e.pressKey key t).heldKeys = e.heldKeys := by
  have hf := foldl_keeps heldKeys (strikeVoice (e.releaseKey key).position.velocity)
    (fun _ _ => strikeVoice_heldKeys _ _ _) ((e.releaseKey key).position.pressVoices t)
    (e.releaseKey key)
  unfold pressKey; dsimp only; split <;> simpa using hf
@[simp] theorem pressKey_exitRequested (key : InputId) (t : NoteTarget) :
    (e.pressKey key t).exitRequested = e.exitRequested := by
  have hf := foldl_keeps exitRequested (strikeVoice (e.releaseKey key).position.velocity)
    (fun _ _ => strikeVoice_exitRequested _ _ _) ((e.releaseKey key).position.pressVoices t)
    (e.releaseKey key)
  unfold pressKey; dsimp only; split <;> simpa using hf
@[simp] theorem pressKey_profile (key : InputId) (t : NoteTarget) :
    (e.pressKey key t).profile = e.profile := by
  have hf := (foldl_strikeVoice_fields (e.releaseKey key) (e.releaseKey key).position.velocity
    ((e.releaseKey key).position.pressVoices t)).1
  unfold pressKey; dsimp only; split <;> simpa using hf
@[simp] theorem pressKey_position (key : InputId) (t : NoteTarget) :
    (e.pressKey key t).position = e.position := by
  have hf := (foldl_strikeVoice_fields (e.releaseKey key) (e.releaseKey key).position.velocity
    ((e.releaseKey key).position.pressVoices t)).2.1
  unfold pressKey; dsimp only; split <;> simpa using hf

/-- The keys held once a key is held: the key joins them unless it is among them. -/
theorem holdKey_heldKeys (key : InputId) : (e.holdKey key).heldKeys =
    if e.heldKeys.contains key then e.heldKeys else key :: e.heldKeys := by
  unfold holdKey; dsimp only; split_ifs <;> rfl

theorem mem_holdKey_heldKeys {key k : InputId} :
    k ∈ (e.holdKey key).heldKeys ↔ k = key ∨ k ∈ e.heldKeys := by
  rw [holdKey_heldKeys]
  split
  · rename_i h
    constructor
    · exact .inr
    · rintro (rfl | hk)
      · simpa using h
      · exact hk
  · simp

@[simp] theorem withPosition_profile (f : Position → Position) :
    (e.withPosition f).profile = e.profile := rfl
@[simp] theorem withPosition_position (f : Position → Position) :
    (e.withPosition f).position = f e.position := rfl
@[simp] theorem withPosition_notes (f : Position → Position) :
    (e.withPosition f).notes = e.notes := rfl
@[simp] theorem withPosition_axes (f : Position → Position) :
    (e.withPosition f).axes = e.axes := rfl
@[simp] theorem withPosition_outbox (f : Position → Position) :
    (e.withPosition f).outbox = e.outbox := rfl
@[simp] theorem withPosition_heldKeys (f : Position → Position) :
    (e.withPosition f).heldKeys = e.heldKeys := rfl
@[simp] theorem withPosition_exitRequested (f : Position → Position) :
    (e.withPosition f).exitRequested = e.exitRequested := rfl

@[simp] theorem holdAction_heldActions (a : Action) :
    (e.holdAction a).position.heldActions = a :: e.position.heldActions := rfl
@[simp] theorem holdAction_mapping (a : Action) :
    (e.holdAction a).position.mapping = e.position.mapping := rfl
@[simp] theorem holdAction_profile (a : Action) : (e.holdAction a).profile = e.profile := rfl
@[simp] theorem holdAction_axes (a : Action) : (e.holdAction a).axes = e.axes := rfl
@[simp] theorem holdAction_outbox (a : Action) : (e.holdAction a).outbox = e.outbox := rfl
@[simp] theorem holdAction_heldKeys (a : Action) : (e.holdAction a).heldKeys = e.heldKeys := rfl
@[simp] theorem holdAction_exitRequested (a : Action) :
    (e.holdAction a).exitRequested = e.exitRequested := rfl

@[simp] theorem resetTo_profile (par : Parameter) : (e.resetTo par).profile = e.profile := by
  cases par <;> rfl
@[simp] theorem resetTo_axes (par : Parameter) : (e.resetTo par).axes = e.axes := by
  cases par <;> rfl
@[simp] theorem resetTo_outbox (par : Parameter) : (e.resetTo par).outbox = e.outbox := by
  cases par <;> rfl
@[simp] theorem resetTo_heldKeys (par : Parameter) : (e.resetTo par).heldKeys = e.heldKeys := by
  cases par <;> rfl
@[simp] theorem resetTo_exitRequested (par : Parameter) :
    (e.resetTo par).exitRequested = e.exitRequested := by
  cases par <;> rfl
@[simp] theorem resetTo_heldActions (par : Parameter) :
    (e.resetTo par).position.heldActions = e.position.heldActions := by
  cases par <;> rfl

@[simp] theorem act_profile (a : Action) : (e.act a).profile = e.profile := by
  cases a <;> simp [act]
@[simp] theorem act_heldKeys (a : Action) : (e.act a).heldKeys = e.heldKeys := by
  cases a <;> simp [act]
@[simp] theorem act_exitRequested (a : Action) : (e.act a).exitRequested = e.exitRequested := by
  cases a <;> simp [act]
@[simp] theorem act_heldActions (a : Action) :
    (e.act a).position.heldActions = e.position.heldActions := by
  cases a <;> simp [act]

/-- Only the panic touches the axes, silencing every one that sounds. -/
theorem act_axes (a : Action) :
    (e.act a).axes = e.axes ∨ (e.act a).axes = (e.silenceAxes none).axes := by
  cases a
  case panic => exact .inr (by simp [act, releasedAll_axes])
  all_goals exact .inl rfl

/-- What a press leaves: the engine itself when the action is held already; otherwise the action
held, and then nothing more, a parameter reset, or the action acting. -/
theorem applied_cases (a : Action) : (a ∈ e.position.heldActions ∧ e.applied a = e) ∨
    a ∉ e.position.heldActions ∧
      (e.applied a = e.holdAction a ∨ (∃ par, e.applied a = (e.holdAction a).resetTo par) ∨
        e.applied a = (e.holdAction a).act a) := by
  unfold applied
  by_cases hc : e.position.heldActions.contains a
  · exact .inl ⟨by simpa using hc, if_pos hc⟩
  · refine .inr ⟨by simpa using hc, ?_⟩
    simp only [hc, Bool.false_eq_true, if_false]
    split
    · exact .inr (.inl ⟨_, rfl⟩)
    · split
      · exact .inl rfl
      · exact .inr (.inr rfl)

@[simp] theorem applied_profile (a : Action) : (e.applied a).profile = e.profile := by
  rcases e.applied_cases a with ⟨-, h⟩ | ⟨-, h | ⟨par, h⟩ | h⟩ <;> simp [h]
@[simp] theorem applied_heldKeys (a : Action) : (e.applied a).heldKeys = e.heldKeys := by
  rcases e.applied_cases a with ⟨-, h⟩ | ⟨-, h | ⟨par, h⟩ | h⟩ <;> simp [h]
@[simp] theorem applied_exitRequested (a : Action) :
    (e.applied a).exitRequested = e.exitRequested := by
  rcases e.applied_cases a with ⟨-, h⟩ | ⟨-, h | ⟨par, h⟩ | h⟩ <;> simp [h]

/-- The actions held after a press: the action joins them, unless it is held already. -/
theorem applied_heldActions (a : Action) : (e.applied a).position.heldActions =
    if a ∈ e.position.heldActions then e.position.heldActions
    else a :: e.position.heldActions := by
  rcases e.applied_cases a with ⟨ha, h⟩ | ⟨hn, h | ⟨par, h⟩ | h⟩
  · simp [h, ha]
  all_goals simp [h, hn]

/-- An action pressed alone is held, and no pair is complete: it acts. -/
theorem applied_of_none_held {e : Engine} (he : e.position.heldActions = []) (a : Action) :
    e.applied a = (e.holdAction a).act a := by
  have hpair : resetFor a [a].contains = none := by cases a <;> decide
  simp [applied, he, hpair]

/-- A press leaves the axes as they are, or silences every one that sounds. -/
theorem applied_axes (a : Action) :
    (e.applied a).axes = e.axes ∨ (e.applied a).axes = (e.silenceAxes none).axes := by
  rcases e.applied_cases a with ⟨-, h⟩ | ⟨-, h | ⟨par, h⟩ | h⟩
  · exact .inl (by rw [h])
  · exact .inl (by rw [h]; rfl)
  · exact .inl (by rw [h]; simp)
  · rw [h]
    rcases (e.holdAction a).act_axes a with h' | h' <;> rw [h']
    · exact .inl rfl
    · exact .inr rfl

@[simp] theorem takeNotes_profile (keep : Option Nat) :
    (e.takeNotes keep).profile = e.profile := by simp [takeNotes]
@[simp] theorem takeNotes_position (keep : Option Nat) :
    (e.takeNotes keep).position = e.position := by simp [takeNotes]
@[simp] theorem takeNotes_axes (keep : Option Nat) :
    (e.takeNotes keep).axes = (e.silenceAxes keep).axes := by simp [takeNotes]
@[simp] theorem takeNotes_heldKeys (keep : Option Nat) :
    (e.takeNotes keep).heldKeys = e.heldKeys := by simp [takeNotes]
@[simp] theorem takeNotes_exitRequested (keep : Option Nat) :
    (e.takeNotes keep).exitRequested = e.exitRequested := by simp [takeNotes]

/-- An action pressed, and the notes it takes on a change of layer. -/
theorem pressed_cases (a : Action) :
    ((e.applied a).position.mapping = e.position.mapping ∧ e.pressed a = e.applied a) ∨
      ((e.applied a).position.mapping ≠ e.position.mapping ∧
        e.pressed a = (e.applied a).takeNotes (some (e.applied a).position.mapping)) := by
  unfold pressed
  by_cases hm : (e.applied a).position.mapping = e.position.mapping
  · exact .inl ⟨hm, by simp [hm]⟩
  · exact .inr ⟨hm, by simp [hm]⟩

@[simp] theorem pressed_profile (a : Action) : (e.pressed a).profile = e.profile := by
  rcases e.pressed_cases a with ⟨-, h⟩ | ⟨-, h⟩ <;> simp [h]
@[simp] theorem pressed_heldKeys (a : Action) : (e.pressed a).heldKeys = e.heldKeys := by
  rcases e.pressed_cases a with ⟨-, h⟩ | ⟨-, h⟩ <;> simp [h]
@[simp] theorem pressed_exitRequested (a : Action) :
    (e.pressed a).exitRequested = e.exitRequested := by
  rcases e.pressed_cases a with ⟨-, h⟩ | ⟨-, h⟩ <;> simp [h]
@[simp] theorem pressed_position (a : Action) : (e.pressed a).position = (e.applied a).position := by
  rcases e.pressed_cases a with ⟨-, h⟩ | ⟨-, h⟩ <;> simp [h]

/-- A release moves the position only. -/
theorem released_eq_withPosition (a : Action) :
    e.released a = e.withPosition fun _ => (e.released a).position := by
  unfold released
  split
  · cases a <;> rfl
  · rfl

@[simp] theorem released_profile (a : Action) : (e.released a).profile = e.profile := by
  rw [released_eq_withPosition]; rfl
@[simp] theorem released_axes (a : Action) : (e.released a).axes = e.axes := by
  rw [released_eq_withPosition]; rfl
@[simp] theorem released_outbox (a : Action) : (e.released a).outbox = e.outbox := by
  rw [released_eq_withPosition]; rfl
@[simp] theorem released_heldKeys (a : Action) : (e.released a).heldKeys = e.heldKeys := by
  rw [released_eq_withPosition]; rfl
@[simp] theorem released_exitRequested (a : Action) :
    (e.released a).exitRequested = e.exitRequested := by
  rw [released_eq_withPosition]; rfl
@[simp] theorem released_mapping (a : Action) :
    (e.released a).position.mapping = e.position.mapping := by
  unfold released
  split
  · cases a <;> rfl
  · rfl

/-- A release takes the action out of those held. -/
theorem released_heldActions (a : Action) :
    (e.released a).position.heldActions = e.position.heldActions.erase a := by
  unfold released
  split
  · cases a <;> rfl
  · rename_i hc
    rw [List.erase_of_not_mem (by simpa using hc)]

/-- A field that releasing and pressing actions and notes all keep changes in a key event only as
holding or letting go of the key changes it. -/
theorem keyed_keeps {β : Type} (g : Engine → β) (hrel : ∀ e a, g (e.released a) = g e)
    (hrk : ∀ e k, g (e.releaseKey k) = g e) (hpr : ∀ e a, g (e.pressed a) = g e)
    (hpk : ∀ e k t, g (e.pressKey k t) = g e) (key : InputId) (value : Int) :
    g (e.keyed key value) =
      if value = 0 then g { e with heldKeys := e.heldKeys.erase key }
      else if value = 1 then g (e.holdKey key) else g e := by
  unfold keyed
  by_cases h0 : value = 0
  · simp only [if_pos h0]
    split <;> simp only [hrel, hrk]
  by_cases h1 : value = 1
  · simp only [if_neg h0, if_pos h1]
    split
    · exact hpr _ _
    · split
      · exact hpk _ _ _
      · rfl
  · simp only [if_neg h0, if_neg h1]

/-- A field that storing a memory, sending and releasing an action all keep is kept when an axis
is settled. -/
theorem settled_keeps {β : Type} (g : Engine → β) (hs : ∀ e k m, g (e.storeAxis k m) = g e)
    (hp : ∀ e r, g (e.push r) = g e) (hr : ∀ e a, g (e.released a) = g e) (key : InputId) :
    g (e.settled key) = g e := by
  unfold settled
  split
  · rfl
  · split
    · rfl
    · dsimp only
      split <;> split <;> simp only [hr, hp, hs]

@[simp] theorem settled_profile (key : InputId) : (e.settled key).profile = e.profile :=
  settled_keeps e profile (by simp) (by simp) (by simp) key
@[simp] theorem settled_heldKeys (key : InputId) : (e.settled key).heldKeys = e.heldKeys :=
  settled_keeps e heldKeys (by simp) (by simp) (by simp) key
@[simp] theorem settled_exitRequested (key : InputId) :
    (e.settled key).exitRequested = e.exitRequested :=
  settled_keeps e exitRequested (by simp) (by simp) (by simp) key
@[simp] theorem settled_mapping (key : InputId) :
    (e.settled key).position.mapping = e.position.mapping :=
  settled_keeps e (·.position.mapping) (by simp) (by simp) (by simp) key

end Engine

end KeyMidi
