import Mathlib
import KeyMidi.Engine.Process
import KeyMidi.Proofs.Notes.Ledger
/-!
# Engine steps as functions of the engine

A step of the engine that does the same to every engine it runs on is given here as a plain
function of the engine, and its run is proved equal to that function (`…_run`), so that the
steps that call it never unfold it again.

* `Engine.push`, `Engine.pushAll`: requests added to the outbox (`send`, `sendAll`);
* `Engine.releaseKey`: a key let go of, voice by voice (`Engine.dropVoice`), for `releaseNote`;
* `Engine.pressKey`: a key pressed: first let go of, then every voice of its chord struck
  (`Position.pressVoices`, `Engine.strikeVoice`), for `pressNote`;
* `Engine.takenNotes`, `Engine.silenceAxes`: the notes of axes taken, for `takeAxisNotes`;
* `Engine.releasedAll`: every note let go of, for `releaseAll` and `panic`;
* `Engine.axisMemory?`, `Engine.storeAxis`: the memory of an axis, for `axisMemory?`,
  `storeAxis` and `recallAxis`;
* `Engine.holdKey`: a key marked as held before a press plays, for `handleKey`.
-/

namespace KeyMidi

/-! ## Runs -/

namespace EngineM

/-- A run that only returns leaves the engine it ends in. -/
@[simp] theorem snd_pure (e : Engine) : (pure ((), e) : Id (Unit × Engine)).2 = e := rfl

/-- A loop whose body always goes on runs as a fold of the body. -/
theorem run_forIn {α β : Type} (l : List α) (b : β) (body : α → β → EngineM (ForInStep β))
    (g : β × Engine → α → β × Engine)
    (hb : ∀ a x e, (body a x).run e = pure (.yield (g (x, e) a).1, (g (x, e) a).2))
    (e : Engine) : (forIn l b body).run e = pure (l.foldl g (b, e)) := by
  induction l generalizing b e with
  | nil => rfl
  | cons a l ih =>
    simp only [List.forIn_cons, StateT.run_bind, hb, pure_bind, List.foldl_cons]
    exact ih _ _

/-- A loop over a list with nothing carried from one turn to the next. -/
theorem run_forIn_unit {α : Type} (l : List α) (body : α → PUnit → EngineM (ForInStep PUnit))
    (g : Engine → α → Engine) (hb : ∀ a e, (body a ⟨⟩).run e = pure (.yield ⟨⟩, g e a))
    (e : Engine) : (forIn l ⟨⟩ body).run e = pure (⟨⟩, l.foldl g e) := by
  induction l generalizing e with
  | nil => rfl
  | cons a l ih =>
    simp only [List.forIn_cons, StateT.run_bind, hb, pure_bind, List.foldl_cons]
    exact ih _

end EngineM

/-! ## Sending -/

namespace Engine

/-- The engine with one more request in its outbox. -/
def push (e : Engine) (r : Request) : Engine := { e with outbox := e.outbox.push r }

/-- The engine with requests added to its outbox, in order. -/
def pushAll (e : Engine) (rs : List Request) : Engine := rs.foldl push e

variable (e : Engine)

@[simp] theorem push_profile (r : Request) : (e.push r).profile = e.profile := rfl
@[simp] theorem push_position (r : Request) : (e.push r).position = e.position := rfl
@[simp] theorem push_notes (r : Request) : (e.push r).notes = e.notes := rfl
@[simp] theorem push_counts (r : Request) : (e.push r).counts = e.counts := rfl
@[simp] theorem push_axes (r : Request) : (e.push r).axes = e.axes := rfl
@[simp] theorem push_outbox (r : Request) :
    (e.push r).outbox.toList = e.outbox.toList ++ [r] := by
  simp [push]

/-- Requests pushed one by one are the outbox's own only, as a record update. -/
theorem pushAll_eq (rs : List Request) :
    e.pushAll rs = { e with outbox := ⟨e.outbox.toList ++ rs⟩ } := by
  induction rs generalizing e with
  | nil => simp [pushAll]
  | cons r rs ih =>
    simp only [pushAll, List.foldl_cons] at ih ⊢
    rw [ih]
    simp [push]

@[simp] theorem pushAll_profile (rs : List Request) : (e.pushAll rs).profile = e.profile := by
  simp [pushAll_eq]
@[simp] theorem pushAll_position (rs : List Request) : (e.pushAll rs).position = e.position := by
  simp [pushAll_eq]
@[simp] theorem pushAll_notes (rs : List Request) : (e.pushAll rs).notes = e.notes := by
  simp [pushAll_eq]
@[simp] theorem pushAll_counts (rs : List Request) : (e.pushAll rs).counts = e.counts := by
  simp [pushAll_eq]
@[simp] theorem pushAll_axes (rs : List Request) : (e.pushAll rs).axes = e.axes := by
  simp [pushAll_eq]
@[simp] theorem pushAll_outbox (rs : List Request) :
    (e.pushAll rs).outbox.toList = e.outbox.toList ++ rs := by
  simp [pushAll_eq]

end Engine

namespace EngineM

theorem send_run (r : Request) (e : Engine) : (send r).run e = pure ((), e.push r) := rfl

theorem sendAll_run (rs : List Request) (e : Engine) : (sendAll rs).run e = pure ((), e.pushAll rs) := by
  simp only [sendAll, StateT.run_bind]
  rw [run_forIn_unit rs _ Engine.push (fun _ _ => rfl)]
  rfl

end EngineM

/-! ## Keys -/

namespace Engine

/-- One voice of a released key: a note off if the collision mode says so for the inputs that
sound it, and one input fewer sounds it. -/
def dropVoice (e : Engine) (v : Voice) : Engine :=
  let e' := if e.profile.collision.releasePlan (e.counts.count v) then e.push v.noteOff else e
  { e' with counts := e'.counts.decrement v }

/-- A key let go of: its entry leaves the tracker, then its voices are dropped in order. -/
def releaseKey (e : Engine) (key : InputId) : Engine :=
  match e.notes.find? key with
  | none => e
  | some vs => vs.foldl dropVoice { e with notes := (e.notes.remove key).2 }

/-- One voice of a pressed key: a note off first and a note on as the collision mode says for
the inputs that sounded it, and one input more sounds it. -/
def strikeVoice (velocity : UInt8) (e : Engine) (v : Voice) : Engine :=
  let plan := e.profile.collision.pressPlan (e.counts.count v)
  let e₁ := if plan.noteOffFirst then e.push v.noteOff else e
  let e₂ := if plan.noteOn then e₁.push (.noteOn v.channel v.note velocity) else e₁
  { e₂ with counts := e₂.counts.increment v }

end Engine

/-- The voices a key bound to `t` sounds from a position: one per chord offset (a single one
without a chord) whose note stays in range. -/
def Position.pressVoices (pos : Position) (t : NoteTarget) : List Voice :=
  (if pos.chord.isEmpty then [0] else pos.chord).filterMap fun o =>
    (pos.transpose t.note o).map fun n => ⟨pos.channelFor t.channelOffset, n⟩

namespace Engine

/-- A key pressed: let go of first, then its voices struck, and recorded if there are any. -/
def pressKey (e : Engine) (key : InputId) (t : NoteTarget) : Engine :=
  let e₁ := e.releaseKey key
  let vs := e₁.position.pressVoices t
  let e₂ := vs.foldl (strikeVoice e₁.position.velocity) e₁
  if vs.isEmpty then e₂ else { e₂ with notes := e₂.notes.insert key vs }

variable (e : Engine) (v : Voice)

@[simp] theorem dropVoice_profile : (e.dropVoice v).profile = e.profile := by
  unfold dropVoice; split <;> rfl
@[simp] theorem dropVoice_position : (e.dropVoice v).position = e.position := by
  unfold dropVoice; split <;> rfl
@[simp] theorem dropVoice_notes : (e.dropVoice v).notes = e.notes := by
  unfold dropVoice; split <;> rfl
@[simp] theorem dropVoice_axes : (e.dropVoice v).axes = e.axes := by
  unfold dropVoice; split <;> rfl
@[simp] theorem dropVoice_counts : (e.dropVoice v).counts = e.counts.decrement v := by
  unfold dropVoice; split <;> rfl

@[simp] theorem strikeVoice_profile (vel : UInt8) : (e.strikeVoice vel v).profile = e.profile := by
  unfold strikeVoice; dsimp only; split <;> split <;> rfl
@[simp] theorem strikeVoice_position (vel : UInt8) :
    (e.strikeVoice vel v).position = e.position := by
  unfold strikeVoice; dsimp only; split <;> split <;> rfl
@[simp] theorem strikeVoice_notes (vel : UInt8) : (e.strikeVoice vel v).notes = e.notes := by
  unfold strikeVoice; dsimp only; split <;> split <;> rfl
@[simp] theorem strikeVoice_axes (vel : UInt8) : (e.strikeVoice vel v).axes = e.axes := by
  unfold strikeVoice; dsimp only; split <;> split <;> rfl
@[simp] theorem strikeVoice_counts (vel : UInt8) :
    (e.strikeVoice vel v).counts = e.counts.increment v := by
  unfold strikeVoice; dsimp only; split <;> split <;> rfl

theorem foldl_dropVoice_fields (vs : List Voice) :
    (vs.foldl dropVoice e).profile = e.profile ∧ (vs.foldl dropVoice e).position = e.position ∧
      (vs.foldl dropVoice e).notes = e.notes ∧ (vs.foldl dropVoice e).axes = e.axes ∧
      (vs.foldl dropVoice e).counts = vs.foldl Counts.decrement e.counts := by
  induction vs generalizing e with
  | nil => simp
  | cons v vs ih => simpa using ih (e.dropVoice v)

theorem foldl_strikeVoice_fields (vel : UInt8) (vs : List Voice) :
    (vs.foldl (strikeVoice vel) e).profile = e.profile ∧
      (vs.foldl (strikeVoice vel) e).position = e.position ∧
      (vs.foldl (strikeVoice vel) e).notes = e.notes ∧
      (vs.foldl (strikeVoice vel) e).axes = e.axes ∧
      (vs.foldl (strikeVoice vel) e).counts = vs.foldl Counts.increment e.counts := by
  induction vs generalizing e with
  | nil => simp
  | cons v vs ih => simpa using ih (e.strikeVoice vel v)

@[simp] theorem releaseKey_profile (key : InputId) : (e.releaseKey key).profile = e.profile := by
  unfold releaseKey; split
  · rfl
  · exact (foldl_dropVoice_fields _ _).1
@[simp] theorem releaseKey_position (key : InputId) :
    (e.releaseKey key).position = e.position := by
  unfold releaseKey; split
  · rfl
  · exact (foldl_dropVoice_fields _ _).2.1
@[simp] theorem releaseKey_axes (key : InputId) : (e.releaseKey key).axes = e.axes := by
  unfold releaseKey; split
  · rfl
  · exact (foldl_dropVoice_fields _ _).2.2.2.1

/-- The tracker after a key is let go of. -/
theorem releaseKey_notes (key : InputId) : (e.releaseKey key).notes = (e.notes.remove key).2 := by
  unfold releaseKey; split
  · rename_i h; exact (Tracker.remove_of_find?_none h).symm
  · exact (foldl_dropVoice_fields _ _).2.2.1

/-- The counts after a key is let go of. -/
theorem releaseKey_counts (key : InputId) :
    (e.releaseKey key).counts = ((e.notes.find? key).getD []).foldl Counts.decrement e.counts := by
  unfold releaseKey; split
  · rename_i h; simp [h]
  · rename_i vs h; simp only [h, Option.getD_some]; exact (foldl_dropVoice_fields _ _).2.2.2.2

@[simp] theorem pressKey_axes (key : InputId) (t : NoteTarget) :
    (e.pressKey key t).axes = e.axes := by
  have hf := foldl_strikeVoice_fields (e.releaseKey key) (e.releaseKey key).position.velocity
    ((e.releaseKey key).position.pressVoices t)
  unfold pressKey; dsimp only; split
  · exact hf.2.2.2.1.trans (releaseKey_axes e key)
  · exact hf.2.2.2.1.trans (releaseKey_axes e key)

end Engine

namespace EngineM

theorem releaseNote_run (key : InputId) (e : Engine) :
    (releaseNote key).run e = pure ((), e.releaseKey key) := by
  unfold releaseNote Engine.releaseKey
  cases h : e.notes.find? key with
  | none => simp [Tracker.remove, h]
  | some vs =>
    simp only [Tracker.remove, h, StateT.run_bind, StateT.run_get, StateT.run_set, pure_bind]
    rw [run_forIn_unit vs _ Engine.dropVoice]
    · rfl
    · intro v e
      simp only [Engine.dropVoice]
      split <;> simp [send, Engine.push, *]

/-- The turns of `pressNote`'s loop over the chord offsets, as a fold. -/
theorem foldl_press_turn (pos : Position) (t : NoteTarget) (vel : UInt8) (offsets : List UInt8)
    (held : List Voice) (e : Engine) :
    offsets.foldl (fun (p : List Voice × Engine) o => match pos.transpose t.note o with
        | none => p
        | some n => (p.1 ++ [⟨pos.channelFor t.channelOffset, n⟩],
            p.2.strikeVoice vel ⟨pos.channelFor t.channelOffset, n⟩)) (held, e) =
      (held ++ offsets.filterMap (fun o => (pos.transpose t.note o).map
          fun n => ⟨pos.channelFor t.channelOffset, n⟩),
        (offsets.filterMap (fun o => (pos.transpose t.note o).map
          fun n => ⟨pos.channelFor t.channelOffset, n⟩)).foldl (Engine.strikeVoice vel) e) := by
  induction offsets generalizing held e with
  | nil => simp
  | cons o offsets ih =>
    simp only [List.foldl_cons, List.filterMap_cons]
    cases h : pos.transpose t.note o with
    | none => simpa [h] using ih held e
    | some n =>
      simp only
      rw [ih]
      simp

theorem pressNote_run (key : InputId) (t : NoteTarget) (e : Engine) :
    (pressNote key t).run e = pure ((), e.pressKey key t) := by
  unfold pressNote Engine.pressKey
  simp only [StateT.run_bind, releaseNote_run, StateT.run_get, pure_bind,
    Engine.releaseKey_position]
  rw [run_forIn _ _ _ (fun (p : List Voice × Engine) o =>
      match e.position.transpose t.note o with
      | none => p
      | some n => (p.1 ++ [⟨e.position.channelFor t.channelOffset, n⟩],
          p.2.strikeVoice e.position.velocity ⟨e.position.channelFor t.channelOffset, n⟩))]
  · rw [foldl_press_turn]
    simp only [List.nil_append, pure_bind]
    change StateT.run (if (!(e.position.pressVoices t).isEmpty) = true then _ else _) _ = _
    cases (e.position.pressVoices t).isEmpty <;> rfl
  · intro o held e'
    cases e.position.transpose t.note o with
    | none => simp
    | some n =>
      simp only [Engine.strikeVoice]
      split_ifs <;> simp [send, Engine.push, *]

end EngineM

/-! ## Axes, and every note at once -/

namespace Engine

/-- The notes sounded by axes. -/
def axisNotes (e : Engine) : List Voice := e.axes.filterMap (·.2.note)

/-- The notes `takeAxisNotes keep` takes. -/
def takenNotes (e : Engine) (keep : Option Nat) : List Voice :=
  e.axes.filterMap fun (a : InputId × AxisMemory) => if a.2.sounds keep then a.2.note else none

/-- The axes after `takeAxisNotes keep`: those whose note is taken are silenced. -/
def silenceAxes (e : Engine) (keep : Option Nat) : Engine :=
  { e with axes := e.axes.map fun (a : InputId × AxisMemory) =>
      if a.2.sounds keep then (a.1, a.2.silence) else a }

/-- Every note let go of: those of the keys in key order, then those of the axes; no input
sounds anything any more. -/
def releasedAll (e : Engine) : Engine :=
  let e₁ := { e with notes := .empty }.pushAll (e.notes.voices.map Voice.noteOff)
  let e₂ := (e₁.silenceAxes none).pushAll ((e₁.takenNotes none).map Voice.noteOff)
  { e₂ with counts := .empty }

/-- The memory of an axis, if it has moved before. -/
def axisMemory? (e : Engine) (key : InputId) : Option AxisMemory :=
  (e.axes.find? (·.1 == key)).map (·.2)

/-- The memory of an axis stored, in its place. -/
def storeAxis (e : Engine) (key : InputId) (m : AxisMemory) : Engine :=
  if e.axes.any (·.1 == key) then
    { e with axes := e.axes.map fun a => if a.1 == key then (key, m) else a }
  else { e with axes := e.axes ++ [(key, m)] }

/-- The memory of an axis, one that has not moved before stored afresh under `layer`. -/
def recallAxis (e : Engine) (key : InputId) (layer : Nat) : AxisMemory × Engine :=
  match e.axisMemory? key with
  | some m => (m, e)
  | none => ({ layer }, e.storeAxis key { layer })

variable (e : Engine)

@[simp] theorem silenceAxes_profile (keep : Option Nat) :
    (e.silenceAxes keep).profile = e.profile := rfl
@[simp] theorem silenceAxes_position (keep : Option Nat) :
    (e.silenceAxes keep).position = e.position := rfl
@[simp] theorem silenceAxes_notes (keep : Option Nat) : (e.silenceAxes keep).notes = e.notes := rfl
@[simp] theorem silenceAxes_counts (keep : Option Nat) :
    (e.silenceAxes keep).counts = e.counts := rfl
@[simp] theorem silenceAxes_outbox (keep : Option Nat) :
    (e.silenceAxes keep).outbox = e.outbox := rfl

@[simp] theorem storeAxis_profile (key : InputId) (m : AxisMemory) :
    (e.storeAxis key m).profile = e.profile := by
  unfold storeAxis; split <;> rfl
@[simp] theorem storeAxis_position (key : InputId) (m : AxisMemory) :
    (e.storeAxis key m).position = e.position := by
  unfold storeAxis; split <;> rfl
@[simp] theorem storeAxis_notes (key : InputId) (m : AxisMemory) :
    (e.storeAxis key m).notes = e.notes := by
  unfold storeAxis; split <;> rfl
@[simp] theorem storeAxis_counts (key : InputId) (m : AxisMemory) :
    (e.storeAxis key m).counts = e.counts := by
  unfold storeAxis; split <;> rfl
@[simp] theorem storeAxis_outbox (key : InputId) (m : AxisMemory) :
    (e.storeAxis key m).outbox = e.outbox := by
  unfold storeAxis; split <;> rfl

@[simp] theorem releasedAll_profile : e.releasedAll.profile = e.profile := by
  simp [releasedAll]
@[simp] theorem releasedAll_position : e.releasedAll.position = e.position := by
  simp [releasedAll]
@[simp] theorem releasedAll_notes : e.releasedAll.notes = .empty := by
  simp [releasedAll]
@[simp] theorem releasedAll_counts : e.releasedAll.counts = .empty := rfl

/-- The axes after every note is let go of: all silenced. -/
theorem releasedAll_axes : e.releasedAll.axes = (e.silenceAxes none).axes := by
  simp [releasedAll, silenceAxes]

/-- What letting go of every note sends: a note off per voice of the keys, then per note of the
axes. -/
theorem releasedAll_outbox : e.releasedAll.outbox.toList =
    e.outbox.toList ++ e.notes.voices.map Voice.noteOff ++ (e.takenNotes none).map Voice.noteOff := by
  simp [releasedAll, takenNotes]

end Engine

namespace EngineM

theorem takeAxisNotes_run (keep : Option Nat) (e : Engine) :
    (takeAxisNotes keep).run e = pure (e.takenNotes keep, e.silenceAxes keep) := rfl

theorem releaseAll_run (e : Engine) : releaseAll.run e = pure ((), e.releasedAll) := by
  simp only [releaseAll, Tracker.drain, StateT.run_bind, StateT.run_get, StateT.run_set,
    sendAll_run, takeAxisNotes_run, pure_bind]
  rfl

/-- The All Notes Off controller on every channel. -/
theorem panic_run (e : Engine) : panic.run e = pure ((), e.releasedAll.pushAll
    ((List.range 16).map fun ch => .controlChange ch.toUInt8 123 0)) := by
  simp only [panic, StateT.run_bind, releaseAll_run, sendAll_run, pure_bind]

theorem axisMemory?_run (key : InputId) (e : Engine) :
    (axisMemory? key).run e = pure (e.axisMemory? key, e) := rfl

theorem storeAxis_run (key : InputId) (m : AxisMemory) (e : Engine) :
    (storeAxis key m).run e = pure ((), e.storeAxis key m) := rfl

theorem recallAxis_run (key : InputId) (layer : Nat) (e : Engine) :
    (recallAxis key layer).run e = pure (e.recallAxis key layer) := by
  simp only [recallAxis, Engine.recallAxis, StateT.run_bind, axisMemory?_run, pure_bind]
  cases e.axisMemory? key <;> rfl

end EngineM

/-! ## Keys held -/

namespace Engine

/-- A key marked as held, and the exit requested if that completes the exit chord. -/
def holdKey (e : Engine) (key : InputId) : Engine :=
  let e₀ := { e with heldKeys := if e.heldKeys.contains key then e.heldKeys else key :: e.heldKeys }
  if e₀.exitRequested || e₀.profile.exitSequence.isEmpty then e₀
  else if e₀.profile.exitSequence.all e₀.heldKeys.contains then { e₀ with exitRequested := true }
  else e₀

variable (e : Engine) (key : InputId)

@[simp] theorem holdKey_profile : (e.holdKey key).profile = e.profile := by
  unfold holdKey; dsimp only; split_ifs <;> rfl
@[simp] theorem holdKey_position : (e.holdKey key).position = e.position := by
  unfold holdKey; dsimp only; split_ifs <;> rfl
@[simp] theorem holdKey_notes : (e.holdKey key).notes = e.notes := by
  unfold holdKey; dsimp only; split_ifs <;> rfl
@[simp] theorem holdKey_counts : (e.holdKey key).counts = e.counts := by
  unfold holdKey; dsimp only; split_ifs <;> rfl
@[simp] theorem holdKey_axes : (e.holdKey key).axes = e.axes := by
  unfold holdKey; dsimp only; split_ifs <;> rfl
@[simp] theorem holdKey_outbox : (e.holdKey key).outbox = e.outbox := by
  unfold holdKey; dsimp only; split_ifs <;> rfl

end Engine

namespace EngineM

/-- A press of a key bound to an action presses the action, once the key is held. -/
theorem handleKey_press_action_run {key : InputId} {a : Action} {e : Engine}
    (ha : e.profile.actions.find? key.handler key.code = some a) :
    (handleKey key 1).run e = (pressAction a).run (e.holdKey key) := by
  unfold handleKey checkExit actionFor Engine.holdKey
  rw [if_neg (by decide), if_pos (by decide)]
  simp only [StateT.run_bind, StateT.run_modify, StateT.run_get, pure_bind]
  split_ifs <;> simp only [StateT.run_pure, StateT.run_set, pure_bind, ha]

/-- A press of a key bound to a note target strikes its voices, once the key is held. -/
theorem handleKey_press_note_run {key : InputId} {t : NoteTarget} {e : Engine}
    (ha : e.profile.actions.find? key.handler key.code = none)
    (ht : e.layer?.bind (·.keys.find? key.handler key.code) = some t) :
    (handleKey key 1).run e = pure ((), (e.holdKey key).pressKey key t) := by
  unfold handleKey checkExit actionFor Engine.holdKey
  rw [if_neg (by decide), if_pos (by decide)]
  simp only [Engine.layer?] at ht
  simp only [StateT.run_bind, StateT.run_modify, StateT.run_get, pure_bind]
  split_ifs <;> simp only [StateT.run_bind, StateT.run_pure, StateT.run_set, StateT.run_get,
    pure_bind, ha, Engine.layer?, ht, pressNote_run]

/-- A press of a key bound to nothing only holds the key. -/
theorem handleKey_press_unbound_run {key : InputId} {e : Engine}
    (ha : e.profile.actions.find? key.handler key.code = none)
    (ht : e.layer?.bind (·.keys.find? key.handler key.code) = none) :
    (handleKey key 1).run e = pure ((), e.holdKey key) := by
  unfold handleKey checkExit actionFor Engine.holdKey
  rw [if_neg (by decide), if_pos (by decide)]
  simp only [Engine.layer?] at ht
  simp only [StateT.run_bind, StateT.run_modify, StateT.run_get, pure_bind]
  split_ifs <;> simp only [StateT.run_bind, StateT.run_pure, StateT.run_set, StateT.run_get,
    pure_bind, ha, Engine.layer?, ht]

/-- A release of a key bound to an action releases the action, once the key is no longer held. -/
theorem handleKey_release_action_run {key : InputId} {a : Action} {e : Engine}
    (ha : e.profile.actions.find? key.handler key.code = some a) :
    (handleKey key 0).run e = (releaseAction a).run { e with heldKeys := e.heldKeys.erase key } := by
  unfold handleKey actionFor
  rw [if_pos (by decide)]
  simp only [StateT.run_bind, StateT.run_modify, StateT.run_get, StateT.run_pure, pure_bind, ha]

/-- A release of a key bound to no action lets go of its notes, once the key is no longer held. -/
theorem handleKey_release_note_run {key : InputId} {e : Engine}
    (ha : e.profile.actions.find? key.handler key.code = none) :
    (handleKey key 0).run e =
      pure ((), ({ e with heldKeys := e.heldKeys.erase key } : Engine).releaseKey key) := by
  unfold handleKey actionFor
  rw [if_pos (by decide)]
  simp only [StateT.run_bind, StateT.run_modify, StateT.run_get, StateT.run_pure, pure_bind, ha,
    releaseNote_run]

/-- A key event that is neither a press nor a release, such as a repeat, does nothing. -/
theorem handleKey_repeat_run {key : InputId} {value : Int} {e : Engine} (h0 : value ≠ 0)
    (h1 : value ≠ 1) : (handleKey key value).run e = pure ((), e) := by
  unfold handleKey
  rw [if_neg (by simpa using h0), if_neg (by simpa using h1)]
  rfl

end EngineM

end KeyMidi
