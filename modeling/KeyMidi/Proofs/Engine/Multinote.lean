import Mathlib
import KeyMidi.Proofs.Engine.Layers
import KeyMidi.Proofs.Engine.ExitChord
import KeyMidi.Proofs.Notes.Chord
/-!
# Chords struck by single keys

Letting go of multinote takes the chord of the keys held then (`Tracker.chordOffsets`), and every
later press of a key bound to a note strikes that chord on the key's note. `Engine.ChordRead e`
says that the chord of the position is the chord of some tracker: no step sets it otherwise, so
every engine of a run keeps it (`Run.chordRead`), and the chord ascends strictly
(`Tracker.chordOffsets_pairwise`).

In collision mode off a press strikes every voice it has, so it first lets go of what the key
held, then sends one note on per offset of the chord whose note stays in range, in ascending
note order; the key then holds exactly those voices, and letting go of it silences exactly them
(`Run.multinote_chords`).
-/

namespace KeyMidi

open Std.Do

namespace Engine

/-- The chord of the position is the chord some held keys made; the empty chord of a fresh
engine is that of no keys. -/
def ChordRead (e : Engine) : Prop := ∃ tr : Tracker, e.position.chord = tr.chordOffsets

variable {e e' : Engine}

/-! ## Keeping the invariant -/

theorem ChordRead.frame (hc : e.ChordRead) (h : e'.position.chord = e.position.chord) :
    e'.ChordRead := by
  obtain ⟨tr, htr⟩ := hc
  exact ⟨tr, h.trans htr⟩

theorem chordRead_new (p : Profile) : (Engine.new p).ChordRead := ⟨Tracker.empty, rfl⟩

@[simp] theorem chordRead_push (r : Request) : (e.push r).ChordRead ↔ e.ChordRead := Iff.rfl

@[simp] theorem chordRead_storeAxis (key : InputId) (m : AxisMemory) :
    (e.storeAxis key m).ChordRead ↔ e.ChordRead := by
  simp [ChordRead]

@[simp] theorem chordRead_recallAxis (key : InputId) (layer : Nat) :
    (e.recallAxis key layer).2.ChordRead ↔ e.ChordRead := by
  unfold recallAxis
  split <;> simp

/-- Letting go of multinote takes the chord of the keys held; any other release keeps it. -/
theorem ChordRead.released (hc : e.ChordRead) (a : Action) : (e.released a).ChordRead := by
  unfold Engine.released
  split
  · cases a
    case multinote => exact ⟨e.notes, rfl⟩
    all_goals exact hc.frame rfl
  · exact hc

@[simp] theorem resetTo_chord (par : Parameter) :
    (e.resetTo par).position.chord = e.position.chord := by
  cases par <;> rfl

@[simp] theorem act_chord (a : Action) : (e.act a).position.chord = e.position.chord := by
  cases a <;> simp [act]

/-- Pressing an action never touches the chord. -/
@[simp] theorem applied_chord (a : Action) : (e.applied a).position.chord = e.position.chord := by
  rcases e.applied_cases a with ⟨-, h⟩ | ⟨-, h | ⟨par, h⟩ | h⟩ <;> simp [h, holdAction]

/-- Pressing an action keeps the chord. -/
@[simp] theorem chordRead_pressed (a : Action) : (e.pressed a).ChordRead ↔ e.ChordRead := by
  simp [ChordRead]

theorem ChordRead.settled (hc : e.ChordRead) (key : InputId) : (e.settled key).ChordRead := by
  unfold Engine.settled
  split
  · exact hc
  · split
    · exact hc
    · have h₁ : (e.storeAxis key { layer := e.position.mapping }).ChordRead := hc.frame (by simp)
      dsimp only
      split <;> split
      · exact ((chordRead_push _).mpr h₁).released _
      · exact h₁.released _
      · exact (chordRead_push _).mpr h₁
      · exact h₁

theorem ChordRead.keyed (hc : e.ChordRead) (key : InputId) (value : Int) :
    (e.keyed key value).ChordRead := by
  have he : ({ e with heldKeys := e.heldKeys.erase key } : Engine).ChordRead := hc
  unfold Engine.keyed
  split_ifs
  · split
    · exact he.released _
    · exact he.frame (by simp)
  · split
    · exact (chordRead_pressed _).mpr (hc.frame (by simp))
    · split <;> exact hc.frame (by simp)
  · exact hc

theorem ChordRead.releasedOpt (hc : e.ChordRead) (a : Option Action) :
    (e.releasedOpt a).ChordRead := by
  cases a with
  | some a => exact hc.released a
  | none => exact hc

theorem ChordRead.pressedOpt (hc : e.ChordRead) (a : Option Action) :
    (e.pressedOpt a).ChordRead := by
  cases a with
  | some a => exact (chordRead_pressed a).mpr hc
  | none => exact hc

/-- A sample stores memories, sends, and presses and lets go of actions: only letting go of
multinote sets the chord, to the one of the keys held. -/
theorem ChordRead.played (hc : e.ChordRead) (key : InputId) (m : AxisMemory) (pos : Position)
    (channel : UInt8) (signed : Bool) (value centered : Float) (role : AxisRole) :
    (e.played key m pos channel signed value centered role).ChordRead := by
  cases role with
  | controller cc ccNeg twoSided flip =>
    cases twoSided with
    | false => exact hc
    | true =>
      dsimp only [Engine.played]
      rw [if_pos rfl, chordRead_push, chordRead_storeAxis]
      exact hc.frame (leftSide_keeps e (·.position.chord) (fun _ _ => rfl) channel cc ccNeg _ m.side)
  | pitchBend flip => exact hc
  | note n nNeg twoSided =>
    dsimp only [Engine.played]
    generalize Analog.Zone.ofLevel (if twoSided then centered else value) twoSided = zone
    split
    · exact hc
    · refine hc.frame ?_
      rw [struckOpt_keeps _ (·.position.chord)
          (fun e k m => congrArg Position.chord (storeAxis_position e k m)) (fun _ _ => rfl),
        silencedOpt_keeps _ (·.position.chord) (fun _ _ => rfl), storeAxis_position]
  | action a aNeg twoSided =>
    dsimp only [Engine.played]
    generalize Analog.Zone.ofLevel (if twoSided then centered else value) twoSided = zone
    split
    · exact hc
    · exact (((chordRead_storeAxis key _).mpr hc).releasedOpt m.action).pressedOpt _

theorem ChordRead.sampled (hc : e.ChordRead) (key : InputId) (raw : Int) (bounds : Analog.Bounds) :
    (e.sampled key raw bounds).ChordRead := by
  rcases e.sampled_cases key raw bounds with hs | hs | ⟨layer, b, value, -, -, hs⟩ <;> rw [hs]
  · exact hc
  · exact (chordRead_recallAxis key _).mpr hc
  · exact ((chordRead_storeAxis key _).mpr hc).played _ _ _ _ _ _ _ _

theorem ChordRead.moved (hc : e.ChordRead) (key : InputId) (raw : Int)
    (bounds : Option Analog.Bounds) : (e.moved key raw bounds).ChordRead := by
  cases bounds with
  | none => exact hc
  | some bounds => exact (hc.settled key).sampled key raw bounds

theorem ChordRead.handled (hc : e.ChordRead) (ev : InputEvent) : (e.handled ev).ChordRead := by
  cases ev with
  | key key value => exact hc.keyed key value
  | axis key raw bounds => exact hc.moved key raw bounds

end Engine

namespace EngineM

theorem handle_chordRead (ev : InputEvent) :
    ⦃fun e => ⌜e.ChordRead⌝⦄ handle ev ⦃⇓ _ e => ⌜e.ChordRead⌝⦄ :=
  triple_of_run fun e hc => by
    rw [handle_run]
    exact hc.handled ev

theorem releaseAll_chordRead :
    ⦃fun e => ⌜e.ChordRead⌝⦄ releaseAll ⦃⇓ _ e => ⌜e.ChordRead⌝⦄ :=
  triple_of_run fun e hc => by
    rw [releaseAll_run]
    exact hc.frame (by simp)

end EngineM

/-! ## Striking a chord -/

/-- A higher chord offset gives a higher note, while both stay in range. -/
theorem transpose_lt {pos : Position} {base o₁ o₂ n₁ n₂ : UInt8} (h : o₁ < o₂)
    (h₁ : pos.transpose base o₁ = some n₁) (h₂ : pos.transpose base o₂ = some n₂) : n₁ < n₂ := by
  simp only [Position.transpose] at h₁ h₂
  split at h₁ <;> split at h₂
  · have e₁ := congrArg UInt8.toNat (Option.some.inj h₁)
    have e₂ := congrArg UInt8.toNat (Option.some.inj h₂)
    simp only [Nat.toUInt8_eq, UInt8.toNat_ofNat'] at e₁ e₂
    rw [UInt8.lt_iff_toNat_lt] at h ⊢
    omega
  all_goals simp at h₁ h₂

/-- With an ascending chord, the notes of a press ascend. -/
theorem pressVoices_notes_pairwise {pos : Position} (h : pos.chord.Pairwise (· < ·))
    (t : NoteTarget) : ((pos.pressVoices t).map (·.note)).Pairwise (· < ·) := by
  have hoffsets : (if pos.chord.isEmpty then [0] else pos.chord).Pairwise (· < ·) := by
    split
    · exact List.pairwise_singleton _ _
    · exact h
  rw [List.pairwise_map]
  refine List.Pairwise.filterMap _ ?_ hoffsets
  intro o₁ o₂ hlt v₁ hv₁ v₂ hv₂
  simp only [Option.map_eq_some_iff] at hv₁ hv₂
  obtain ⟨n₁, hn₁, rfl⟩ := hv₁
  obtain ⟨n₂, hn₂, rfl⟩ := hv₂
  exact transpose_lt hlt hn₁ hn₂

namespace Engine

variable {e : Engine}

/-- After a press the key holds exactly the voices it struck, if it struck any. -/
theorem pressKey_find? (hk : e.notes.Keyed) (key : InputId) (t : NoteTarget) :
    (e.pressKey key t).notes.find? key =
      if e.position.pressVoices t = [] then none else some (e.position.pressVoices t) := by
  have hf := (foldl_strikeVoice_fields (e.releaseKey key) (e.releaseKey key).position.velocity
    ((e.releaseKey key).position.pressVoices t)).2.2.1
  have hout : key ∉ (e.notes.remove key).2.keys := Tracker.not_mem_keys_remove
  rw [releaseKey_position, releaseKey_notes] at hf
  unfold pressKey
  dsimp only
  rw [releaseKey_position]
  split
  · rename_i hvs
    rw [if_pos (List.isEmpty_iff.mp hvs), hf]
    exact Tracker.find?_eq_none_iff.mpr hout
  · rename_i hvs
    rw [if_neg (fun h => hvs (List.isEmpty_iff.mpr h))]
    refine (Tracker.find?_eq_some_iff ?_).mpr ?_ <;> rw [hf]
    · exact Tracker.keyed_insert (Tracker.keyed_remove hk) hout
    · exact (Tracker.mem_entries_insert hout).mpr (.inl rfl)

/-- In mode off a press strikes every voice. -/
theorem strikes_of_off (hoff : e.profile.collision = .off) (key : InputId) (w : Voice) :
    e.strikes key w = [.noteOn w.channel w.note e.position.velocity] := by
  simp [strikes, CollisionMode.strike, hoff]

/-- In mode off a release silences every voice the key held. -/
theorem releaseOffs_of_off (hoff : e.profile.collision = .off) (key : InputId) :
    e.releaseOffs key = ((e.notes.find? key).getD []).map Voice.noteOff := by
  simp [releaseOffs, hoff]

end Engine

namespace Engine

variable {p : Profile} {e : Engine} {out : List Request}

/-- Every engine of a run plays the chord of some held keys. -/
theorem Run.chordRead (hr : Run p e out) : e.ChordRead := by
  induction hr with
  | new => exact chordRead_new p
  | process ev _ ih => exact EngineM.post_of_triple (EngineM.handle_chordRead ev) ih
  | flush _ ih => exact EngineM.post_of_triple EngineM.releaseAll_chordRead ih

/-- Letting go of multinote, while it is held, takes the chord of the keys held. -/
theorem process_multinote_release (key : InputId)
    (ha : e.profile.actions.find? key.handler key.code = some .multinote)
    (hheld : Action.multinote ∈ e.position.heldActions) :
    (e.process (.key key 0)).1.position.chord = e.notes.chordOffsets := by
  rw [process_key_fst]
  simp [keyed, ha, released, hheld]

/-- A press of a key bound to a note leaves the key holding exactly the voices it struck. -/
theorem Run.press_find? (hr : Run p e out) {key : InputId} {t : NoteTarget}
    (ha : e.profile.actions.find? key.handler key.code = none)
    (ht : e.layer?.bind (·.keys.find? key.handler key.code) = some t) :
    (e.process (.key key 1)).1.notes.find? key =
      if e.position.pressVoices t = [] then none else some (e.position.pressVoices t) := by
  have hk : (({ e with outbox := #[] } : Engine).holdKey key).notes.Keyed := by
    simpa using hr.good.1.sound.keyed
  have ha' :
      ({ e with outbox := #[] } : Engine).profile.actions.find? key.handler key.code = none := ha
  have ht' : ({ e with outbox := #[] } : Engine).layer?.bind (·.keys.find? key.handler key.code) =
      some t := ht
  rw [process_key_fst]
  simp only [keyed, if_neg (by decide : (1 : Int) ≠ 0), if_true, ha', ht']
  rw [pressKey_find? hk, holdKey_position]

/-- In mode off, a press lets go of what the key held, then sends a note on per voice. -/
theorem Run.press_output_of_off (hr : Run p e out) (hoff : p.collision = .off) {key : InputId}
    {t : NoteTarget} (ha : e.profile.actions.find? key.handler key.code = none)
    (ht : e.layer?.bind (·.keys.find? key.handler key.code) = some t) :
    (e.request (EngineM.handle (.key key 1))).2 =
      ((e.notes.find? key).getD []).map Voice.noteOff ++
        (e.position.pressVoices t).map fun v => .noteOn v.channel v.note e.position.velocity := by
  have hoff' : e.profile.collision = .off := hr.good.1.profile_eq ▸ hoff
  rw [hr.press_output ha ht, releaseOffs_of_off hoff', funext (strikes_of_off hoff' key),
    ← List.map_eq_flatMap]

/-- In mode off, letting go of a key right after its press silences exactly what it struck. -/
theorem Run.release_after_press (hr : Run p e out) (hoff : p.collision = .off) {key : InputId}
    {t : NoteTarget} (ha : e.profile.actions.find? key.handler key.code = none)
    (ht : e.layer?.bind (·.keys.find? key.handler key.code) = some t) :
    ((e.process (.key key 1)).1.request (EngineM.handle (.key key 0))).2 =
      (e.position.pressVoices t).map Voice.noteOff := by
  have hr' := hr.process (.key key 1)
  have hoff' : (e.process (.key key 1)).1.profile.collision = .off := by
    rw [process_key_profile]
    exact hr.good.1.profile_eq ▸ hoff
  rw [hr'.release_output, releaseOffs_of_off hoff', hr.press_find? ha ht]
  split <;> simp_all

/-- **Chords of multinote.** The chord of a tracker is empty unless the voices of its inputs start
on two different notes; then it is the distances of those first notes from the lowest, ascending
and each once, so it starts at zero, and none wraps around. Letting go of multinote takes the
chord of the keys held, and along every run the chord is one so taken. In collision mode off, a
press of a key bound to a note sounds, on the binding's channel, the note of each offset of the
chord (a single note without one) that stays in range, in ascending order: it first lets go of
what the key held, then sends a note on for each of these voices; the key then holds exactly
them, and letting go of it right after silences exactly them. -/
theorem Run.multinote_chords (hr : Run p e out) (hoff : p.collision = .off) :
    (∀ tr : Tracker, (tr.roots.toFinset.card < 2 → tr.chordOffsets = []) ∧
      (2 ≤ tr.roots.toFinset.card → ∃ lowest ∈ tr.roots, (∀ r ∈ tr.roots, lowest ≤ r) ∧
        tr.chordOffsets.Pairwise (· < ·) ∧
        (∀ o, o ∈ tr.chordOffsets ↔ ∃ r ∈ tr.roots, o = r - lowest) ∧
        (∀ r ∈ tr.roots, (r - lowest).toNat = r.toNat - lowest.toNat) ∧
        tr.chordOffsets.head? = some 0 ∧ 2 ≤ tr.chordOffsets.length)) ∧
    (∀ key : InputId, e.profile.actions.find? key.handler key.code = some .multinote →
      Action.multinote ∈ e.position.heldActions →
      (e.process (.key key 0)).1.position.chord = e.notes.chordOffsets) ∧
    (∃ tr : Tracker, e.position.chord = tr.chordOffsets) ∧
    ∀ (key : InputId) (t : NoteTarget), e.profile.actions.find? key.handler key.code = none →
      e.layer?.bind (·.keys.find? key.handler key.code) = some t →
      (e.position.pressVoices t).map (·.note) =
          (if e.position.chord.isEmpty then [0] else e.position.chord).filterMap
            (e.position.transpose t.note) ∧
        (∀ v ∈ e.position.pressVoices t, v.channel = e.position.channelFor t.channelOffset) ∧
        ((e.position.pressVoices t).map (·.note)).Pairwise (· < ·) ∧
        (e.request (EngineM.handle (.key key 1))).2 =
          ((e.notes.find? key).getD []).map Voice.noteOff ++
            (e.position.pressVoices t).map (fun v => .noteOn v.channel v.note e.position.velocity) ∧
        (e.process (.key key 1)).1.notes.find? key =
          (if e.position.pressVoices t = [] then none else some (e.position.pressVoices t)) ∧
        ((e.process (.key key 1)).1.request (EngineM.handle (.key key 0))).2 =
          (e.position.pressVoices t).map Voice.noteOff := by
  obtain ⟨tr, htr⟩ := hr.chordRead
  refine ⟨fun tr => ⟨Tracker.chordOffsets_of_card_lt_two, Tracker.chordOffsets_of_two_le_card⟩,
    fun key ha hheld => process_multinote_release key ha hheld, ⟨tr, htr⟩,
    fun key t ha ht => ⟨?_, fun v hv => (mem_pressVoices.mp hv).1, ?_,
      hr.press_output_of_off hoff ha ht, hr.press_find? ha ht, hr.release_after_press hoff ha ht⟩⟩
  · simp [Position.pressVoices, List.map_filterMap, Function.comp_def]
  · exact pressVoices_notes_pairwise (htr ▸ Tracker.chordOffsets_pairwise tr) t

/-- With collision off, three keys sound a major chord while multinote is held; letting go of
multinote takes the chord of the keys held. Once every key is let go of, a press plays the chord
on its note, and its release lets go of the three notes. -/
theorem Run.multinote_chords_sample :
    let p : Profile := { Profile.sample with collision := .off }
    let evs : List InputEvent :=
      [.key ⟨"kbd", 1⟩ 1, .key ⟨"kbd", 2⟩ 1, .key ⟨"kbd", 3⟩ 1, .key ⟨"kbd", 34⟩ 1]
    let rest : List InputEvent :=
      [.key ⟨"kbd", 34⟩ 0, .key ⟨"kbd", 1⟩ 0, .key ⟨"kbd", 2⟩ 0, .key ⟨"kbd", 3⟩ 0]
    let e := (Engine.new p).feed evs
    let e' := e.feed rest
    let t : NoteTarget := ⟨60, 0⟩
    e.notes.chordOffsets = [0, 4, 7] ∧
      (e.process (.key ⟨"kbd", 34⟩ 0)).1.position.chord = e.notes.chordOffsets ∧
      e'.position.chord = [0, 4, 7] ∧ (e'.position.pressVoices t).map (·.note) = [60, 64, 67] ∧
      (e'.request (EngineM.handle (.key ⟨"kbd", 1⟩ 1))).2 =
        ((e'.notes.find? ⟨"kbd", 1⟩).getD []).map Voice.noteOff ++
          (e'.position.pressVoices t).map (fun v => .noteOn v.channel v.note e'.position.velocity) ∧
      ((e'.process (.key ⟨"kbd", 1⟩ 1)).1.request (EngineM.handle (.key ⟨"kbd", 1⟩ 0))).2 =
        (e'.position.pressVoices t).map Voice.noteOff := by
  intro p evs rest e e' t
  have hr : Run p e ((Engine.new p).requests evs) := Run.feed_new p evs
  have hr' : Run p e' ((Engine.new p).requests evs ++ e.requests rest) := hr.feed rest
  have hrun : e.profile.actions.find? "kbd" 34 = some .multinote ∧
      Action.multinote ∈ e.position.heldActions ∧ e.notes.chordOffsets = [0, 4, 7] ∧
      e'.position.chord = [0, 4, 7] ∧ (e'.position.pressVoices t).map (·.note) = [60, 64, 67] ∧
      e'.profile.actions.find? "kbd" 1 = none ∧ e'.layer?.bind (·.keys.find? "kbd" 1) = some t := by
    decide +kernel
  obtain ⟨hmulti, hheld, hchord, hchord', hnotes, hkey, ht⟩ := hrun
  have hpress := (Run.multinote_chords hr' rfl).2.2.2 ⟨"kbd", 1⟩ t hkey ht
  exact ⟨hchord, (Run.multinote_chords hr rfl).2.1 ⟨"kbd", 34⟩ hmulti hheld, hchord', hnotes,
    hpress.2.2.2.1, hpress.2.2.2.2.2⟩

end Engine

end KeyMidi
