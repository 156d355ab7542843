import Mathlib
import KeyMidi.Proofs.Engine.Runs
/-!
# Collision modes at the message level

Several keys may sound one voice. The engine counts the keys that hold each voice, and the
collision mode reads the count when a key is pressed or let go of. Read off the tracker instead,
through the voices that *other* keys hold (`Engine.othersHeld`), the modes say:

* letting go of a key sends, for each voice it held and in order, a note off in mode off, and in
  the other modes exactly when no other key still holds the voice (`Engine.releaseOffs`,
  `Run.release_output`); a key bound to an action holds no voice, and its release sends nothing;
* pressing a key first lets go of what it held, then, for each voice of the press, sends what
  the mode strikes (`CollisionMode.strike`, `Run.press_output`): a note on, except in no repeat
  when another key holds the voice, with a note off just before it exactly in interrupt when
  another key holds the voice.

Counts and tracker agree on every engine of a run, so these are what the steps send
(`Sound.releaseKey_outbox`, `Sound.pressKey_outbox`).

In the exclusive modes, no repeat and interrupt, a note on goes out only for a voice that is
silent, as long as no axis has sounded (`Engine.Fresh`, kept by the invariant). Key events never
give an axis a memory (`KeyRun.axes_nil`), so along a run of key events two note ons of one
voice have its note off between them (`KeyRun.noteOff_between`).
-/

namespace KeyMidi

/-! ## What a mode strikes and lets go of -/

namespace CollisionMode

/-- What striking voice `w` at velocity `vel` sends, as another key holds it (`held`) or not:
interrupt lets go of a held voice first, no repeat leaves a held voice alone, and otherwise the
voice is struck. -/
def strike (m : CollisionMode) (held : Bool) (vel : UInt8) (w : Voice) : List Request :=
  (if m = .interrupt ∧ held then [w.noteOff] else []) ++
    (if m = .noRepeat ∧ held then [] else [.noteOn w.channel w.note vel])

/-- The press plan for a count sends what `strike` says for a voice held exactly when the count
is positive. -/
theorem pressPlan_sends (m : CollisionMode) (k : Nat) (vel : UInt8) (w : Voice) :
    (if (m.pressPlan k).noteOffFirst then [w.noteOff] else []) ++
      (if (m.pressPlan k).noteOn then [.noteOn w.channel w.note vel] else []) =
      m.strike (decide (0 < k)) vel w := by
  rcases Nat.eq_zero_or_pos k with rfl | hk
  · cases m <;> simp [pressPlan, strike]
  · cases m <;> simp [pressPlan, strike, hk, Nat.pos_iff_ne_zero.mp hk]

/-- The release plan for a count one above that of the other keys sends a note off in mode off,
or when the other keys hold the voice no more. -/
theorem releasePlan_succ (m : CollisionMode) (k : Nat) :
    m.releasePlan (k + 1) = decide (m = .off ∨ k = 0) := by
  cases m <;> simp [releasePlan, Bool.beq_eq_decide_eq]

end CollisionMode

namespace Engine

/-- The voices that keys other than `key` hold. -/
def othersHeld (e : Engine) (key : InputId) : List Voice := (e.notes.remove key).2.voices

/-- The note offs of letting go of `key`: one for each voice it holds, in order, in mode off or
when no other key holds the voice. -/
def releaseOffs (e : Engine) (key : InputId) : List Request :=
  (((e.notes.find? key).getD []).filter fun v =>
    decide (e.profile.collision = .off ∨ v ∉ e.othersHeld key)).map Voice.noteOff

/-- What pressing `key` sends for voice `w`: what the mode strikes, as another key holds `w` or
not, at the engine's velocity. -/
def strikes (e : Engine) (key : InputId) (w : Voice) : List Request :=
  e.profile.collision.strike (decide (w ∈ e.othersHeld key)) e.position.velocity w

/-! ## What the steps send -/

variable {p : Profile} {e : Engine}

/-- Dropping voices, each counted once more than the other keys hold it. -/
theorem foldl_dropVoice_outbox {others vs : List Voice} (hnd : vs.Nodup)
    (hc : ∀ v ∈ vs, e.counts.count v = others.count v + 1) :
    (vs.foldl dropVoice e).outbox.toList = e.outbox.toList ++
      (vs.filter fun v => decide (e.profile.collision = .off ∨ v ∉ others)).map Voice.noteOff := by
  induction vs generalizing e with
  | nil => simp
  | cons v vs ih =>
    obtain ⟨hv, hnd⟩ := List.nodup_cons.mp hnd
    have hc' : ∀ w ∈ vs, (e.dropVoice v).counts.count w = others.count w + 1 := by
      intro w hw
      have hwv : w ≠ v := fun h => hv (h ▸ hw)
      simpa [hwv] using hc w (List.mem_cons_of_mem _ hw)
    rw [List.foldl_cons, ih hnd hc', dropVoice_outbox, dropVoice_profile, hc v List.mem_cons_self,
      CollisionMode.releasePlan_succ]
    by_cases hoff : e.profile.collision = .off ∨ v ∉ others <;>
      simp_all [List.count_eq_zero]

/-- Striking voices, each counted as often as the other keys hold it. -/
theorem foldl_strikeVoice_outbox {others ws : List Voice} (vel : UInt8) (hnd : ws.Nodup)
    (hc : ∀ w ∈ ws, e.counts.count w = others.count w) :
    (ws.foldl (strikeVoice vel) e).outbox.toList = e.outbox.toList ++
      ws.flatMap fun w => e.profile.collision.strike (decide (w ∈ others)) vel w := by
  induction ws generalizing e with
  | nil => simp
  | cons w ws ih =>
    obtain ⟨hw, hnd⟩ := List.nodup_cons.mp hnd
    have hc' : ∀ u ∈ ws, (e.strikeVoice vel w).counts.count u = others.count u := by
      intro u hu
      have huw : u ≠ w := fun h => hw (h ▸ hu)
      simpa [huw] using hc u (List.mem_cons_of_mem _ hu)
    rw [List.foldl_cons, ih hnd hc', strikeVoice_outbox, strikeVoice_profile,
      CollisionMode.pressPlan_sends, hc w List.mem_cons_self]
    simp [List.count_pos_iff]

/-- **What a release sends**: the note offs of `releaseOffs`. -/
theorem Sound.releaseKey_outbox (hs : e.Sound) (key : InputId) :
    (e.releaseKey key).outbox.toList = e.outbox.toList ++ e.releaseOffs key := by
  unfold Engine.releaseKey releaseOffs
  cases hf : e.notes.find? key with
  | none => simp
  | some vs =>
    have hmem := (Tracker.find?_eq_some_iff hs.keyed).mp hf
    have hnd := hs.entry_nodup _ hmem
    refine foldl_dropVoice_outbox hnd fun v hv => ?_
    have hp := (Tracker.voices_perm_remove hs.keyed hf).count_eq v
    rw [List.count_append, List.count_eq_one_of_mem hnd hv] at hp
    change e.counts.count v = (e.othersHeld key).count v + 1
    rw [hs.counts_eq, hp, othersHeld]
    omega

/-- **What a press sends**: the note offs of letting go of the key, then, voice by voice, what
the mode strikes. -/
theorem Sound.pressKey_outbox (hs : e.Sound) (key : InputId) (t : NoteTarget) :
    (e.pressKey key t).outbox.toList =
      e.outbox.toList ++ e.releaseOffs key ++ (e.position.pressVoices t).flatMap (e.strikes key) := by
  have hr := hs.releaseKey key
  have hc : ∀ w ∈ (e.releaseKey key).position.pressVoices t,
      (e.releaseKey key).counts.count w = (e.othersHeld key).count w := by
    intro w _
    rw [hr.counts_eq, releaseKey_notes, othersHeld]
  have hstrike := foldl_strikeVoice_outbox (e.releaseKey key).position.velocity
    (pressVoices_nodup hr.chord_nodup t) hc
  have hout : (e.pressKey key t).outbox =
      (((e.releaseKey key).position.pressVoices t).foldl
        (strikeVoice (e.releaseKey key).position.velocity) (e.releaseKey key)).outbox := by
    unfold Engine.pressKey; dsimp only; split <;> rfl
  rw [hout, hstrike, hs.releaseKey_outbox key, releaseKey_profile, releaseKey_position]
  rfl

/-- A key event asks for what the key's step asks for; publishing the status asks for
nothing. -/
theorem request_key_snd (key : InputId) (value : Int) :
    (e.request (EngineM.handle (.key key value))).2 =
      ((EngineM.handleKey key value).run { e with outbox := #[] }).2.outbox.toList :=
  rfl

end Engine

namespace Engine

variable {e : Engine}

/-- Pressing an action gives no axis a memory: a panic or a change of layer only silences the
axes there are. -/
theorem pressed_axes_nil (he : e.axes = []) (a : Action) : (e.pressed a).axes = [] := by
  have happ : (e.applied a).axes = [] := by
    rcases e.applied_axes a with h | h <;> rw [h] <;> simp [silenceAxes, he]
  rcases e.pressed_cases a with ⟨-, h⟩ | ⟨-, h⟩ <;> rw [h]
  · exact happ
  · simp [silenceAxes, happ]

/-- Key events give no axis a memory. -/
theorem keyed_axes_nil (he : e.axes = []) (key : InputId) (value : Int) :
    (e.keyed key value).axes = [] := by
  unfold Engine.keyed
  split_ifs
  · split <;> simpa using he
  · split
    · exact pressed_axes_nil (by simpa using he) _
    · split <;> simpa using he
  · exact he

theorem handleKey_axes (key : InputId) (value : Int) (he : e.axes = []) :
    ((EngineM.handleKey key value).run e).2.axes = [] := by
  rw [EngineM.handleKey_run]
  exact keyed_axes_nil he key value

end Engine

namespace Engine

variable {p : Profile} {e : Engine} {out : List Request}

/-- **A release** sends the note offs of `releaseOffs`, along every run. -/
theorem Run.release_output (hr : Run p e out) (key : InputId) :
    (e.request (EngineM.handle (.key key 0))).2 = e.releaseOffs key := by
  obtain ⟨hg, -, -⟩ := hr.good
  have hs := hg.clear.sound
  rw [request_key_snd]
  cases ha : e.profile.actions.find? key.handler key.code with
  | none =>
    rw [EngineM.handleKey_release_note_run (e := { e with outbox := #[] }) ha]
    have hs' : ({ e with outbox := #[], heldKeys := e.heldKeys.erase key } : Engine).Sound :=
      hs.frame rfl rfl rfl rfl hs.chord_nodup rfl hs.bounded
    rw [EngineM.snd_pure, hs'.releaseKey_outbox]
    rfl
  | some a =>
    have hnone : e.notes.find? key = none := by
      cases hf : e.notes.find? key with
      | none => rfl
      | some vs =>
        have hx := hg.sound.entry_unbound _ ((Tracker.find?_eq_some_iff hg.sound.keyed).mp hf)
        simp [ha] at hx
    rw [EngineM.handleKey_release_action_run (e := { e with outbox := #[] }) ha,
      EngineM.releaseAction_run, EngineM.snd_pure, released_outbox]
    simp [releaseOffs, hnone]

/-- **A press** of a key bound to a note target sends the note offs of letting go of it, then,
voice by voice, what the mode strikes, along every run. -/
theorem Run.press_output (hr : Run p e out) {key : InputId} {t : NoteTarget}
    (ha : e.profile.actions.find? key.handler key.code = none)
    (ht : e.layer?.bind (·.keys.find? key.handler key.code) = some t) :
    (e.request (EngineM.handle (.key key 1))).2 =
      e.releaseOffs key ++ (e.position.pressVoices t).flatMap (e.strikes key) := by
  obtain ⟨hg, -, -⟩ := hr.good
  have hs := hg.clear.sound
  have hs' : (({ e with outbox := #[] } : Engine).holdKey key).Sound :=
    hs.frame (by simp) (by simp) (by simp) (by simp) (by simpa using hs.chord_nodup) (by simp)
      (by simpa using hs.bounded)
  have hoffs : (({ e with outbox := #[] } : Engine).holdKey key).releaseOffs key =
      e.releaseOffs key := by
    unfold releaseOffs othersHeld
    rw [holdKey_notes, holdKey_profile]
  have hstrikes : (({ e with outbox := #[] } : Engine).holdKey key).strikes key = e.strikes key := by
    funext w
    unfold strikes othersHeld
    rw [holdKey_notes, holdKey_profile, holdKey_position]
  rw [request_key_snd, EngineM.handleKey_press_note_run (e := { e with outbox := #[] }) ha ht,
    EngineM.snd_pure, hs'.pressKey_outbox, hoffs, hstrikes, holdKey_position, holdKey_outbox]
  rfl

/-! ## Runs of key events -/

/-- The runs whose events are all key events: presses, releases and repeats, of keys bound to
notes and to actions alike, with flushes between them. -/
inductive KeyRun (p : Profile) : Engine → List Request → Prop
  | new : KeyRun p (Engine.new p) []
  | key {e : Engine} {out : List Request} (k : InputId) (value : Int) :
      KeyRun p e out →
        KeyRun p (e.process (.key k value)).1 (out ++ (e.request (EngineM.handle (.key k value))).2)
  | flush {e : Engine} {out : List Request} :
      KeyRun p e out → KeyRun p e.flush.1 (out ++ (e.request EngineM.releaseAll).2)

theorem KeyRun.run (hr : KeyRun p e out) : Run p e out := by
  induction hr with
  | new => exact .new
  | key k value _ ih => exact ih.process (.key k value)
  | flush _ ih => exact ih.flush

/-- Key events fed one after the other extend a run of key events. -/
theorem KeyRun.feed (hr : KeyRun p e out) (ks : List (InputId × Int)) :
    KeyRun p (e.feed (ks.map fun k => .key k.1 k.2))
      (out ++ e.requests (ks.map fun k => .key k.1 k.2)) := by
  induction ks generalizing e out with
  | nil => simpa using hr
  | cons k ks ih =>
    rw [List.map_cons, feed_cons, requests, ← List.append_assoc]
    exact ih (hr.key k.1 k.2)

/-- No engine of a run of key events has a memory of an axis. -/
theorem KeyRun.axes_nil (hr : KeyRun p e out) : e.axes = [] := by
  induction hr with
  | new => rfl
  | @key e _ k value _ ih =>
    exact handleKey_axes k value (e := { e with outbox := #[] }) ih
  | @flush e _ _ ih =>
    show ((EngineM.releaseAll.run { e with outbox := #[] }).2).axes = []
    simp [EngineM.releaseAll_run, releasedAll_axes, silenceAxes, ih]

/-- **No double strike.** In no repeat and in interrupt, along a run of key events, two note ons
of one voice have its note off between them. -/
theorem KeyRun.noteOff_between (hr : KeyRun p e out) (hm : p.collision.Exclusive)
    {a b d : List Request} {c n v v' : UInt8}
    (hout : out = a ++ .noteOn c n v :: (b ++ .noteOn c n v' :: d)) : .noteOff c n ∈ b := by
  obtain ⟨hg, he, -⟩ := hr.run.good
  have hs := hg.fresh hr.axes_nil (hg.profile_eq ▸ hm)
  rw [he, Array.toList_empty, List.append_nil] at hs
  exact hs.noteOff_between hout

/-- **Collision modes at the message level.** Along a run of key events: a release sends, for
each voice the key held, a note off in mode off, and otherwise exactly when no other key holds
the voice; a press of a key bound to a note target first does the same, then, voice by voice,
sends a note on, except in no repeat when another key holds the voice, with a note off just
before it exactly in interrupt when another key holds the voice; and in those two modes two note
ons of one voice have its note off between them. -/
theorem KeyRun.collision_laws (hr : KeyRun p e out) :
    (∀ key : InputId, (e.request (EngineM.handle (.key key 0))).2 = e.releaseOffs key) ∧
      (∀ (key : InputId) (t : NoteTarget), e.profile.actions.find? key.handler key.code = none →
        e.layer?.bind (·.keys.find? key.handler key.code) = some t →
        (e.request (EngineM.handle (.key key 1))).2 =
          e.releaseOffs key ++ (e.position.pressVoices t).flatMap (e.strikes key)) ∧
      (p.collision.Exclusive → ∀ (a b d : List Request) (c n v v' : UInt8),
        out = a ++ .noteOn c n v :: (b ++ .noteOn c n v' :: d) → Request.noteOff c n ∈ b) :=
  ⟨hr.run.release_output, fun _ _ ha ht => hr.run.press_output ha ht,
    fun hm _ _ _ _ _ _ _ hout => hr.noteOff_between hm hout⟩

/-- In the mode `noRepeat` two keys hold one note: the second press sounds nothing, letting go of
the first sends nothing, and letting go of the second would send the note off. -/
theorem KeyRun.collision_laws_sample :
    let ks : List (InputId × Int) := [(⟨"kbd", 1⟩, 1), (⟨"kbd", 4⟩, 1), (⟨"kbd", 1⟩, 0)]
    let e := (Engine.new .sample).feed (ks.map fun k => .key k.1 k.2)
    let out := (Engine.new .sample).requests (ks.map fun k => .key k.1 k.2)
    out.map Request.packet = [.noteOn 0 60 64] ∧
      (e.releaseOffs ⟨"kbd", 4⟩).map Request.packet = [.noteOff 0 60] ∧
      (∀ key : InputId, (e.request (EngineM.handle (.key key 0))).2 = e.releaseOffs key) ∧
      (∀ (key : InputId) (t : NoteTarget), e.profile.actions.find? key.handler key.code = none →
        e.layer?.bind (·.keys.find? key.handler key.code) = some t →
        (e.request (EngineM.handle (.key key 1))).2 =
          e.releaseOffs key ++ (e.position.pressVoices t).flatMap (e.strikes key)) ∧
      (Profile.sample.collision.Exclusive → ∀ (a b d : List Request) (c n v v' : UInt8),
        out = a ++ .noteOn c n v :: (b ++ .noteOn c n v' :: d) → Request.noteOff c n ∈ b) := by
  intro ks e out
  have hr : KeyRun .sample e out := by simpa using KeyRun.new.feed ks
  have hrun : out.map Request.packet = [.noteOn 0 60 64] ∧
      (e.releaseOffs ⟨"kbd", 4⟩).map Request.packet = [.noteOff 0 60] := by
    decide +kernel
  exact ⟨hrun.1, hrun.2, KeyRun.collision_laws hr⟩

end Engine

end KeyMidi
