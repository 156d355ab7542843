import Mathlib
import KeyMidi.Proofs.Engine.Effects
import KeyMidi.Proofs.Midi.Receiver
import KeyMidi.Proofs.Profile.WellFormed
import KeyMidi.Proofs.Notes.Chord
/-!
# What the engine keeps true

`Engine.Sound` gathers what holds of every engine the steps reach: the counts say how many keys
hold each voice (`counts_eq`); every key holds at least one voice, each once, and no key bound to
an action holds any; every voice a key or an axis holds is in range; each axis has one memory;
the chord repeats no offset; the velocity is the profile's; and under a well-formed profile the
channel and the layer are in range.

`Engine.CoversBut P h e` ties the engine to what it has sent: every voice that the requests sent
so far (`h`, then the outbox) leave sounding is held (`Engine.Holds`: some key counts it, or an
axis sounds it), or is one of `P`, whose note off is still to come. `Engine.Fresh h e` says that,
while no axis has a memory, the exclusive collision modes (no repeat and interrupt) strike only
silent voices (`StrikesSilent`). `Engine.Good p h e` is all three, with every request sent built
from the engine's own values (`Request.Fits`) and the profile `p` the engine started with.

The effects of `Effects` keep them: a voice dropped or struck keeps the covering
(`CoversBut.dropVoice`, `CoversBut.strikeVoice`), whatever the collision mode, because the count
of a voice that is not let go of stays positive; so do a key released or pressed
(`Good.releaseKey`, `Good.pressKey`), every note let go of (`Good.releasedAll`) and the notes
of axes taken (`Good.takeNotes`). A memory stored for an axis moves its note in or out of the
pending voices (`CoversBut.storeAxis`). A voice struck in an exclusive mode is silent before its
note on, since a voice no key counts is silent while no axis sounds (`Fresh.strikeVoice`).
-/

namespace KeyMidi

open scoped List

/-! ## Values the engine sends -/

/-- A voice in range: channel `0 … 15`, note `0 … 127`. -/
def Voice.Addressed (v : Voice) : Prop := v.channel ≤ 15 ∧ v.note ≤ 127

@[simp] theorem Request.addressed_noteOff {v : Voice} : v.noteOff.Addressed ↔ v.Addressed :=
  Iff.rfl

/-- A controller that some controller axis of the profile drives. -/
def Profile.Controls (p : Profile) (k : UInt8) : Prop :=
  ∃ l ∈ p.layers, ∃ handler code b, l.axes.find? handler code = some b ∧
    ∃ cc ccNeg twoSided flip, b.role = .controller cc ccNeg twoSided flip ∧ (k = cc ∨ k = ccNeg)

/-- The values of a request come from the engine's own ranges: voices in range, the profile's
velocity, and All Notes Off or a controller that the profile drives. -/
def Request.Fits (p : Profile) : Request → Prop
  | .noteOn c n v => c ≤ 15 ∧ n ≤ 127 ∧ v = p.defaults.velocity
  | .noteOff c n => c ≤ 15 ∧ n ≤ 127
  | .controlChange c k _ => c ≤ 15 ∧ (k = 123 ∨ p.Controls k)
  | .pitchBend c _ => c ≤ 15

/-- The collision modes that strike a voice a key holds only after its note off, if at all: no
repeat and interrupt. -/
def CollisionMode.Exclusive (m : CollisionMode) : Prop := m = .noRepeat ∨ m = .interrupt

theorem Request.Fits.addressed {p : Profile} {r : Request} (h : r.Fits p) : r.Addressed := by
  cases r with
  | noteOn c n v => exact ⟨h.1, h.2.1⟩
  | noteOff c n => exact h
  | controlChange c k v => exact h.1
  | pitchBend c x => exact h

/-- Under a well-formed profile, a request that fits the engine fits the encoder. -/
theorem Request.Fits.inRange {p : Profile} {r : Request} (hp : p.WellFormed) (h : r.Fits p) :
    r.InRange := by
  cases r with
  | noteOn c n v => exact ⟨h.1, h.2.1, h.2.2 ▸ hp.velocity_le⟩
  | noteOff c n => exact h
  | controlChange c k v =>
    refine ⟨h.1, ?_⟩
    rcases h.2 with rfl | ⟨l, hl, handler, code, b, hb, cc, ccNeg, twoSided, flip, hr, hk⟩
    · decide
    · have := hp.controllers_le l hl handler code b hb cc ccNeg twoSided flip hr
      rcases hk with rfl | rfl
      · exact this.1
      · exact this.2
  | pitchBend c x => exact h

/-! ## Positions -/

theorem channelFor_le (pos : Position) (offset : UInt8) : pos.channelFor offset ≤ 15 := by
  rw [UInt8.le_iff_toNat_le]
  simp only [Position.channelFor, Nat.toUInt8_eq, UInt8.toNat_ofNat']
  have := Nat.mod_lt (pos.channel.toNat + offset.toNat) (by decide : 16 > 0)
  simp only [UInt8.reduceToNat]
  omega

theorem transpose_le {pos : Position} {base offset n : UInt8}
    (h : pos.transpose base offset = some n) : n ≤ 127 := by
  simp only [Position.transpose] at h
  split at h
  · rename_i hr
    cases h
    rw [UInt8.le_iff_toNat_le]
    simp only [Nat.toUInt8_eq, UInt8.toNat_ofNat', UInt8.reduceToNat]
    omega
  · cases h

/-- Two offsets that transpose a note to the same note are the same offset. -/
theorem transpose_inj {pos : Position} {base o₁ o₂ n : UInt8}
    (h₁ : pos.transpose base o₁ = some n) (h₂ : pos.transpose base o₂ = some n) : o₁ = o₂ := by
  simp only [Position.transpose] at h₁ h₂
  split at h₁ <;> split at h₂
  · rename_i hr₁ hr₂
    have e₁ := congrArg UInt8.toNat (Option.some.inj h₁)
    have e₂ := congrArg UInt8.toNat (Option.some.inj h₂)
    simp only [Nat.toUInt8_eq, UInt8.toNat_ofNat'] at e₁ e₂
    apply UInt8.toNat_inj.mp
    omega
  all_goals simp_all

theorem mem_pressVoices {pos : Position} {t : NoteTarget} {v : Voice} :
    v ∈ pos.pressVoices t ↔ v.channel = pos.channelFor t.channelOffset ∧
      ∃ o ∈ (if pos.chord.isEmpty then [0] else pos.chord), pos.transpose t.note o = some v.note := by
  constructor
  · intro hv
    simp only [Position.pressVoices, List.mem_filterMap, Option.map_eq_some_iff] at hv
    obtain ⟨o, ho, n, hn, rfl⟩ := hv
    exact ⟨rfl, o, ho, hn⟩
  · rintro ⟨hc, o, ho, hn⟩
    simp only [Position.pressVoices, List.mem_filterMap, Option.map_eq_some_iff]
    exact ⟨o, ho, v.note, hn, by rw [← hc]⟩

theorem pressVoices_addressed {pos : Position} {t : NoteTarget} {v : Voice}
    (hv : v ∈ pos.pressVoices t) : v.Addressed := by
  obtain ⟨hc, o, -, hn⟩ := mem_pressVoices.mp hv
  exact ⟨hc ▸ channelFor_le _ _, transpose_le hn⟩

/-- A chord that repeats no offset sounds no voice twice. -/
theorem pressVoices_nodup {pos : Position} (h : pos.chord.Nodup) (t : NoteTarget) :
    (pos.pressVoices t).Nodup := by
  refine List.Nodup.filterMap ?_ (by split <;> simp_all)
  intro o₁ o₂ v hv₁ hv₂
  simp only [Option.mem_def, Option.map_eq_some_iff] at hv₁ hv₂
  obtain ⟨n₁, hn₁, rfl⟩ := hv₁
  obtain ⟨n₂, hn₂, he⟩ := hv₂
  cases he
  exact transpose_inj hn₁ hn₂

/-! ## Holding and covering -/

namespace Engine

/-- A voice is held: some key counts it, or some axis sounds it. -/
def Holds (e : Engine) (w : Voice) : Prop := 0 < e.counts.count w ∨ w ∈ e.axisNotes

/-- Every voice that the requests sent so far (`h`, then the outbox) leave sounding is held, or
is one of `P`, whose note off is still to come. -/
def CoversBut (P : List Voice) (h : List Request) (e : Engine) : Prop :=
  ∀ w, sounding (h ++ e.outbox.toList) w = true → e.Holds w ∨ w ∈ P

/-- While no axis has a memory, in an exclusive mode every note on sent so far (`h`, then the
outbox) strikes a silent voice. -/
def Fresh (h : List Request) (e : Engine) : Prop :=
  e.axes = [] → e.profile.collision.Exclusive → StrikesSilent (h ++ e.outbox.toList)

/-- What every engine the steps reach satisfies. -/
structure Sound (e : Engine) : Prop where
  /-- The count of a voice is the number of keys that hold it. -/
  counts_eq : ∀ v, e.counts.count v = e.notes.voices.count v
  keyed : e.notes.Keyed
  entry_ne_nil : ∀ x ∈ e.notes.entries, x.2 ≠ []
  entry_nodup : ∀ x ∈ e.notes.entries, x.2.Nodup
  /-- A key bound to an action holds no notes. -/
  entry_unbound : ∀ x ∈ e.notes.entries, e.profile.actions.find? x.1.handler x.1.code = none
  voices_addressed : ∀ v ∈ e.notes.voices, v.Addressed
  axisNotes_addressed : ∀ v ∈ e.axisNotes, v.Addressed
  /-- One memory per axis. -/
  axes_nodup : (e.axes.map (·.1)).Nodup
  chord_nodup : e.position.chord.Nodup
  velocity_eq : e.position.velocity = e.profile.defaults.velocity
  bounded : e.profile.WellFormed →
    e.position.channel ≤ 15 ∧ e.position.mapping < e.profile.layers.length

/-- The invariant of an engine started with profile `p`, given the requests sent before the
current step. -/
structure Good (p : Profile) (h : List Request) (e : Engine) : Prop where
  sound : e.Sound
  covers : e.CoversBut [] h
  fits : ∀ r ∈ e.outbox.toList, r.Fits e.profile
  /-- No step changes the profile. -/
  profile_eq : e.profile = p
  fresh : e.Fresh h

variable {P Q : List Voice} {p : Profile} {h : List Request} {e e' : Engine}

theorem sounding_push (r : Request) (w : Voice) :
    sounding (h ++ (e.push r).outbox.toList) w = r.turn w (sounding (h ++ e.outbox.toList) w) := by
  rw [push_outbox, ← List.append_assoc, sounding_concat]

theorem CoversBut.mono (hc : e.CoversBut P h) (hPQ : ∀ w ∈ P, w ∈ Q) : e.CoversBut Q h :=
  fun w hw => (hc w hw).imp id (hPQ w)

/-- Covering looks only at the counts, the axes and the outbox. -/
theorem CoversBut.frame (hc : e.CoversBut P h) (hc' : e'.counts = e.counts)
    (ha : e'.axes = e.axes) (ho : e'.outbox.toList = e.outbox.toList) : e'.CoversBut P h := by
  intro w hw
  rw [ho] at hw
  simpa [Holds, axisNotes, hc', ha] using hc w hw

theorem CoversBut.push_noteOff {v : Voice} (hc : e.CoversBut (v :: P) h) :
    (e.push v.noteOff).CoversBut P h := by
  intro w hw
  rw [sounding_push] at hw
  by_cases hvw : v = w
  · subst hvw; simp at hw
  · rw [Request.turn_noteOff_of_ne hvw] at hw
    rcases hc w hw with hh | hm
    · exact .inl hh
    · exact .inr ((List.mem_cons.mp hm).resolve_left (Ne.symm hvw))

theorem CoversBut.push_noteOn (hc : e.CoversBut P h) (c n x : UInt8) :
    (e.push (.noteOn c n x)).CoversBut (⟨c, n⟩ :: P) h := by
  intro w hw
  rw [sounding_push] at hw
  by_cases hw' : (⟨c, n⟩ : Voice) = w
  · exact .inr (hw' ▸ List.mem_cons_self)
  · simp only [Request.turn, hw', if_false] at hw
    exact (hc w hw).imp id (List.mem_cons_of_mem _)

theorem CoversBut.push_controlChange (hc : e.CoversBut P h) (c k x : UInt8) :
    (e.push (.controlChange c k x)).CoversBut P h := by
  intro w hw
  rw [sounding_push, Request.turn_controlChange] at hw
  exact hc w hw

theorem CoversBut.push_pitchBend (hc : e.CoversBut P h) (c : UInt8) (x : Float) :
    (e.push (.pitchBend c x)).CoversBut P h := by
  intro w hw
  rw [sounding_push, Request.turn_pitchBend] at hw
  exact hc w hw

/-- Note offs for voices still to be let go of settle them. -/
theorem CoversBut.pushAll_noteOffs {vs : List Voice} (hc : e.CoversBut (vs ++ P) h) :
    (e.pushAll (vs.map Voice.noteOff)).CoversBut P h := by
  induction vs generalizing e with
  | nil => simpa [pushAll] using hc
  | cons v vs ih =>
    simp only [List.map_cons, pushAll, List.foldl_cons] at ih ⊢
    exact ih (CoversBut.push_noteOff (by simpa using hc))

theorem CoversBut.pushAll_controlChanges {cs : List (UInt8 × UInt8 × UInt8)}
    (hc : e.CoversBut P h) :
    (e.pushAll (cs.map fun c => .controlChange c.1 c.2.1 c.2.2)).CoversBut P h := by
  induction cs generalizing e with
  | nil => simpa [pushAll] using hc
  | cons c cs ih =>
    simp only [List.map_cons, pushAll, List.foldl_cons] at ih ⊢
    exact ih (hc.push_controlChange _ _ _)

/-- One input fewer for a voice keeps the covering while the count does not fall from 1 to 0,
or when the voice is silent. -/
theorem CoversBut.decrement (hc : e.CoversBut P h) {v : Voice}
    (hv : e.counts.count v ≠ 1 ∨ sounding (h ++ e.outbox.toList) v = false) :
    ({ e with counts := e.counts.decrement v } : Engine).CoversBut P h := by
  intro w hw
  rcases hc w hw with (hpos | hax) | hP
  · by_cases hwv : w = v
    · subst hwv
      rcases hv with h₁ | hs
      · exact .inl (.inl (by simp only [Counts.count_decrement, if_true]; omega))
      · simp [hs] at hw
    · exact .inl (.inl (by simpa [Counts.count_decrement, hwv] using hpos))
  · exact .inl (.inr hax)
  · exact .inr hP

/-- One input more for a voice holds it. -/
theorem CoversBut.increment {v : Voice} (hc : e.CoversBut (v :: P) h) :
    ({ e with counts := e.counts.increment v } : Engine).CoversBut P h := by
  intro w hw
  rcases hc w hw with (hpos | hax) | hP
  · exact .inl (.inl (by simp only [Counts.count_increment]; omega))
  · exact .inl (.inr hax)
  · rcases List.mem_cons.mp hP with rfl | hP
    · exact .inl (.inl (by simp))
    · exact .inr hP

/-- A release plan that sends nothing leaves a count other than 1. -/
theorem CollisionMode.ne_one_of_releasePlan {m : CollisionMode} {n : Nat}
    (h : m.releasePlan n = false) : n ≠ 1 := by
  cases m <;> simp_all [CollisionMode.releasePlan]

/-- A dropped voice stays covered: either its note off goes out, or, the mode sending none, its
count was not 1 and stays positive, or was 0 and an axis holds it. -/
theorem CoversBut.dropVoice (hc : e.CoversBut P h) (v : Voice) : (e.dropVoice v).CoversBut P h := by
  unfold Engine.dropVoice
  dsimp only
  split
  · apply CoversBut.decrement (CoversBut.push_noteOff (hc.mono fun w hw => List.mem_cons_of_mem _ hw))
    right
    rw [sounding_push]
    simp
  · rename_i hp
    exact hc.decrement (.inl (CollisionMode.ne_one_of_releasePlan (by simpa using hp)))

/-- A struck voice is held once its count is raised. -/
theorem CoversBut.strikeVoice (hc : e.CoversBut P h) (vel : UInt8) (v : Voice) :
    (e.strikeVoice vel v).CoversBut P h := by
  have hc' : e.CoversBut (v :: P) h := hc.mono fun w hw => List.mem_cons_of_mem _ hw
  unfold Engine.strikeVoice
  dsimp only
  apply CoversBut.increment
  split <;> split
  · exact (CoversBut.push_noteOn (CoversBut.push_noteOff (hc'.mono fun w hw =>
      List.mem_cons_of_mem _ hw)) _ _ _).mono fun w hw => by simp_all
  · exact (CoversBut.push_noteOn hc' _ _ _).mono fun w hw => by simp_all
  · exact CoversBut.push_noteOff (hc'.mono fun w hw => List.mem_cons_of_mem _ hw)
  · exact hc'

theorem CoversBut.foldl_dropVoice (hc : e.CoversBut P h) (vs : List Voice) :
    (vs.foldl Engine.dropVoice e).CoversBut P h := by
  induction vs generalizing e with
  | nil => exact hc
  | cons v vs ih => exact ih (hc.dropVoice v)

theorem CoversBut.foldl_strikeVoice (hc : e.CoversBut P h) (vel : UInt8) (vs : List Voice) :
    (vs.foldl (Engine.strikeVoice vel) e).CoversBut P h := by
  induction vs generalizing e with
  | nil => exact hc
  | cons v vs ih => exact ih (hc.strikeVoice vel v)

theorem CoversBut.releaseKey (hc : e.CoversBut P h) (key : InputId) :
    (e.releaseKey key).CoversBut P h := by
  unfold Engine.releaseKey
  split
  · exact hc
  · exact CoversBut.foldl_dropVoice (show CoversBut P h { e with notes := (e.notes.remove key).2 } from hc) _

theorem CoversBut.pressKey (hc : e.CoversBut P h) (key : InputId) (t : NoteTarget) :
    (e.pressKey key t).CoversBut P h := by
  have hs := CoversBut.foldl_strikeVoice (hc.releaseKey key)
    (e.releaseKey key).position.velocity ((e.releaseKey key).position.pressVoices t)
  unfold Engine.pressKey
  dsimp only
  split
  · exact hs
  · exact hs

/-! ### Axes -/

/-- With one memory per axis, the memory found for an axis is the one it has. -/
theorem axisMemory?_of_mem (hnd : (e.axes.map (·.1)).Nodup) {a : InputId × AxisMemory}
    (ha : a ∈ e.axes) : e.axisMemory? a.1 = some a.2 := by
  obtain ⟨b, hb⟩ : ∃ b, e.axes.find? (·.1 == a.1) = some b := by
    apply Option.isSome_iff_exists.mp
    rw [List.find?_isSome]
    exact ⟨a, ha, by simp⟩
  have hb₁ : b.1 = a.1 := by simpa using List.find?_some hb
  have : b = a := List.inj_on_of_nodup_map hnd (List.mem_of_find?_eq_some hb) ha hb₁
  simp [axisMemory?, hb, this]

/-- Storing a memory for an axis that has one replaces it where it stands. -/
theorem find?_replace (key : InputId) (m : AxisMemory) {l : List (InputId × AxisMemory)}
    (hl : l.any (·.1 == key) = true) :
    (l.map fun a => if a.1 == key then (key, m) else a).find? (·.1 == key) = some (key, m) := by
  induction l with
  | nil => simp at hl
  | cons a l ih =>
    by_cases hak : a.1 = key
    · simp [hak]
    · have hl' : l.any (·.1 == key) = true := by simpa [hak] using hl
      simpa [hak] using ih hl'

@[simp] theorem axisMemory?_storeAxis_self (key : InputId) (m : AxisMemory) :
    (e.storeAxis key m).axisMemory? key = some m := by
  unfold storeAxis axisMemory?
  split
  · rename_i hany
    rw [find?_replace key m hany]
    rfl
  · rename_i hany
    have : e.axes.find? (·.1 == key) = none :=
      List.find?_eq_none.mpr fun a ha hak => hany (List.any_eq_true.mpr ⟨a, ha, hak⟩)
    simp [List.find?_append, this]

theorem mem_axisNotes {w : Voice} : w ∈ e.axisNotes ↔ ∃ a ∈ e.axes, a.2.note = some w := by
  simp [axisNotes]

/-- A voice an axis sounds after a memory is stored is the new memory's or was sounded before. -/
theorem mem_axisNotes_storeAxis {key : InputId} {m : AxisMemory} {w : Voice}
    (hw : w ∈ (e.storeAxis key m).axisNotes) : m.note = some w ∨ w ∈ e.axisNotes := by
  rw [mem_axisNotes] at hw ⊢
  obtain ⟨a, ha, hn⟩ := hw
  unfold storeAxis at ha
  split at ha
  · obtain ⟨b, hb, rfl⟩ := List.mem_map.mp ha
    split at hn
    · exact .inl hn
    · exact .inr ⟨b, hb, hn⟩
  · rcases List.mem_append.mp ha with ha | ha
    · exact .inr ⟨a, ha, hn⟩
    · simp only [List.mem_singleton] at ha
      subst ha
      exact .inl hn

theorem note_mem_axisNotes_storeAxis {key : InputId} {m : AxisMemory} {w : Voice}
    (hw : m.note = some w) : w ∈ (e.storeAxis key m).axisNotes := by
  rw [mem_axisNotes]
  unfold storeAxis
  split
  · rename_i hany
    obtain ⟨a, ha, hak⟩ := List.any_eq_true.mp hany
    exact ⟨(key, m), List.mem_map.mpr ⟨a, ha, by simp [hak]⟩, hw⟩
  · exact ⟨(key, m), by simp, hw⟩

/-- A voice another axis sounds is still sounded once a memory is stored. -/
theorem mem_axisNotes_storeAxis_of_mem (hnd : (e.axes.map (·.1)).Nodup) (key : InputId)
    (m : AxisMemory) {w : Voice} (hw : w ∈ e.axisNotes) :
    (e.axisMemory? key).bind (·.note) = some w ∨ w ∈ (e.storeAxis key m).axisNotes := by
  obtain ⟨a, ha, hn⟩ := mem_axisNotes.mp hw
  by_cases hak : a.1 = key
  · left
    rw [← hak, axisMemory?_of_mem hnd ha]
    exact hn
  · right
    rw [mem_axisNotes]
    unfold storeAxis
    split
    · exact ⟨a, List.mem_map.mpr ⟨a, ha, by simp [hak]⟩, hn⟩
    · exact ⟨a, List.mem_append_left _ ha, hn⟩

theorem axes_keys_storeAxis (key : InputId) (m : AxisMemory) :
    ((e.storeAxis key m).axes.map (·.1)) =
      if e.axes.any (·.1 == key) then e.axes.map (·.1) else e.axes.map (·.1) ++ [key] := by
  unfold storeAxis
  split
  · simp only [List.map_map]
    congr 1
    funext a
    by_cases hak : a.1 = key <;> simp [hak]
  · simp

theorem axes_nodup_storeAxis (hnd : (e.axes.map (·.1)).Nodup) (key : InputId) (m : AxisMemory) :
    ((e.storeAxis key m).axes.map (·.1)).Nodup := by
  rw [axes_keys_storeAxis]
  split
  · exact hnd
  · rename_i hany
    apply List.nodup_append.mpr
    refine ⟨hnd, List.nodup_singleton _, ?_⟩
    intro x hx y hy hxy
    rw [List.mem_singleton] at hy
    subst hy hxy
    obtain ⟨a, ha, rfl⟩ := List.mem_map.mp hx
    exact hany (List.any_eq_true.mpr ⟨a, ha, by simp⟩)

/-- Storing a memory moves the voice of the memory it replaces among the pending voices, and
takes the voice of the new memory out of them. -/
theorem CoversBut.storeAxis (hc : e.CoversBut P h) (hnd : (e.axes.map (·.1)).Nodup)
    {key : InputId} {m : AxisMemory}
    (hP : ∀ w ∈ P, w ∈ Q ∨ m.note = some w)
    (hold : ∀ w, (e.axisMemory? key).bind (·.note) = some w → w ∈ Q ∨ m.note = some w) :
    (e.storeAxis key m).CoversBut Q h := by
  intro w hw
  rw [storeAxis_outbox] at hw
  rcases hc w hw with (hpos | hax) | hp
  · exact .inl (.inl (by simpa using hpos))
  · rcases mem_axisNotes_storeAxis_of_mem hnd key m hax with hold' | hnew
    · rcases hold w hold' with hq | hm
      · exact .inr hq
      · exact .inl (.inr (note_mem_axisNotes_storeAxis hm))
    · exact .inl (.inr hnew)
  · rcases hP w hp with hq | hm
    · exact .inr hq
    · exact .inl (.inr (note_mem_axisNotes_storeAxis hm))

theorem mem_axisNotes_silenceAxes {keep : Option Nat} {w : Voice}
    (hw : w ∈ (e.silenceAxes keep).axisNotes) : w ∈ e.axisNotes := by
  simp only [mem_axisNotes, silenceAxes, List.mem_map] at hw ⊢
  obtain ⟨_, ⟨a, ha, rfl⟩, hn⟩ := hw
  split at hn
  · simp [AxisMemory.silence] at hn
  · exact ⟨a, ha, hn⟩

/-- A voice an axis sounds is taken, or still sounded after the others are silenced. -/
theorem mem_takenNotes_or (keep : Option Nat) {w : Voice} (hw : w ∈ e.axisNotes) :
    w ∈ e.takenNotes keep ∨ w ∈ (e.silenceAxes keep).axisNotes := by
  obtain ⟨a, ha, hn⟩ := mem_axisNotes.mp hw
  by_cases hs : a.2.sounds keep
  · left
    simp only [takenNotes, List.mem_filterMap]
    exact ⟨a, ha, by simp [hs, hn]⟩
  · right
    simp only [mem_axisNotes, silenceAxes, List.mem_map]
    exact ⟨a, ⟨a, ha, by simp [hs]⟩, hn⟩

theorem takenNotes_sub {keep : Option Nat} {w : Voice} (hw : w ∈ e.takenNotes keep) :
    w ∈ e.axisNotes := by
  simp only [takenNotes, List.mem_filterMap] at hw
  obtain ⟨a, ha, hn⟩ := hw
  split at hn
  · exact mem_axisNotes.mpr ⟨a, ha, hn⟩
  · cases hn

/-- Taking every note of the axes leaves none. -/
theorem axisNotes_silenceAxes_none : (e.silenceAxes none).axisNotes = [] := by
  simp only [axisNotes, silenceAxes, List.filterMap_map, List.filterMap_eq_nil_iff]
  intro a _
  by_cases hs : a.2.sounds none
  · simp [hs, AxisMemory.silence]
  · simp only [AxisMemory.sounds, Option.all_none, Bool.and_true, Option.isSome_iff_ne_none,
      ne_eq, not_not] at hs
    simp [AxisMemory.sounds, hs]

/-- The notes of axes taken, each with a note off. -/
theorem CoversBut.takeNotes (hc : e.CoversBut P h) (keep : Option Nat) :
    ((e.silenceAxes keep).pushAll ((e.takenNotes keep).map Voice.noteOff)).CoversBut P h := by
  apply CoversBut.pushAll_noteOffs
  intro w hw
  rw [silenceAxes_outbox] at hw
  rcases hc w hw with (hpos | hax) | hp
  · exact .inl (.inl hpos)
  · rcases mem_takenNotes_or keep hax with ht | hs
    · exact .inr (List.mem_append_left _ ht)
    · exact .inl (.inr hs)
  · exact .inr (List.mem_append_right _ hp)

/-! ### Soundness -/

/-- Soundness looks only at the profile, the tracker, the counts, the axes and the chord,
velocity, channel and layer of the position. -/
theorem Sound.frame (hs : e.Sound) (hp : e'.profile = e.profile) (hn : e'.notes = e.notes)
    (hc : e'.counts = e.counts) (ha : e'.axes = e.axes) (hchord : e'.position.chord.Nodup)
    (hvel : e'.position.velocity = e.position.velocity)
    (hb : e'.profile.WellFormed →
      e'.position.channel ≤ 15 ∧ e'.position.mapping < e'.profile.layers.length) :
    e'.Sound := by
  have hax : e'.axisNotes = e.axisNotes := by simp [axisNotes, ha]
  refine ⟨?_, ?_, ?_, ?_, ?_, ?_, ?_, ?_, hchord, ?_, hb⟩ <;>
    simp only [hp, hn, hc, ha, hax, hvel]
  exacts [hs.counts_eq, hs.keyed, hs.entry_ne_nil, hs.entry_nodup, hs.entry_unbound,
    hs.voices_addressed, hs.axisNotes_addressed, hs.axes_nodup, hs.velocity_eq]

/-- The bounds of a position that kept its channel and layer. -/
theorem Sound.bounded_of_eq (hs : e.Sound) (hp : e'.profile = e.profile)
    (hch : e'.position.channel = e.position.channel)
    (hmap : e'.position.mapping = e.position.mapping) : e'.profile.WellFormed →
      e'.position.channel ≤ 15 ∧ e'.position.mapping < e'.profile.layers.length := by
  rw [hp, hch, hmap]; exact hs.bounded

theorem Sound.pushAll (hs : e.Sound) (rs : List Request) : (e.pushAll rs).Sound :=
  hs.frame (by simp) (by simp) (by simp) (by simp) (by simpa using hs.chord_nodup) (by simp)
    (hs.bounded_of_eq (by simp) (by simp) (by simp))

/-- Letting go of a key keeps the counts and the tracker in step. -/
theorem Sound.releaseKey (hs : e.Sound) (key : InputId) : (e.releaseKey key).Sound := by
  have hsub : ∀ x ∈ (e.releaseKey key).notes.entries, x ∈ e.notes.entries := by
    intro x hx
    rw [releaseKey_notes, Tracker.mem_entries_remove] at hx
    exact hx.1
  have hvoices : ∀ v ∈ (e.releaseKey key).notes.voices, v ∈ e.notes.voices := by
    intro v hv
    simp only [Tracker.voices_eq_flatMap, List.mem_flatMap] at hv ⊢
    obtain ⟨x, hx, hv⟩ := hv
    exact ⟨x, hsub x hx, hv⟩
  refine ⟨fun w => ?_, ?_, fun x hx => hs.entry_ne_nil x (hsub x hx),
    fun x hx => hs.entry_nodup x (hsub x hx), fun x hx => ?_, fun v hv => ?_, ?_, ?_, ?_, ?_, ?_⟩
  · rw [releaseKey_counts, Counts.count_foldl_decrement, hs.counts_eq, releaseKey_notes]
    cases hf : e.notes.find? key with
    | none => simp [Tracker.remove_of_find?_none hf]
    | some vs =>
      have hp := (Tracker.voices_perm_remove hs.keyed hf).count_eq w
      rw [List.count_append] at hp
      simp only [Option.getD_some]
      omega
  · rw [releaseKey_notes]; exact Tracker.keyed_remove hs.keyed
  · simpa using hs.entry_unbound x (hsub x hx)
  · exact hs.voices_addressed v (hvoices v hv)
  · simpa [axisNotes] using hs.axisNotes_addressed
  · simpa using hs.axes_nodup
  · simpa using hs.chord_nodup
  · simpa using hs.velocity_eq
  · simpa using hs.bounded

/-- Pressing a key that no action is bound to keeps the counts and the tracker in step. -/
theorem Sound.pressKey (hs : e.Sound) {key : InputId}
    (hk : e.profile.actions.find? key.handler key.code = none) (t : NoteTarget) :
    (e.pressKey key t).Sound := by
  have hr := hs.releaseKey key
  set e₁ := e.releaseKey key with he₁
  set vs := e₁.position.pressVoices t with hvs
  have hf := foldl_strikeVoice_fields e₁ e₁.position.velocity vs
  have hnot : key ∉ e₁.notes.keys := by rw [he₁, releaseKey_notes]; exact Tracker.not_mem_keys_remove
  have hnd : vs.Nodup := pressVoices_nodup hr.chord_nodup t
  have hcount : ∀ w, (vs.foldl (Engine.strikeVoice e₁.position.velocity) e₁).counts.count w =
      e₁.notes.voices.count w + vs.count w := by
    intro w; rw [hf.2.2.2.2, Counts.count_foldl_increment, hr.counts_eq]
  unfold Engine.pressKey
  simp only [← he₁, ← hvs]
  split
  · rename_i hemp
    have hnil : vs = [] := List.isEmpty_iff.mp hemp
    refine hr.frame hf.1 hf.2.2.1 ?_ hf.2.2.2.1 (by rw [hf.2.1]; exact hr.chord_nodup)
      (by rw [hf.2.1]) (hr.bounded_of_eq hf.1 (by rw [hf.2.1]) (by rw [hf.2.1]))
    rw [hf.2.2.2.2, hnil]; rfl
  · rename_i hemp
    have hne : vs ≠ [] := fun h => hemp (List.isEmpty_iff.mpr h)
    have hmem : ∀ x ∈ (e₁.notes.insert key vs).entries, x = (key, vs) ∨ x ∈ e₁.notes.entries :=
      fun x hx => (Tracker.mem_entries_insert hnot).mp hx
    have hperm := @Tracker.voices_insert_perm e₁.notes key vs hnot
    refine ⟨fun w => ?_, ?_, fun x hx => ?_, fun x hx => ?_, fun x hx => ?_, fun v hv => ?_, ?_, ?_,
      ?_, ?_, ?_⟩
    · simp only [hf.2.2.1]
      rw [hcount, hperm.count_eq, List.count_append]; omega
    · simp only [hf.2.2.1]; exact Tracker.keyed_insert hr.keyed hnot
    · simp only [hf.2.2.1] at hx
      rcases hmem x hx with rfl | hx
      · exact hne
      · exact hr.entry_ne_nil x hx
    · simp only [hf.2.2.1] at hx
      rcases hmem x hx with rfl | hx
      · exact hnd
      · exact hr.entry_nodup x hx
    · simp only [hf.2.2.1, hf.1] at hx ⊢
      rcases hmem x hx with rfl | hx
      · simpa [he₁] using hk
      · exact hr.entry_unbound x hx
    · simp only [hf.2.2.1] at hv
      rcases List.mem_append.mp (hperm.mem_iff.mp hv) with hv | hv
      · exact pressVoices_addressed hv
      · exact hr.voices_addressed v hv
    · simpa [axisNotes, hf.2.2.2.1] using hr.axisNotes_addressed
    · simpa [hf.2.2.2.1] using hr.axes_nodup
    · simpa [hf.2.1] using hr.chord_nodup
    · simpa [hf.2.1, hf.1] using hr.velocity_eq
    · simpa [hf.2.1, hf.1] using hr.bounded

theorem axes_keys_silenceAxes (keep : Option Nat) :
    (e.silenceAxes keep).axes.map (·.1) = e.axes.map (·.1) := by
  simp only [silenceAxes, List.map_map]
  congr 1
  funext a
  by_cases hs : a.2.sounds keep <;> simp [hs]

theorem Sound.silenceAxes (hs : e.Sound) (keep : Option Nat) : (e.silenceAxes keep).Sound := by
  refine ⟨hs.counts_eq, hs.keyed, hs.entry_ne_nil, hs.entry_nodup, hs.entry_unbound,
    hs.voices_addressed, fun v hv => hs.axisNotes_addressed v (mem_axisNotes_silenceAxes hv), ?_,
    hs.chord_nodup, hs.velocity_eq, hs.bounded⟩
  rw [axes_keys_silenceAxes]; exact hs.axes_nodup

theorem Sound.storeAxis (hs : e.Sound) (key : InputId) {m : AxisMemory}
    (hm : ∀ v, m.note = some v → v.Addressed) : (e.storeAxis key m).Sound := by
  refine ⟨by simpa using hs.counts_eq, by simpa using hs.keyed, by simpa using hs.entry_ne_nil,
    by simpa using hs.entry_nodup, by simpa using hs.entry_unbound,
    by simpa using hs.voices_addressed, fun v hv => ?_, axes_nodup_storeAxis hs.axes_nodup key m,
    by simpa using hs.chord_nodup, by simpa using hs.velocity_eq, by simpa using hs.bounded⟩
  rcases mem_axisNotes_storeAxis hv with h | h
  · exact hm v h
  · exact hs.axisNotes_addressed v h

theorem Sound.releasedAll (hs : e.Sound) : e.releasedAll.Sound := by
  refine ⟨fun w => by simp [Tracker.voices_empty], by simp [Tracker.Keyed], by simp [Tracker.empty],
    by simp [Tracker.empty], by simp [Tracker.empty], by simp, fun v hv => ?_, ?_,
    by simpa using hs.chord_nodup, by simpa using hs.velocity_eq, by simpa using hs.bounded⟩
  · have : e.releasedAll.axisNotes = [] := by
      rw [axisNotes, releasedAll_axes]; exact axisNotes_silenceAxes_none
    simp [this] at hv
  · rw [releasedAll_axes, axes_keys_silenceAxes]; exact hs.axes_nodup

/-! ### What goes out -/

theorem dropVoice_outbox (v : Voice) : (e.dropVoice v).outbox.toList = e.outbox.toList ++
    (if e.profile.collision.releasePlan (e.counts.count v) then [v.noteOff] else []) := by
  unfold Engine.dropVoice; split <;> simp

theorem strikeVoice_outbox (vel : UInt8) (v : Voice) : (e.strikeVoice vel v).outbox.toList =
    e.outbox.toList ++
      ((if (e.profile.collision.pressPlan (e.counts.count v)).noteOffFirst then [v.noteOff]
        else []) ++
      (if (e.profile.collision.pressPlan (e.counts.count v)).noteOn then
        [.noteOn v.channel v.note vel] else [])) := by
  unfold Engine.strikeVoice; dsimp only; split <;> split <;> simp

theorem mem_outbox_foldl_dropVoice {vs : List Voice} {r : Request}
    (hr : r ∈ (vs.foldl Engine.dropVoice e).outbox.toList) :
    r ∈ e.outbox.toList ∨ ∃ v ∈ vs, r = v.noteOff := by
  induction vs generalizing e with
  | nil => exact .inl hr
  | cons v vs ih =>
    rcases ih hr with hr | ⟨w, hw, rfl⟩
    · rw [dropVoice_outbox] at hr
      rcases List.mem_append.mp hr with hr | hr
      · exact .inl hr
      · split at hr
        · exact .inr ⟨v, List.mem_cons_self, List.mem_singleton.mp hr⟩
        · cases hr
    · exact .inr ⟨w, List.mem_cons_of_mem _ hw, rfl⟩

theorem mem_outbox_foldl_strikeVoice {vel : UInt8} {vs : List Voice} {r : Request}
    (hr : r ∈ (vs.foldl (Engine.strikeVoice vel) e).outbox.toList) :
    r ∈ e.outbox.toList ∨ ∃ v ∈ vs, r = v.noteOff ∨ r = .noteOn v.channel v.note vel := by
  induction vs generalizing e with
  | nil => exact .inl hr
  | cons v vs ih =>
    rcases ih hr with hr | ⟨w, hw, hrw⟩
    · rw [strikeVoice_outbox] at hr
      rcases List.mem_append.mp hr with hr | hr
      · exact .inl hr
      · right
        refine ⟨v, List.mem_cons_self, ?_⟩
        split at hr <;> split at hr <;> simp_all
    · exact .inr ⟨w, List.mem_cons_of_mem _ hw, hrw⟩

/-- The requests a key's release adds are note offs for voices the key held. -/
theorem mem_outbox_releaseKey {key : InputId} {r : Request}
    (hr : r ∈ (e.releaseKey key).outbox.toList) :
    r ∈ e.outbox.toList ∨ ∃ v ∈ e.notes.voices, r = v.noteOff := by
  unfold Engine.releaseKey at hr
  split at hr
  · exact .inl hr
  · rename_i vs hf
    rcases mem_outbox_foldl_dropVoice hr with hr | ⟨v, hv, rfl⟩
    · exact .inl hr
    · refine .inr ⟨v, ?_, rfl⟩
      simp only [Tracker.voices_eq_flatMap, List.mem_flatMap]
      have := List.mem_of_find?_eq_some (Option.map_eq_some_iff.mp hf).choose_spec.1
      obtain ⟨x, hx, hxv⟩ := Option.map_eq_some_iff.mp hf
      exact ⟨x, List.mem_of_find?_eq_some hx, hxv ▸ hv⟩

/-! ### Strikes of silent voices -/

theorem silenceAxes_axes_eq_nil {keep : Option Nat} (ha : (e.silenceAxes keep).axes = []) :
    e.axes = [] := by
  simpa [silenceAxes] using ha

theorem storeAxis_axes_ne_nil (key : InputId) (m : AxisMemory) : (e.storeAxis key m).axes ≠ [] := by
  unfold storeAxis
  split
  · rename_i hany
    obtain ⟨a, ha, -⟩ := List.any_eq_true.mp hany
    simpa using List.ne_nil_of_mem ha
  · simp

theorem axes_ne_nil_of_axisMemory? {key : InputId} {m : AxisMemory}
    (hm : e.axisMemory? key = some m) : e.axes ≠ [] := by
  intro hax
  simp [axisMemory?, hax] at hm

theorem noteOffs_quiet (vs : List Voice) : ∀ r ∈ vs.map Voice.noteOff, ∀ c n x, r ≠ .noteOn c n x := by
  simp [Voice.noteOff]

/-- Strikes of silent voices look only at the profile, the axes and the outbox, and requests
other than note ons keep them. -/
theorem Fresh.append_quiet (hf : e.Fresh h) (hp : e'.profile = e.profile)
    (ha : e'.axes = [] → e.axes = []) {qs : List Request}
    (ho : e'.outbox.toList = e.outbox.toList ++ qs) (hq : ∀ r ∈ qs, ∀ c n x, r ≠ .noteOn c n x) :
    e'.Fresh h := by
  intro hax hm
  rw [ho, ← List.append_assoc]
  exact (hf (ha hax) (hp ▸ hm)).append_quiet hq

theorem Fresh.frame (hf : e.Fresh h) (hp : e'.profile = e.profile) (ha : e'.axes = e.axes)
    (ho : e'.outbox.toList = e.outbox.toList) : e'.Fresh h :=
  hf.append_quiet hp (fun hax => ha ▸ hax) (ho.trans (List.append_nil _).symm) fun _ hr => nomatch hr

/-- Once an axis has a memory, nothing is asked. -/
theorem fresh_of_axes_ne_nil (ha : e.axes ≠ []) : e.Fresh h := fun hax => absurd hax ha

theorem Fresh.dropVoice (hf : e.Fresh h) (v : Voice) : (e.dropVoice v).Fresh h := by
  refine hf.append_quiet (by simp) (by simp) (dropVoice_outbox v) fun r hr c n x => ?_
  split at hr
  · rw [List.mem_singleton.mp hr]; exact Voice.noteOff_ne_noteOn v c n x
  · cases hr

theorem Fresh.foldl_dropVoice (hf : e.Fresh h) (vs : List Voice) :
    (vs.foldl Engine.dropVoice e).Fresh h := by
  induction vs generalizing e with
  | nil => exact hf
  | cons v vs ih => exact ih (hf.dropVoice v)

theorem Fresh.releaseKey (hf : e.Fresh h) (key : InputId) : (e.releaseKey key).Fresh h := by
  unfold Engine.releaseKey
  split
  · exact hf
  · exact Fresh.foldl_dropVoice (show Fresh h { e with notes := (e.notes.remove key).2 } from hf) _

/-- In an exclusive mode a voice is struck only while silent: no repeat strikes only what no key
holds, and interrupt sends the note off of what a key holds first. -/
theorem Fresh.strikeVoice (hf : e.Fresh h) (hc : e.CoversBut [] h) (vel : UInt8) (v : Voice) :
    (e.strikeVoice vel v).Fresh h := by
  intro hax hm
  rw [strikeVoice_axes] at hax
  rw [strikeVoice_profile] at hm
  have hs := hf hax hm
  have hsilent : e.counts.count v = 0 → sounding (h ++ e.outbox.toList) v = false := by
    intro h0
    by_contra hsnd
    rcases hc v (by simpa using hsnd) with (hpos | hax') | hP
    · omega
    · simp [axisNotes, hax] at hax'
    · cases hP
  rw [strikeVoice_outbox]
  rcases Nat.eq_zero_or_pos (e.counts.count v) with h0 | hpos
  · have hon := hs.snoc_noteOn (hsilent h0) vel
    rcases hm with hm | hm <;> simpa [hm, h0, CollisionMode.pressPlan] using hon
  · rcases hm with hm | hm
    · simpa [hm, CollisionMode.pressPlan, Nat.pos_iff_ne_zero.mp hpos] using hs
    · have hoff : StrikesSilent (h ++ e.outbox.toList ++ [v.noteOff]) :=
        hs.append_quiet (by simpa using Voice.noteOff_ne_noteOn v)
      have hon := hoff.snoc_noteOn (w := v) (by rw [sounding_concat]; simp) vel
      simpa [hm, CollisionMode.pressPlan, hpos] using hon

theorem Fresh.foldl_strikeVoice (hf : e.Fresh h) (hc : e.CoversBut [] h) (vel : UInt8)
    (vs : List Voice) : (vs.foldl (Engine.strikeVoice vel) e).Fresh h := by
  induction vs generalizing e with
  | nil => exact hf
  | cons v vs ih => exact ih (hf.strikeVoice hc vel v) (hc.strikeVoice vel v)

theorem Fresh.pressKey (hf : e.Fresh h) (hc : e.CoversBut [] h) (key : InputId) (t : NoteTarget) :
    (e.pressKey key t).Fresh h := by
  have hs := (hf.releaseKey key).foldl_strikeVoice (hc.releaseKey key)
    (e.releaseKey key).position.velocity ((e.releaseKey key).position.pressVoices t)
  unfold Engine.pressKey
  dsimp only
  split
  · exact hs
  · exact hs

/-! ### The invariant -/

theorem Good.releaseKey (hg : e.Good p h) (key : InputId) : (e.releaseKey key).Good p h := by
  refine ⟨hg.sound.releaseKey key, hg.covers.releaseKey key, fun r hr => ?_,
    by simpa using hg.profile_eq, hg.fresh.releaseKey key⟩
  rw [releaseKey_profile]
  rcases mem_outbox_releaseKey hr with hr | ⟨v, hv, rfl⟩
  · exact hg.fits r hr
  · exact hg.sound.voices_addressed v hv

theorem Good.pressKey (hg : e.Good p h) {key : InputId}
    (hk : e.profile.actions.find? key.handler key.code = none) (t : NoteTarget) :
    (e.pressKey key t).Good p h := by
  have hg₁ := hg.releaseKey key
  have hf := foldl_strikeVoice_fields (e.releaseKey key) (e.releaseKey key).position.velocity
    ((e.releaseKey key).position.pressVoices t)
  have hp : (e.pressKey key t).profile = (e.releaseKey key).profile := by
    unfold Engine.pressKey; dsimp only; split <;> exact hf.1
  refine ⟨hg.sound.pressKey hk t, hg.covers.pressKey key t, fun r hr => ?_, hp.trans hg₁.profile_eq,
    hg.fresh.pressKey hg.covers key t⟩
  have hr' : r ∈ (((e.releaseKey key).position.pressVoices t).foldl
      (Engine.strikeVoice (e.releaseKey key).position.velocity) (e.releaseKey key)).outbox.toList := by
    unfold Engine.pressKey at hr; dsimp only at hr; split at hr <;> exact hr
  rw [hp]
  rcases mem_outbox_foldl_strikeVoice hr' with hr | ⟨v, hv, rfl | rfl⟩
  · exact hg₁.fits r hr
  · exact pressVoices_addressed hv
  · exact ⟨(pressVoices_addressed hv).1, (pressVoices_addressed hv).2,
      hg₁.sound.velocity_eq⟩

theorem Good.releasedAll (hg : e.Good p h) : e.releasedAll.Good p h := by
  refine ⟨hg.sound.releasedAll, ?_, fun r hr => ?_, by simpa using hg.profile_eq, ?_⟩
  · have hc₀ : ({ e with counts := .empty, notes := .empty } : Engine).CoversBut
        (e.notes.voices ++ []) h := by
      intro w hw
      rcases hg.covers w hw with (hpos | hax) | hp
      · rw [hg.sound.counts_eq] at hpos
        exact .inr (List.mem_append_left _ (List.count_pos_iff.mp hpos))
      · exact .inl (.inr hax)
      · cases hp
    have hc₂ := (CoversBut.pushAll_noteOffs hc₀).takeNotes none
    refine hc₂.frame (by simp) ?_ ?_
    · simp [releasedAll_axes, silenceAxes]
    · simp [releasedAll_outbox, takenNotes]
  · rw [releasedAll_outbox] at hr
    rw [releasedAll_profile]
    rcases List.mem_append.mp hr with hr | hr
    · rcases List.mem_append.mp hr with hr | hr
      · exact hg.fits r hr
      · obtain ⟨v, hv, rfl⟩ := List.mem_map.mp hr
        exact hg.sound.voices_addressed v hv
    · obtain ⟨v, hv, rfl⟩ := List.mem_map.mp hr
      exact hg.sound.axisNotes_addressed v (takenNotes_sub hv)
  · refine hg.fresh.append_quiet (by simp) (fun hax => ?_) (by rw [releasedAll_outbox,
      List.append_assoc]) fun r hr => ?_
    · rw [releasedAll_axes] at hax; exact silenceAxes_axes_eq_nil hax
    · rw [← List.map_append] at hr; exact noteOffs_quiet _ r hr

/-- All Notes Off on every channel, after every note is let go of. -/
theorem Good.panic (hg : e.Good p h) : (e.releasedAll.pushAll
    ((List.range 16).map fun ch => .controlChange ch.toUInt8 123 0)).Good p h := by
  have hr := hg.releasedAll
  have hcs : ((List.range 16).map fun ch => Request.controlChange ch.toUInt8 123 0) =
      (((List.range 16).map fun ch => (ch.toUInt8, (123 : UInt8), (0 : UInt8))).map
        fun c => .controlChange c.1 c.2.1 c.2.2) := by simp
  refine ⟨hr.sound.pushAll _, ?_, fun r hrm => ?_, by simpa using hr.profile_eq,
    hr.fresh.append_quiet (by simp) (by simp) (pushAll_outbox _ _) (by simp)⟩
  · rw [hcs]; exact hr.covers.pushAll_controlChanges
  · rw [pushAll_outbox] at hrm
    rw [pushAll_profile]
    rcases List.mem_append.mp hrm with hrm | hrm
    · exact hr.fits r hrm
    · obtain ⟨ch, hch, rfl⟩ := List.mem_map.mp hrm
      refine ⟨?_, .inl rfl⟩
      have := List.mem_range.mp hch
      rw [UInt8.le_iff_toNat_le]
      simp only [Nat.toUInt8_eq, UInt8.toNat_ofNat', UInt8.reduceToNat]
      omega

/-- The notes of axes taken, each with its note off. -/
theorem Good.takeNotes (hg : e.Good p h) (keep : Option Nat) :
    ((e.silenceAxes keep).pushAll ((e.takenNotes keep).map Voice.noteOff)).Good p h := by
  refine ⟨(hg.sound.silenceAxes keep).pushAll _, hg.covers.takeNotes keep, fun r hr => ?_,
    by simpa using hg.profile_eq, hg.fresh.append_quiet (by simp)
      (fun hax => silenceAxes_axes_eq_nil (by simpa using hax)) (pushAll_outbox _ _)
      (noteOffs_quiet _)⟩
  rw [pushAll_outbox, silenceAxes_outbox] at hr
  rw [pushAll_profile, silenceAxes_profile]
  rcases List.mem_append.mp hr with hr | hr
  · exact hg.fits r hr
  · obtain ⟨v, hv, rfl⟩ := List.mem_map.mp hr
    exact hg.sound.axisNotes_addressed v (takenNotes_sub hv)

/-- The invariant looks only at the profile, the tracker, the counts, the axes, the outbox and
the chord, velocity, channel and layer of the position. -/
theorem Good.frame (hg : e.Good p h) (hp : e'.profile = e.profile) (hn : e'.notes = e.notes)
    (hc : e'.counts = e.counts) (ha : e'.axes = e.axes)
    (ho : e'.outbox.toList = e.outbox.toList) (hchord : e'.position.chord.Nodup)
    (hvel : e'.position.velocity = e.position.velocity)
    (hb : e'.profile.WellFormed →
      e'.position.channel ≤ 15 ∧ e'.position.mapping < e'.profile.layers.length) :
    e'.Good p h :=
  ⟨hg.sound.frame hp hn hc ha hchord hvel hb, hg.covers.frame hc ha ho,
    fun r hr => hp ▸ hg.fits r (ho ▸ hr), hp.trans hg.profile_eq, hg.fresh.frame hp ha ho⟩

theorem Sound.push (hs : e.Sound) (r : Request) : (e.push r).Sound :=
  hs.frame rfl rfl rfl rfl hs.chord_nodup rfl hs.bounded

theorem note_mem_axisNotes {key : InputId} {m : AxisMemory} {v : Voice}
    (hm : e.axisMemory? key = some m) (hn : m.note = some v) : v ∈ e.axisNotes := by
  obtain ⟨a, ha, rfl⟩ := Option.map_eq_some_iff.mp hm
  exact mem_axisNotes.mpr ⟨a, List.mem_of_find?_eq_some ha, hn⟩

/-- A memory stored in place of one that sounds the same note. -/
theorem Good.storeAxis_same (hg : e.Good p h) {key : InputId} {m m' : AxisMemory}
    (hm : e.axisMemory? key = some m) (hn : m'.note = m.note) : (e.storeAxis key m').Good p h := by
  refine ⟨hg.sound.storeAxis key fun v hv => ?_, ?_, ?_, by simpa using hg.profile_eq,
    fresh_of_axes_ne_nil (storeAxis_axes_ne_nil key m')⟩
  · exact hg.sound.axisNotes_addressed v (note_mem_axisNotes hm (hn ▸ hv))
  · refine hg.covers.storeAxis hg.sound.axes_nodup (fun w hw => by cases hw) fun w hw => .inr ?_
    rw [hm] at hw
    exact hn ▸ hw
  · simpa using hg.fits

/-- A memory with no note stored in place of one with none. -/
theorem Good.storeAxis_quiet (hg : e.Good p h) {key : InputId} {m m' : AxisMemory}
    (hm : e.axisMemory? key = some m) (hn : m.note = none) (hn' : m'.note = none) :
    (e.storeAxis key m').Good p h :=
  hg.storeAxis_same hm (hn'.trans hn.symm)

/-- A memory with no note stored in place of one that sounds `v`, then the note off of `v`. -/
theorem Good.storeAxis_off (hg : e.Good p h) {key : InputId} {m m' : AxisMemory} {v : Voice}
    (hm : e.axisMemory? key = some m) (hn : m.note = some v) (hn' : m'.note = none) :
    ((e.storeAxis key m').push v.noteOff).Good p h := by
  have hv := hg.sound.axisNotes_addressed v (note_mem_axisNotes hm hn)
  refine ⟨(hg.sound.storeAxis key fun w hw => by simp [hn'] at hw).push _, ?_, fun r hr => ?_,
    by simpa using hg.profile_eq, fresh_of_axes_ne_nil (by simpa using storeAxis_axes_ne_nil key m')⟩
  · apply CoversBut.push_noteOff
    refine hg.covers.storeAxis hg.sound.axes_nodup (fun w hw => by cases hw) fun w hw => .inl ?_
    rw [hm, Option.bind_some, hn] at hw
    simp [← Option.some.inj hw]
  · rw [push_outbox, storeAxis_outbox] at hr
    rw [push_profile, storeAxis_profile]
    rcases List.mem_append.mp hr with hr | hr
    · exact hg.fits r hr
    · rw [List.mem_singleton.mp hr]; exact hv

/-! ### Memories of axes, as the steps of an axis store them -/

/-- A memory stored over another one for the same axis replaces it. -/
@[simp] theorem storeAxis_storeAxis (key : InputId) (m m' : AxisMemory) :
    (e.storeAxis key m).storeAxis key m' = e.storeAxis key m' := by
  unfold storeAxis
  split
  · rename_i hany
    have hany' : ((e.axes.map fun a => if a.1 == key then (key, m) else a).any (·.1 == key)) = true := by
      obtain ⟨a, ha, hak⟩ := List.any_eq_true.mp hany
      exact List.any_eq_true.mpr ⟨(key, m), List.mem_map.mpr ⟨a, ha, by simp [hak]⟩, by simp⟩
    simp only [hany', if_true, List.map_map]
    congr 2
    funext a
    by_cases hak : a.1 = key <;> simp [hak]
  · rename_i hany
    simp only [List.any_append, List.any_cons, List.any_nil, beq_self_eq_true,
      if_true, List.map_append, List.map_cons, List.map_nil, if_true]
    have hnone : ∀ a ∈ e.axes, ¬ (a.1 = key) := fun a ha hak =>
      hany (List.any_eq_true.mpr ⟨a, ha, by simp [hak]⟩)
    rw [List.map_congr_left (g := id) (fun a ha => by simp [hnone a ha]), List.map_id]
    simp

/-- A request sent and a memory stored, in either order. -/
@[simp] theorem push_storeAxis (r : Request) (key : InputId) (m : AxisMemory) :
    (e.push r).storeAxis key m = (e.storeAxis key m).push r := by
  unfold storeAxis
  rw [push_axes]
  by_cases hany : (e.axes.any fun x => x.1 == key) = true
  · simp only [hany, if_true]; rfl
  · simp only [hany]; rfl

@[simp] theorem axisMemory?_push (r : Request) (key : InputId) :
    (e.push r).axisMemory? key = e.axisMemory? key := rfl

/-- A memory stored after the memory of an axis is recalled is stored over the one it had. -/
@[simp] theorem recallAxis_storeAxis (key : InputId) (layer : Nat) (m : AxisMemory) :
    (e.recallAxis key layer).2.storeAxis key m = e.storeAxis key m := by
  unfold recallAxis; split <;> simp

/-- The note of a recalled memory is the note the axis sounded. -/
theorem recallAxis_note (key : InputId) (layer : Nat) :
    (e.recallAxis key layer).1.note = (e.axisMemory? key).bind (·.note) := by
  unfold recallAxis; split <;> simp_all

theorem Good.recallAxis (hg : e.Good p h) (key : InputId) (layer : Nat) :
    (e.recallAxis key layer).2.Good p h := by
  unfold Engine.recallAxis
  split
  · exact hg
  · rename_i hm
    refine ⟨hg.sound.storeAxis key (fun v hv => by cases hv), ?_, by simpa using hg.fits,
      by simpa using hg.profile_eq, fresh_of_axes_ne_nil (storeAxis_axes_ne_nil key _)⟩
    exact hg.covers.storeAxis hg.sound.axes_nodup (fun w hw => by cases hw)
      fun w hw => by simp [hm] at hw

/-- A memory that sounds what the axis sounded. -/
theorem Good.storeAxis_keep (hg : e.Good p h) {key : InputId} {m : AxisMemory}
    (hn : m.note = (e.axisMemory? key).bind (·.note)) : (e.storeAxis key m).Good p h := by
  refine ⟨hg.sound.storeAxis key fun v hv => ?_, ?_, by simpa using hg.fits,
    by simpa using hg.profile_eq, fresh_of_axes_ne_nil (storeAxis_axes_ne_nil key m)⟩
  · rw [hn, Option.bind_eq_some_iff] at hv
    obtain ⟨m₀, hm₀, hv⟩ := hv
    exact hg.sound.axisNotes_addressed v (note_mem_axisNotes hm₀ hv)
  · exact hg.covers.storeAxis hg.sound.axes_nodup (fun w hw => by cases hw)
      fun w hw => .inr (hn ▸ hw)

/-- A request that changes no note, built from the engine's values. -/
theorem Good.push_quiet (hg : e.Good p h) {r : Request} (hr : r.Fits e.profile)
    (hq : ∀ w b, r.turn w b = b) : (e.push r).Good p h := by
  refine ⟨hg.sound.push r, fun w hw => ?_, fun r' hr' => ?_, hg.profile_eq,
    hg.fresh.append_quiet rfl id (push_outbox _ r) fun r' hr' c n x hon => ?_⟩
  · rw [sounding_push, hq] at hw
    exact hg.covers w hw
  · rw [push_outbox] at hr'
    rcases List.mem_append.mp hr' with hr' | hr'
    · exact hg.fits r' hr'
    · rw [List.mem_singleton.mp hr']; exact hr
  · have hturn := hq ⟨c, n⟩ false
    rw [← List.mem_singleton.mp hr', hon] at hturn
    simp [Request.turn] at hturn

theorem Good.push_controlChange (hg : e.Good p h) {c k : UInt8} (hc : c ≤ 15)
    (hk : k = 123 ∨ e.profile.Controls k) (x : UInt8) : (e.push (.controlChange c k x)).Good p h :=
  hg.push_quiet ⟨hc, hk⟩ fun _ _ => rfl

theorem Good.push_pitchBend (hg : e.Good p h) {c : UInt8} (hc : c ≤ 15) (x : Float) :
    (e.push (.pitchBend c x)).Good p h :=
  hg.push_quiet hc fun _ _ => rfl

/-- The note off of what an axis sounded, once its memory no longer sounds it. -/
theorem Good.storeAxis_silence (hg : e.Good p h) {key : InputId} {m : AxisMemory} {v : Voice}
    (hold : (e.axisMemory? key).bind (·.note) = some v) (hn : m.note = none) :
    ((e.storeAxis key m).push v.noteOff).Good p h := by
  obtain ⟨m₀, hm₀, hv⟩ := Option.bind_eq_some_iff.mp hold
  exact hg.storeAxis_off hm₀ hv hn

/-- A note on of what the memory of an axis now sounds. -/
theorem Good.push_strike (hg : e.Good p h) {key : InputId} {m : AxisMemory} {c n x : UInt8}
    (hm : e.axisMemory? key = some m) (hn : m.note = some ⟨c, n⟩)
    (hx : x = e.profile.defaults.velocity) : (e.push (.noteOn c n x)).Good p h := by
  have hv := hg.sound.axisNotes_addressed _ (note_mem_axisNotes hm hn)
  refine ⟨hg.sound.push _, fun w hw => ?_, fun r hr => ?_, hg.profile_eq,
    fresh_of_axes_ne_nil (by simpa using axes_ne_nil_of_axisMemory? hm)⟩
  · rw [sounding_push] at hw
    by_cases hw' : (⟨c, n⟩ : Voice) = w
    · subst hw'; exact .inl (.inr (note_mem_axisNotes hm hn))
    · simp only [Request.turn, hw', if_false] at hw
      exact hg.covers w hw
  · rw [push_outbox] at hr
    rcases List.mem_append.mp hr with hr | hr
    · exact hg.fits r hr
    · rw [List.mem_singleton.mp hr]; exact ⟨hv.1, hv.2, hx⟩

/-- A memory that sounds a voice stored where the axis sounded none, then the note on of the
voice. -/
theorem Good.storeAxis_strike (hg : e.Good p h) {key : InputId} {m : AxisMemory} {c n x : UInt8}
    (hold : (e.axisMemory? key).bind (·.note) = none) (hn : m.note = some ⟨c, n⟩)
    (hv : (⟨c, n⟩ : Voice).Addressed) (hx : x = e.profile.defaults.velocity) :
    ((e.storeAxis key m).push (.noteOn c n x)).Good p h := by
  have hs : (e.storeAxis key m).Good p h := by
    refine ⟨hg.sound.storeAxis key fun v hv' => ?_, ?_, by simpa using hg.fits,
      by simpa using hg.profile_eq, fresh_of_axes_ne_nil (storeAxis_axes_ne_nil key m)⟩
    · rw [hn, Option.some.injEq] at hv'
      exact hv' ▸ hv
    · exact hg.covers.storeAxis hg.sound.axes_nodup (fun w hw => by cases hw)
        fun w hw => by simp [hold] at hw
  exact hs.push_strike (axisMemory?_storeAxis_self key m) hn (by simpa using hx)

end Engine

end KeyMidi
