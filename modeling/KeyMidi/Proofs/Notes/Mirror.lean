import Mathlib
import KeyMidi.Proofs.Midi.Receiver
/-!
# The mirror of the external input

A listener (`ExternalNotes`) follows the packets it receives. The receiver it stands for keeps a
table of sixteen channels of 128 notes (`Voice.table`); this module shows that the listener's list
of voices behaves as that table, for every sequence of packets:

- every message read from bytes has its fields in range, and a note on has a velocity
  (`Message.parse?_inRange`), so every note message names a voice of the table
  (`Packet.mem_table_of_noteFor`) and no packet changes a voice outside it
  (`ExternalNotes.apply_frame`);
- one packet sets the voice of its note message and keeps every other (`ExternalNotes.mem_apply`);
  from a silent start a voice is held exactly when the last note message of it is a note on
  (`ExternalNotes.mem_foldl_apply`, `struck_iff_lastStrikes`);
- the list holds each voice once and only voices of the table (`ExternalNotes.Tabled`), so its
  length is the number of held voices of the table (`ExternalNotes.Tabled.heldCount_eq`).

`ExternalNotes.mirror_laws` gathers these for a listener that starts silent.
-/

namespace KeyMidi

open KeyMidi.Midi

/-! ## Decoded messages are in range -/

namespace Midi.Message

/-- Every field of a message fits its width, and a note on has a velocity. -/
def InRange : Message → Prop
  | .noteOn c n v => c ≤ 15 ∧ n ≤ 127 ∧ 0 < v ∧ v ≤ 127
  | .noteOff c n => c ≤ 15 ∧ n ≤ 127
  | .controlChange c k v => c ≤ 15 ∧ k ≤ 127 ∧ v ≤ 127
  | .pitchBend c _ => c ≤ 15
  | .other _ => True

/-- A message that is not about notes: a controller change, a pitch bend, or another channel
message. -/
def Quiet : Message → Prop
  | .controlChange .. | .pitchBend .. | .other _ => True
  | _ => False

theorem parse?_inRange {bs : List UInt8} {m : Message} (h : parse? bs = some m) : m.InRange := by
  match bs with
  | [] => simp [parse?] at h
  | s :: rest =>
    have hc : s &&& 0x0F ≤ 15 := UInt8.and_le_right
    have hd : ∀ {k : Nat} {y : UInt8}, (rest[k]?).map (· &&& 0x7F) = some y → y ≤ 127 := by
      intro k y hy
      obtain ⟨x, -, rfl⟩ := Option.map_eq_some_iff.mp hy
      exact UInt8.and_le_right
    simp only [parse?] at h
    split_ifs at h
    · obtain ⟨n, hn, rfl⟩ := Option.map_eq_some_iff.mp h
      exact ⟨hc, hd hn⟩
    · split at h
      · rename_i n v hn hv
        -- velocity 0 is read as a note off
        split_ifs at h with h0 <;> cases h
        · exact ⟨hc, hd hn⟩
        · exact ⟨hc, hd hn, UInt8.pos_iff_ne_zero.mpr h0, hd hv⟩
      · cases h
    · split at h
      · rename_i k v hk hv
        cases h
        exact ⟨hc, hd hk, hd hv⟩
      · cases h
    · split at h
      · cases h
        exact hc
      · cases h
    · cases h
      trivial

end Midi.Message

/-! ## The table of voices -/

/-- The receiver's table of voices: sixteen channels of 128 notes, channel by channel. -/
def Voice.table : List Voice :=
  (List.range 16).flatMap fun c => (List.range 128).map fun n => ⟨c.toUInt8, n.toUInt8⟩

namespace Voice

theorem mem_table {w : Voice} : w ∈ table ↔ w.channel ≤ 15 ∧ w.note ≤ 127 := by
  simp only [table, List.mem_flatMap, List.mem_range, List.mem_map]
  constructor
  · rintro ⟨c, hc, n, hn, rfl⟩
    simp [UInt8.le_iff_toNat_le]
    omega
  · rintro ⟨hc, hn⟩
    refine ⟨w.channel.toNat, ?_, w.note.toNat, ?_, by simp⟩
    · simpa [UInt8.le_iff_toNat_le, Nat.lt_succ_iff] using hc
    · simpa [UInt8.le_iff_toNat_le, Nat.lt_succ_iff] using hn

/-- Numbers below 256 are told apart by their bytes. -/
theorem toUInt8_inj {a b : Nat} (ha : a < 256) (hb : b < 256) (h : a.toUInt8 = b.toUInt8) :
    a = b := by
  have := congrArg UInt8.toNat h
  simp at this
  omega

theorem nodup_table : table.Nodup := by
  refine List.nodup_flatMap.2 ⟨fun c hc => List.nodup_range.map_on ?_, ?_⟩
  · intro a ha b hb h
    simp only [List.mem_range, Voice.mk.injEq, true_and] at ha hb h
    exact toUInt8_inj (by omega) (by omega) h
  · refine List.nodup_range.pairwise_of_forall_ne fun c hc c' hc' hne => ?_
    simp only [List.mem_range] at hc hc'
    simp only [Function.onFun, List.disjoint_left, List.mem_map, List.mem_range]
    rintro w ⟨n, -, rfl⟩ ⟨n', -, h⟩
    exact hne (toUInt8_inj (by omega) (by omega) (Voice.mk.inj h).1.symm)

/-- A voice of the table is its own masked form. -/
theorem mask_of_mem_table {w : Voice} (hw : w ∈ table) :
    (⟨w.channel &&& 0x0F, w.note &&& 0x7F⟩ : Voice) = w := by
  obtain ⟨hc, hn⟩ := mem_table.mp hw
  rw [UInt8.and_channel hc, UInt8.and_seven hn]

end Voice

/-! ## What a packet says of a voice -/

namespace Midi.Packet

/-- What a packet says of a voice: `some true` when it is a note on of the voice, `some false`
when it is a note off of it (a note on with velocity 0 among them), `none` otherwise. -/
def noteFor (p : Packet) (w : Voice) : Option Bool :=
  match p.message with
  | some (.noteOn c n _) => if (⟨c, n⟩ : Voice) = w then some true else none
  | some (.noteOff c n) => if (⟨c, n⟩ : Voice) = w then some false else none
  | _ => none

theorem noteFor_eq_some_true {p : Packet} {w : Voice} :
    p.noteFor w = some true ↔ ∃ v, p.message = some (.noteOn w.channel w.note v) ∧ 0 < v := by
  have hr := fun m (h : p.message = some m) => Message.parse?_inRange h
  unfold noteFor
  cases hm : p.message with
  | none => simp
  | some m =>
    cases m with
    | noteOn c n v =>
      by_cases h : (⟨c, n⟩ : Voice) = w
      · subst h
        simpa using (hr _ hm).2.2.1
      · simp only [h, if_false, reduceCtorEq, false_iff, not_exists, not_and]
        rintro v' ⟨rfl, rfl, -⟩
        exact absurd rfl h
    | _ => simp

/-- Only voices of the table have note messages. -/
theorem mem_table_of_noteFor {p : Packet} {w : Voice} (h : p.noteFor w ≠ none) :
    w ∈ Voice.table := by
  have hr := fun m (h : p.message = some m) => Message.parse?_inRange h
  unfold noteFor at h
  cases hm : p.message with
  | none => simp [hm] at h
  | some m =>
    rw [hm] at h
    cases m with
    | noteOn c n v =>
      by_cases hw : (⟨c, n⟩ : Voice) = w
      · subst hw
        exact Voice.mem_table.mpr ⟨(hr _ hm).1, (hr _ hm).2.1⟩
      · simp [hw] at h
    | noteOff c n =>
      by_cases hw : (⟨c, n⟩ : Voice) = w
      · subst hw
        exact Voice.mem_table.mpr (hr _ hm)
      · simp [hw] at h
    | _ => simp at h

end Midi.Packet

/-! ## The last note message of a voice -/

/-- The last note message of voice `w` among packets `ps` is a note on, with a velocity. -/
def LastStrikes (ps : List Packet) (w : Voice) : Prop :=
  ∃ pre p post v, ps = pre ++ p :: post ∧ p.message = some (.noteOn w.channel w.note v) ∧ 0 < v ∧
    ∀ q ∈ post, q.noteFor w = none

/-- Whether voice `w` sounds after packets `ps`, read message by message. -/
def struck (ps : List Packet) (w : Voice) : Bool := ps.foldl (fun b p => (p.noteFor w).getD b) false

theorem struck_append_singleton {ps : List Packet} {p : Packet} {w : Voice} :
    struck (ps ++ [p]) w = true ↔
      p.noteFor w = some true ∨ (p.noteFor w = none ∧ struck ps w = true) := by
  simp only [struck, List.foldl_append, List.foldl_cons, List.foldl_nil]
  cases p.noteFor w with
  | none => simp
  | some b => cases b <;> simp

theorem lastStrikes_append_singleton {ps : List Packet} {p : Packet} {w : Voice} :
    LastStrikes (ps ++ [p]) w ↔
      p.noteFor w = some true ∨ (p.noteFor w = none ∧ LastStrikes ps w) := by
  constructor
  · rintro ⟨pre, q, post, v, hps, hq, hv, hpost⟩
    rcases List.eq_nil_or_concat post with rfl | ⟨post', y, rfl⟩
    · obtain ⟨rfl, hp⟩ := List.append_inj' hps rfl
      cases List.singleton_inj.mp hp
      exact .inl (Packet.noteFor_eq_some_true.mpr ⟨v, hq, hv⟩)
    · rw [List.concat_eq_append, ← List.cons_append, ← List.append_assoc] at hps
      rw [List.concat_eq_append] at hpost
      obtain ⟨rfl, hp⟩ := List.append_inj' hps rfl
      cases List.singleton_inj.mp hp
      exact .inr ⟨hpost _ (by simp), pre, q, post', v, rfl, hq, hv, fun r hr => hpost r (by simp [hr])⟩
  · rintro (h | ⟨hnone, pre, q, post, v, rfl, hq, hv, hpost⟩)
    · obtain ⟨v, hv, hpos⟩ := Packet.noteFor_eq_some_true.mp h
      exact ⟨ps, p, [], v, rfl, hv, hpos, by simp⟩
    · refine ⟨pre, q, post ++ [p], v, by simp, hq, hv, ?_⟩
      simpa [or_imp, forall_and] using ⟨hpost, hnone⟩

theorem struck_iff_lastStrikes (ps : List Packet) (w : Voice) :
    struck ps w = true ↔ LastStrikes ps w := by
  induction ps using List.reverseRecOn with
  | nil => simp [struck, LastStrikes]
  | append_singleton ps p ih => rw [struck_append_singleton, lastStrikes_append_singleton, ih]

instance (ps : List Packet) (w : Voice) : Decidable (LastStrikes ps w) :=
  decidable_of_iff _ (struck_iff_lastStrikes ps w)

/-! ## The listener -/

namespace ExternalNotes

/-- The membership of a voice after a packet: set by a note message of it, kept otherwise. -/
theorem mem_apply {e : ExternalNotes} {p : Packet} {w : Voice} :
    w ∈ (e.apply p).held ↔ p.noteFor w = some true ∨ (p.noteFor w = none ∧ w ∈ e.held) := by
  unfold apply Packet.noteFor
  cases p.message with
  | none => simp
  | some m =>
    cases m with
    | noteOn c n _ | noteOff c n =>
      by_cases h : (⟨c, n⟩ : Voice) = w
      · simp [h]
      · simp [h, Ne.symm h]
    | _ => simp

theorem mem_foldl_apply {ps : List Packet} {w : Voice} :
    w ∈ (ps.foldl apply empty).held ↔ struck ps w = true := by
  induction ps using List.reverseRecOn with
  | nil => simp [empty, struck]
  | append_singleton ps p ih =>
    rw [List.foldl_append, List.foldl_cons, List.foldl_nil, mem_apply, struck_append_singleton, ih]

/-- A packet changes no voice outside the table. -/
theorem apply_frame (e : ExternalNotes) (p : Packet) {w : Voice} (hw : w ∉ Voice.table) :
    w ∈ (e.apply p).held ↔ w ∈ e.held := by
  have hnone : p.noteFor w = none := by
    by_contra h
    exact hw (Packet.mem_table_of_noteFor h)
  simp [mem_apply, hnone]

/-- What the listener's list keeps: each voice once, and only voices of the table. -/
structure Tabled (e : ExternalNotes) : Prop where
  nodup : e.held.Nodup
  sub_table : ∀ w ∈ e.held, w ∈ Voice.table

theorem tabled_empty : empty.Tabled := ⟨List.nodup_nil, by simp [empty]⟩

theorem Tabled.apply {e : ExternalNotes} (h : e.Tabled) (p : Packet) : (e.apply p).Tabled := by
  refine ⟨?_, fun w hw => ?_⟩
  · have hnd : ∀ v : Voice, (e.held.filter (· != v)).Nodup := fun v => h.nodup.filter _
    unfold ExternalNotes.apply
    split
    · exact List.nodup_cons.2 ⟨by simp, hnd _⟩
    · exact hnd _
    · exact h.nodup
  · rcases mem_apply.mp hw with hon | ⟨-, hw⟩
    · exact Packet.mem_table_of_noteFor (p := p) (by simp [hon])
    · exact h.sub_table w hw

theorem Tabled.foldl {e : ExternalNotes} (h : e.Tabled) (ps : List Packet) :
    (ps.foldl ExternalNotes.apply e).Tabled := by
  induction ps generalizing e with
  | nil => exact h
  | cons p ps ih => exact ih (h.apply p)

/-- The count of held voices is the count of the table's voices that are held. -/
theorem Tabled.heldCount_eq {e : ExternalNotes} (h : e.Tabled) :
    e.heldCount = (Voice.table.filter fun w => e.isHeld w.channel w.note).length := by
  have hfilter : Voice.table.filter (fun w => e.isHeld w.channel w.note) =
      Voice.table.filter (fun w => w ∈ e.held) :=
    List.filter_congr fun w hw => by simp [isHeld, Voice.mask_of_mem_table hw]
  have hperm : (Voice.table.filter (fun w => w ∈ e.held)).Perm e.held := by
    refine (List.perm_ext_iff_of_nodup (Voice.nodup_table.filter _) h.nodup).2 fun w => ?_
    simp only [List.mem_filter, decide_eq_true_eq, and_iff_right_iff_imp]
    exact h.sub_table w
  rw [heldCount, hfilter, hperm.length_eq]

/-- **The listener mirrors the last note message of each voice.** After any packets, from silence,
a voice (channel and note masked to their widths) is held exactly when the last note message of
it is a note on; the count of held voices is the number of voices of the table for which that is
so; messages that are not about notes change nothing; and no packet changes a voice outside the
table. -/
theorem mirror_laws (ps : List Packet) :
    (∀ c n : UInt8,
      (ps.foldl apply empty).isHeld c n = true ↔ LastStrikes ps ⟨c &&& 0x0F, n &&& 0x7F⟩) ∧
    (ps.foldl apply empty).heldCount =
      (Voice.table.filter fun w => decide (LastStrikes ps w)).length ∧
    (∀ (e : ExternalNotes) (p : Packet) (m : Message), p.message = some m → m.Quiet →
      e.apply p = e) ∧
    ∀ (e : ExternalNotes) (p : Packet) (w : Voice), w ∉ Voice.table →
      (w ∈ (e.apply p).held ↔ w ∈ e.held) := by
  have hmem : ∀ w, w ∈ (ps.foldl apply empty).held ↔ LastStrikes ps w := fun w =>
    mem_foldl_apply.trans (struck_iff_lastStrikes ps w)
  refine ⟨fun c n => ?_, ?_, fun e p m hm hq => ?_, apply_frame⟩
  · simp [isHeld, hmem]
  · rw [(tabled_empty.foldl ps).heldCount_eq]
    congr 1
    exact List.filter_congr fun w hw => by simp [isHeld, Voice.mask_of_mem_table hw, hmem]
  · unfold apply
    cases m <;> simp_all [Message.Quiet]

/-- The listener of the loopback test: two note ons, a controller, and a note on with velocity 0
leave the first voice alone held. -/
example : LastStrikes [Packet.noteOn 2 60 100, Packet.noteOn 2 64 100,
    Packet.controlChange 2 64 127, Packet.noteOn 2 64 0] ⟨2, 60⟩ ∧
    ¬ LastStrikes [Packet.noteOn 2 60 100, Packet.noteOn 2 64 100,
      Packet.controlChange 2 64 127, Packet.noteOn 2 64 0] ⟨2, 64⟩ := by
  decide

end ExternalNotes

end KeyMidi
