import Mathlib
import KeyMidi.Engine.Machine
import KeyMidi.Notes.External
/-!
# What a listener hears of the engine's requests

The engine asks for messages by their values (`Request`); the encoder cuts every value to its
width and a listener (`ExternalNotes`) follows the notes of the packets it receives. This module
reads the listener's notes off the requests:

* the status byte of every encoder keeps its kind and the low four bits of the channel
  (`Packet.status_fields`), so each packet reads back as the message asked for, cut to width
  (`Packet.message_noteOn`, `Packet.message_noteOff`, `Packet.message_controlChange`,
  `Packet.message_pitchBend`);
* `Request.turn` says whether a voice sounds after a request, given whether it sounded before, and
  `sounding` folds it over a list of requests: a voice sounds when the last note request for it
  is a note on, whatever its velocity;
* a listener that started silent and heard only requests that address voices in range
  (`Request.Addressed`) holds only voices that the requests leave sounding
  (`sounding_of_mem_held`). It may hold fewer: a note on with velocity 0 is a note off to it.
* in requests where every note on strikes a voice the requests before it leave silent
  (`StrikesSilent`), two note ons of one voice have its note off between them
  (`StrikesSilent.noteOff_between`).
-/

namespace KeyMidi

open KeyMidi.Midi

/-! ## Packets -/

namespace Midi.Packet

/-- A status byte built from a kind and a channel reads back as both. -/
theorem status_fields : ∀ c : UInt8,
    (isChannelStatus (0x80 ||| (c &&& 0x0F)) ∧ (0x80 ||| (c &&& 0x0F)) &&& 0xF0 = 0x80 ∧
      (0x80 ||| (c &&& 0x0F)) &&& 0x0F = c &&& 0x0F) ∧
    (isChannelStatus (0x90 ||| (c &&& 0x0F)) ∧ (0x90 ||| (c &&& 0x0F)) &&& 0xF0 = 0x90 ∧
      (0x90 ||| (c &&& 0x0F)) &&& 0x0F = c &&& 0x0F) ∧
    (isChannelStatus (0xB0 ||| (c &&& 0x0F)) ∧ (0xB0 ||| (c &&& 0x0F)) &&& 0xF0 = 0xB0 ∧
      (0xB0 ||| (c &&& 0x0F)) &&& 0x0F = c &&& 0x0F) ∧
    (isChannelStatus (0xE0 ||| (c &&& 0x0F)) ∧ (0xE0 ||| (c &&& 0x0F)) &&& 0xF0 = 0xE0) := by
  decide +kernel

@[simp] theorem mask_mask (x : UInt8) : x &&& 0x7F &&& 0x7F = x &&& 0x7F := by
  rw [UInt8.and_assoc]; rfl

theorem message_noteOn (c n v : UInt8) : (Packet.noteOn c n v).message =
    some (if v &&& 0x7F = 0 then .noteOff (c &&& 0x0F) (n &&& 0x7F)
      else .noteOn (c &&& 0x0F) (n &&& 0x7F) (v &&& 0x7F)) := by
  obtain ⟨-, ⟨h₁, h₂, h₃⟩, -, -⟩ := status_fields c
  simp [Packet.noteOn, Packet.note, three, message, bytes, Message.parse?, h₁, h₂, h₃]

theorem message_noteOff (c n : UInt8) :
    (Packet.noteOff c n).message = some (.noteOff (c &&& 0x0F) (n &&& 0x7F)) := by
  obtain ⟨⟨h₁, h₂, h₃⟩, -, -, -⟩ := status_fields c
  simp [Packet.noteOff, Packet.note, three, message, bytes, Message.parse?, h₁, h₂, h₃]

theorem message_controlChange (c k v : UInt8) : (Packet.controlChange c k v).message =
    some (.controlChange (c &&& 0x0F) (k &&& 0x7F) (v &&& 0x7F)) := by
  obtain ⟨-, -, ⟨h₁, h₂, h₃⟩, -⟩ := status_fields c
  simp [Packet.controlChange, three, message, bytes, Message.parse?, h₁, h₂, h₃]

/-- A pitch bend reads back as a pitch bend; its position is the bend's business. -/
theorem message_pitchBend (c : UInt8) (x : Float) :
    ∃ ch b, (Packet.pitchBend c x).message = some (.pitchBend ch b) := by
  obtain ⟨-, -, -, h₁, h₂⟩ := status_fields c
  simp [Packet.pitchBend, pitchBendTo, three, message, bytes, Message.parse?, h₁, h₂]

end Midi.Packet

/-- Cutting a value that fits leaves it as it is. -/
theorem UInt8.and_eq_self_of_le {x : UInt8} {k : Nat} (m : UInt8) (hm : m.toNat = 2 ^ k - 1)
    (h : x.toNat < 2 ^ k) : x &&& m = x := by
  apply UInt8.toNat_inj.mp
  rw [UInt8.toNat_and, hm, Nat.and_two_pow_sub_one_eq_mod, Nat.mod_eq_of_lt h]

theorem UInt8.and_channel {x : UInt8} (h : x ≤ 15) : x &&& 0x0F = x :=
  UInt8.and_eq_self_of_le (k := 4) _ rfl (by have := UInt8.le_iff_toNat_le.mp h; simp at this; omega)

theorem UInt8.and_seven {x : UInt8} (h : x ≤ 127) : x &&& 0x7F = x :=
  UInt8.and_eq_self_of_le (k := 7) _ rfl (by have := UInt8.le_iff_toNat_le.mp h; simp at this; omega)

/-! ## Requests -/

namespace Request

/-- A note request addresses a channel `0 … 15` and a note `0 … 127`; the other requests a
channel `0 … 15`. -/
def Addressed : Request → Prop
  | .noteOn c n _ | .noteOff c n => c ≤ 15 ∧ n ≤ 127
  | .controlChange c _ _ | .pitchBend c _ => c ≤ 15

/-- Every value that the encoder cuts fits its width: channel, note, velocity, controller. -/
def InRange : Request → Prop
  | .noteOn c n v => c ≤ 15 ∧ n ≤ 127 ∧ v ≤ 127
  | .noteOff c n => c ≤ 15 ∧ n ≤ 127
  | .controlChange c k _ => c ≤ 15 ∧ k ≤ 127
  | .pitchBend c _ => c ≤ 15

/-- Whether voice `w` sounds after a request, given whether it sounded before (`b`). -/
def turn (w : Voice) (r : Request) (b : Bool) : Bool :=
  match r with
  | .noteOn c n _ => if (⟨c, n⟩ : Voice) = w then true else b
  | .noteOff c n => if (⟨c, n⟩ : Voice) = w then false else b
  | _ => b

/-- A request that turns a voice on from silence turns it on from anything. -/
theorem turn_of_turn_false {w : Voice} {r : Request} (h : r.turn w false = true) (b : Bool) :
    r.turn w b = true := by
  cases r <;> simp_all [turn]

@[simp] theorem turn_noteOff_self (v : Voice) (b : Bool) : v.noteOff.turn v b = false := by
  simp [Voice.noteOff, turn]

theorem turn_noteOff_of_ne {v w : Voice} (h : v ≠ w) (b : Bool) : v.noteOff.turn w b = b := by
  simp [Voice.noteOff, turn, h]

@[simp] theorem turn_controlChange (w : Voice) (c k x : UInt8) (b : Bool) :
    (Request.controlChange c k x).turn w b = b := rfl

@[simp] theorem turn_pitchBend (w : Voice) (c : UInt8) (x : Float) (b : Bool) :
    (Request.pitchBend c x).turn w b = b := rfl

end Request

/-- Whether the requests leave a voice sounding: the last note request for it is a note on. -/
def sounding (rs : List Request) (w : Voice) : Bool := rs.foldl (fun b r => r.turn w b) false

@[simp] theorem sounding_nil (w : Voice) : sounding [] w = false := rfl

@[simp] theorem sounding_concat (rs : List Request) (r : Request) (w : Voice) :
    sounding (rs ++ [r]) w = r.turn w (sounding rs w) := by
  simp [sounding]

/-! ## The listener -/

namespace ExternalNotes

/-- What a listener holds after a request that addresses a voice in range: the request's voice
is set on or off, the others stay. -/
theorem turn_of_mem_apply {ext : ExternalNotes} {r : Request} (hr : r.Addressed) {w : Voice}
    (hw : w ∈ (ext.apply r.packet).held) : r.turn w (ext.held.contains w) = true := by
  cases r with
  | noteOn c n v =>
    obtain ⟨hc, hn⟩ := hr
    simp only [apply, Request.packet, Packet.message_noteOn, UInt8.and_channel hc,
      UInt8.and_seven hn] at hw
    by_cases hcw : (⟨c, n⟩ : Voice) = w
    · simp [Request.turn, hcw]
    · have hne : w ≠ ⟨c, n⟩ := Ne.symm hcw
      by_cases hv : v &&& 0x7F = 0 <;> simp_all [Request.turn]
  | noteOff c n =>
    obtain ⟨hc, hn⟩ := hr
    simp only [apply, Request.packet, Packet.message_noteOff, UInt8.and_channel hc,
      UInt8.and_seven hn] at hw
    by_cases hcw : (⟨c, n⟩ : Voice) = w <;> simp_all [Request.turn]
  | controlChange c k x =>
    simp only [apply, Request.packet, Packet.message_controlChange] at hw
    simpa using hw
  | pitchBend c x =>
    obtain ⟨ch, b, hm⟩ := Packet.message_pitchBend c x
    simp only [apply, Request.packet, hm] at hw
    simpa using hw

/-- A listener that started silent holds only voices that the requests it heard leave
sounding. -/
theorem sounding_of_mem_held {rs : List Request} (hrs : ∀ r ∈ rs, r.Addressed) {w : Voice}
    (hw : w ∈ ((rs.map Request.packet).foldl apply empty).held) : sounding rs w = true := by
  -- the listener and the requests are followed message by message, from the last one back
  induction rs using List.reverseRecOn with
  | nil => simp [empty] at hw
  | append_singleton rs r ih =>
    simp only [List.map_append, List.map_cons, List.map_nil, List.foldl_append,
      List.foldl_cons, List.foldl_nil] at hw
    have hr := turn_of_mem_apply (hrs r (by simp)) hw
    rw [sounding_concat]
    by_cases hin : w ∈ ((rs.map Request.packet).foldl apply empty).held
    · rw [ih (fun r' h' => hrs r' (by simp [h'])) hin]
      simpa [hin] using hr
    · exact Request.turn_of_turn_false (by simpa [hin] using hr) _

end ExternalNotes

/-! ## Requests that strike only silent voices -/

theorem Voice.noteOff_ne_noteOn (w : Voice) (c n x : UInt8) : w.noteOff ≠ .noteOn c n x := by
  simp [Voice.noteOff]

/-- A voice that sounds stays on after any request but its note off. -/
theorem Request.turn_true {r : Request} {w : Voice} (hr : r ≠ .noteOff w.channel w.note) :
    r.turn w true = true := by
  cases r with
  | noteOff c n =>
    by_cases hw : (⟨c, n⟩ : Voice) = w
    · subst hw; exact absurd rfl hr
    · simp [turn, hw]
  | _ => simp [turn]

/-- A voice that sounds keeps sounding through requests without its note off. -/
theorem sounding_append_of_noteOff_not_mem {rs qs : List Request} {w : Voice}
    (hw : sounding rs w = true) (hq : Request.noteOff w.channel w.note ∉ qs) :
    sounding (rs ++ qs) w = true := by
  induction qs generalizing rs with
  | nil => simpa using hw
  | cons q qs ih =>
    rw [List.append_cons]
    refine ih ?_ fun h => hq (List.mem_cons_of_mem _ h)
    rw [sounding_concat, hw]
    exact Request.turn_true fun h => hq (h ▸ List.mem_cons_self)

/-- Requests in which every note on strikes a voice that the requests before it leave silent. -/
inductive StrikesSilent : List Request → Prop
  | nil : StrikesSilent []
  | snoc {rs : List Request} (h : StrikesSilent rs) (r : Request)
      (fresh : ∀ c n v, r = .noteOn c n v → sounding rs ⟨c, n⟩ = false) :
      StrikesSilent (rs ++ [r])

namespace StrikesSilent

variable {rs : List Request}

/-- A note on for a voice the requests leave silent. -/
theorem snoc_noteOn (h : StrikesSilent rs) {w : Voice} (hw : sounding rs w = false) (x : UInt8) :
    StrikesSilent (rs ++ [.noteOn w.channel w.note x]) :=
  h.snoc _ fun c n v hon => by cases hon; exact hw

/-- Requests other than note ons strike nothing. -/
theorem append_quiet (h : StrikesSilent rs) {qs : List Request}
    (hq : ∀ r ∈ qs, ∀ c n v, r ≠ .noteOn c n v) : StrikesSilent (rs ++ qs) := by
  induction qs generalizing rs with
  | nil => simpa using h
  | cons q qs ih =>
    rw [List.append_cons]
    refine ih (h.snoc q fun c n v hon => ?_) fun r hr => hq r (List.mem_cons_of_mem _ hr)
    exact absurd hon (hq q List.mem_cons_self c n v)

/-- Each note on finds its voice silent after the requests before it. -/
theorem silent_before (h : StrikesSilent rs) {pre post : List Request} {c n v : UInt8}
    (hrs : rs = pre ++ .noteOn c n v :: post) : sounding pre ⟨c, n⟩ = false := by
  induction h generalizing post with
  | nil => simp at hrs
  | snoc h r fresh ih =>
    rcases List.eq_nil_or_concat post with rfl | ⟨post', y, rfl⟩
    · obtain ⟨rfl, hr⟩ := List.append_inj' hrs rfl
      exact fresh c n v (List.singleton_inj.mp hr)
    · rw [List.concat_eq_append, ← List.cons_append, ← List.append_assoc] at hrs
      exact ih (List.append_inj' hrs rfl).1

/-- **Between two note ons of one voice** in requests that strike only silent voices comes the
note off of the voice. -/
theorem noteOff_between (h : StrikesSilent rs) {a b d : List Request} {c n v v' : UInt8}
    (hrs : rs = a ++ .noteOn c n v :: (b ++ .noteOn c n v' :: d)) : .noteOff c n ∈ b := by
  have hsilent : sounding (a ++ .noteOn c n v :: b) ⟨c, n⟩ = false :=
    h.silent_before (show rs = (a ++ .noteOn c n v :: b) ++ .noteOn c n v' :: d by simp [hrs])
  have hon : sounding (a ++ [.noteOn c n v]) ⟨c, n⟩ = true := by simp [Request.turn]
  by_contra hb
  have hstill := sounding_append_of_noteOff_not_mem hon hb
  simp [hsilent] at hstill

end StrikesSilent

end KeyMidi
