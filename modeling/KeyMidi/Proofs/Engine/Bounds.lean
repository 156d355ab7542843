import Mathlib
import KeyMidi.Proofs.Engine.Runs
/-!
# State bounds and values in range

Under a well-formed profile (what `Profile.check` accepts, `Profile.wellFormed_of_check`), every
engine of a run has a channel `0 … 15` and a layer of the profile (`Run.bounded`): the fresh
engine takes the channel modulo 16 and the default layer, a reset copies a default that the
profile keeps in range, the channel wraps around and the layer stops at both ends. So the layer
is always found, and raising the channel by 15 never wraps a byte.

Every request of a run is built from values in range (`Request.InRange`): voices in range, the
profile's velocity, All Notes Off or a controller that the profile checked. The encoder's masks
leave such values as they are (`Request.InRange.unmasked`).
-/

namespace KeyMidi

/-- Raising a channel by 15 stays within a byte. -/
theorem UInt8.toNat_add_fifteen {c : UInt8} (h : c ≤ 15) : (c + 15).toNat = c.toNat + 15 := by
  have hc := UInt8.le_iff_toNat_le.mp h
  rw [UInt8.toNat_add]
  simp only [UInt8.reduceToNat] at hc ⊢
  omega

namespace Request

/-- The encoder's masks leave every value of the request as it is. -/
def Unmasked : Request → Prop
  | .noteOn c n v => c &&& 0x0F = c ∧ n &&& 0x7F = n ∧ v &&& 0x7F = v
  | .noteOff c n => c &&& 0x0F = c ∧ n &&& 0x7F = n
  | .controlChange c k _ => c &&& 0x0F = c ∧ k &&& 0x7F = k
  | .pitchBend c _ => c &&& 0x0F = c

theorem InRange.unmasked {r : Request} (h : r.InRange) : r.Unmasked := by
  cases r with
  | noteOn c n v => exact ⟨UInt8.and_channel h.1, UInt8.and_seven h.2.1, UInt8.and_seven h.2.2⟩
  | noteOff c n => exact ⟨UInt8.and_channel h.1, UInt8.and_seven h.2⟩
  | controlChange c k x => exact ⟨UInt8.and_channel h.1, UInt8.and_seven h.2⟩
  | pitchBend c x => exact UInt8.and_channel h

end Request

namespace Engine

variable {p : Profile} {e : Engine} {out : List Request}

/-- **State bounds and in-range output.** Under a well-formed profile, every engine of a run has
a channel of at most 15 that raising by 15 does not wrap, and a layer of the profile, which is
therefore found; every request made is built from values in range, which the masks leave
alone. -/
theorem Run.bounded (hp : p.WellFormed) (hr : Run p e out) :
    e.position.channel ≤ 15 ∧ e.position.mapping < p.layers.length ∧ e.layer?.isSome ∧
      (e.position.channel + 15).toNat = e.position.channel.toNat + 15 ∧
      ∀ r ∈ out, r.InRange ∧ r.Unmasked := by
  obtain ⟨hg, -, hf⟩ := hr.good
  have hpe := hg.profile_eq
  obtain ⟨hc, hm⟩ := hg.sound.bounded (hpe ▸ hp)
  rw [hpe] at hm
  have hlayer : e.layer?.isSome := by
    rw [layer?, hpe, List.getElem?_eq_getElem hm]
    rfl
  have hout : ∀ r ∈ out, r.InRange := fun r hr => (hf r hr).inRange hp
  exact ⟨hc, hm, hlayer, UInt8.toNat_add_fifteen hc,
    fun r hr => ⟨hout r hr, (hout r hr).unmasked⟩⟩

/-- Channel up, then channel down twice, wraps the channel round to 15; layer up then layer down,
held together, sets the layer back to the default; a note then sounds on channel 15. -/
theorem Run.bounded_sample :
    let evs : List InputEvent :=
      [.key ⟨"kbd", 35⟩ 1, .key ⟨"kbd", 35⟩ 0, .key ⟨"kbd", 32⟩ 1, .key ⟨"kbd", 33⟩ 1,
        .key ⟨"kbd", 32⟩ 0, .key ⟨"kbd", 33⟩ 0, .key ⟨"kbd", 36⟩ 1, .key ⟨"kbd", 36⟩ 0,
        .key ⟨"kbd", 36⟩ 1, .key ⟨"kbd", 36⟩ 0, .key ⟨"kbd", 1⟩ 1]
    let e := (Engine.new .sample).feed evs
    let out := (Engine.new .sample).requests evs
    ((Engine.new .sample).feed (evs.take 3)).position.mapping = 1 ∧ e.position.mapping = 0 ∧
      out.map Request.packet = [.noteOn 15 60 64] ∧
      e.position.channel ≤ 15 ∧ e.position.mapping < Profile.sample.layers.length ∧
      e.layer?.isSome ∧ (e.position.channel + 15).toNat = e.position.channel.toNat + 15 ∧
      ∀ r ∈ out, r.InRange ∧ r.Unmasked := by
  intro evs e out
  have hw : Profile.sample.WellFormed := Profile.wellFormed_of_check (by decide +kernel)
  have hr : Run .sample e out := Run.feed_new .sample evs
  have hrun : ((Engine.new .sample).feed (evs.take 3)).position.mapping = 1 ∧
      e.position.mapping = 0 ∧ out.map Request.packet = [.noteOn 15 60 64] := by
    decide +kernel
  exact ⟨hrun.1, hrun.2.1, hrun.2.2, Run.bounded hw hr⟩

end Engine

end KeyMidi
