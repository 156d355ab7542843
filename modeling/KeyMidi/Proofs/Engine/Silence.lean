import Mathlib
import KeyMidi.Proofs.Engine.Runs
/-!
# What a listener of the engine holds

A listener that hears every packet of a run from a fresh start (`heard`) holds only voices that a
key or an axis of the engine still holds (`Run.held_mem`): every request is in range, so the
listener holds only what the requests leave sounding (`ExternalNotes.sounding_of_mem_held`), and
the invariant covers that by what the engine holds.

Once the engine holds no note, the listener holds none (`Run.heldCount_eq_zero`): so after a
flush, which lets go of every note of the keys and of the axes (`request_releaseAll_silent`), and
after the panic (`Panic`).
-/

namespace KeyMidi

/-- What a listener that started silent holds after the packets of the requests. -/
def heard (out : List Request) : ExternalNotes :=
  (out.map Request.packet).foldl ExternalNotes.apply .empty

namespace Engine

variable {p : Profile} {h : List Request} {e : Engine}

/-- A voice that the history leaves sounding is held by a key or an axis of an engine between
calls. -/
theorem Good.held_of_sounding (hg : e.Good p h) (he : e.outbox = #[]) {w : Voice}
    (hw : sounding h w = true) : w ∈ e.notes.voices ∨ ∃ a ∈ e.axes, a.2.note = some w := by
  have hw' : sounding (h ++ e.outbox.toList) w = true := by simpa [he] using hw
  rcases hg.covers w hw' with (hc | ha) | hn
  · rw [hg.sound.counts_eq] at hc
    exact .inl (List.count_pos_iff.mp hc)
  · exact .inr (mem_axisNotes.mp ha)
  · cases hn

/-- **What a listener holds** along a run is held by a key or an axis of the engine. -/
theorem Run.held_mem {out : List Request} (hr : Run p e out) {w : Voice}
    (hw : w ∈ (heard out).held) : w ∈ e.notes.voices ∨ ∃ a ∈ e.axes, a.2.note = some w := by
  obtain ⟨hg, he, hf⟩ := hr.good
  exact hg.held_of_sounding he
    (ExternalNotes.sounding_of_mem_held (fun r hr => (hf r hr).addressed) hw)

/-- Once the engine of a run holds no note, its listener holds none either. -/
theorem Run.heldCount_eq_zero {out : List Request} (hr : Run p e out) (hn : e.notes = .empty)
    (ha : e.axisNotes = []) : (heard out).heldCount = 0 := by
  rw [ExternalNotes.heldCount, List.length_eq_zero_iff, List.eq_nil_iff_forall_not_mem]
  intro w hw
  rcases hr.held_mem hw with hv | ⟨a, hax, hnote⟩
  · simp [hn] at hv
  · have hw' := mem_axisNotes.mpr ⟨a, hax, hnote⟩
    simp [ha] at hw'

@[simp] theorem releasedAll_axisNotes : e.releasedAll.axisNotes = [] := by
  rw [axisNotes, releasedAll_axes]; exact axisNotes_silenceAxes_none

@[simp] theorem pushAll_axisNotes (rs : List Request) : (e.pushAll rs).axisNotes = e.axisNotes := by
  simp [axisNotes]

/-- A flush lets go of every note. -/
theorem request_releaseAll_silent :
    (e.request EngineM.releaseAll).1.notes = .empty ∧
      (e.request EngineM.releaseAll).1.axisNotes = [] := by
  have hrun : (e.request EngineM.releaseAll).1 =
      { ({ e with outbox := #[] } : Engine).releasedAll with outbox := #[] } := by
    simp only [request, EngineM.releaseAll_run]; rfl
  rw [hrun]
  exact ⟨releasedAll_notes _, releasedAll_axisNotes⟩

end Engine

end KeyMidi
