import Mathlib
import KeyMidi.Proofs.Engine.Runs
/-!
# The counts agree with the tracker

In every engine of a run the count of a voice is the number of times the keys' lists hold it,
and no key holds an empty list (`Run.counts_agree`). What the steps rely on follows:

* letting go of a key lowers, at each of its voices in turn, a count of at least one
  (`Sound.count_pos_of_release`): the voices of a key are all different, so lowering the earlier
  ones leaves the count of the later ones alone, and the key itself is counted in each;
* the tracker is empty exactly when it holds no voice (`Tracker.isEmpty_iff_size_eq_zero`).
-/

namespace KeyMidi

/-- In a list without repeats, an element does not occur before its own position. -/
theorem getElem_not_mem_take {α : Type} {l : List α} (h : l.Nodup) {i : Nat}
    (hi : i < l.length) : l[i] ∉ l.take i := by
  have hd : (l.take i ++ l.drop i).Nodup := by rwa [List.take_append_drop]
  rw [List.nodup_append] at hd
  have hdrop : l[i] ∈ l.drop i := by
    rw [List.drop_eq_getElem_cons hi]; exact List.mem_cons_self
  exact fun htake => hd.2.2 _ htake _ hdrop rfl

namespace Tracker

theorem size_eq_sum (t : Tracker) : t.size = (t.entries.map (·.2.length)).sum := rfl

/-- A tracker whose keys all hold some voice is empty exactly when it holds no voice. -/
theorem isEmpty_iff_size_eq_zero {t : Tracker} (h : ∀ x ∈ t.entries, x.2 ≠ []) :
    t.isEmpty = true ↔ t.size = 0 := by
  rw [size_eq_sum, List.sum_eq_zero_iff_forall_eq_nat, isEmpty, List.isEmpty_iff]
  constructor
  · intro he n hn
    rw [he] at hn
    simp at hn
  · intro hz
    refine List.eq_nil_iff_forall_not_mem.mpr fun x hx => h x hx ?_
    exact List.length_eq_zero_iff.mp (hz _ (List.mem_map_of_mem hx))

end Tracker

namespace Engine

variable {p : Profile} {e : Engine}

/-- Letting go of a key lowers, at each of its voices in turn, a count of at least one. -/
theorem Sound.count_pos_of_release (hs : e.Sound) {key : InputId} {vs : List Voice}
    (hf : e.notes.find? key = some vs) {i : Nat} (hi : i < vs.length) :
    1 ≤ ((vs.take i).foldl Counts.decrement e.counts).count vs[i] := by
  have hmem : (key, vs) ∈ e.notes.entries := (Tracker.find?_eq_some_iff hs.keyed).mp hf
  -- the voices let go of before are other voices, so they leave this count alone
  have hbefore : (vs.take i).count vs[i] = 0 :=
    List.count_eq_zero.mpr (getElem_not_mem_take (hs.entry_nodup _ hmem) hi)
  have hv : vs[i] ∈ e.notes.voices := by
    rw [Tracker.voices_eq_flatMap]
    exact List.mem_flatMap.mpr ⟨_, hmem, List.getElem_mem hi⟩
  rw [Counts.count_foldl_decrement, hbefore, Nat.sub_zero, hs.counts_eq]
  exact List.count_pos_iff.mpr hv

/-- **Counts and tracker agree** in every engine of a run: the count of a voice is the number
of times the keys' lists hold it, no key holds an empty list, letting go of a key lowers a count
of at least one at each of its voices, and the tracker is empty exactly when it holds no voice. -/
theorem Run.counts_agree {out : List Request} (hr : Run p e out) :
    (∀ v, e.counts.count v = e.notes.voices.count v) ∧ (∀ x ∈ e.notes.entries, x.2 ≠ []) ∧
      (∀ key vs, e.notes.find? key = some vs → ∀ i (hi : i < vs.length),
        1 ≤ ((vs.take i).foldl Counts.decrement e.counts).count vs[i]) ∧
      (e.notes.isEmpty = true ↔ e.notes.size = 0) := by
  have hs := hr.good.1.sound
  exact ⟨hs.counts_eq, hs.entry_ne_nil, fun _ _ hf _ hi => hs.count_pos_of_release hf hi,
    Tracker.isEmpty_iff_size_eq_zero hs.entry_ne_nil⟩

/-- Two keys share a note and a third sounds another; once the first is let go of, the counter
and the tracker agree on the two notes still held. -/
theorem Run.counts_agree_sample :
    let evs : List InputEvent :=
      [.key ⟨"kbd", 1⟩ 1, .key ⟨"kbd", 4⟩ 1, .key ⟨"kbd", 2⟩ 1, .key ⟨"kbd", 1⟩ 0]
    let e := (Engine.new .sample).feed evs
    e.counts.count ⟨0, 60⟩ = 1 ∧ e.counts.count ⟨0, 64⟩ = 1 ∧ e.notes.size = 2 ∧
      (∀ v, e.counts.count v = e.notes.voices.count v) ∧ (∀ x ∈ e.notes.entries, x.2 ≠ []) ∧
      (∀ key vs, e.notes.find? key = some vs → ∀ i (hi : i < vs.length),
        1 ≤ ((vs.take i).foldl Counts.decrement e.counts).count vs[i]) ∧
      (e.notes.isEmpty = true ↔ e.notes.size = 0) := by
  intro evs e
  have hr : Run .sample e ((Engine.new .sample).requests evs) := Run.feed_new .sample evs
  have hheld : e.counts.count ⟨0, 60⟩ = 1 ∧ e.counts.count ⟨0, 64⟩ = 1 ∧ e.notes.size = 2 := by
    decide +kernel
  exact ⟨hheld.1, hheld.2.1, hheld.2.2, Run.counts_agree hr⟩

end Engine

end KeyMidi
