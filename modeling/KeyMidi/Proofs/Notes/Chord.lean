import Mathlib
import KeyMidi.Notes.Tracker
/-!
# Chords read off the held keys

`Tracker.chordOffsets` sorts the first notes of the held keys without repeats (`insertSorted`)
and measures them from the lowest. The sorted notes ascend strictly
(`pairwise_lt_foldr_insertSorted`), so the offsets never repeat (`chordOffsets_nodup`): a chord
never asks for the same note twice.
-/

namespace KeyMidi.Tracker

theorem mem_insertSorted {n x : UInt8} {l : List UInt8} (h : x ∈ insertSorted n l) :
    x = n ∨ x ∈ l := by
  induction l with
  | nil => simpa [insertSorted] using h
  | cons m rest ih =>
    simp only [insertSorted] at h
    split at h
    · simpa using h
    · split at h
      · exact .inr h
      · rcases List.mem_cons.mp h with rfl | h
        · exact .inr List.mem_cons_self
        · exact (ih h).imp id (List.mem_cons_of_mem _)

/-- Inserting into an ascending list keeps it ascending. -/
theorem pairwise_lt_insertSorted (n : UInt8) {l : List UInt8} (h : l.Pairwise (· < ·)) :
    (insertSorted n l).Pairwise (· < ·) := by
  induction l with
  | nil => simp [insertSorted]
  | cons m rest ih =>
    rw [List.pairwise_cons] at h
    simp only [insertSorted]
    split
    · rename_i hnm
      refine List.pairwise_cons.mpr ⟨?_, List.pairwise_cons.mpr h⟩
      intro b hb
      rcases List.mem_cons.mp hb with rfl | hb
      · exact hnm
      · have := h.1 b hb
        grind
    · split
      · exact List.pairwise_cons.mpr h
      · rename_i hnm hne
        refine List.pairwise_cons.mpr ⟨fun b hb => ?_, ih h.2⟩
        rcases mem_insertSorted hb with rfl | hb
        · grind
        · exact h.1 b hb

theorem pairwise_lt_foldr_insertSorted (l : List UInt8) :
    (l.foldr insertSorted []).Pairwise (· < ·) := by
  induction l with
  | nil => exact List.Pairwise.nil
  | cons n l ih => exact pairwise_lt_insertSorted n ih

/-- The offsets of a chord are all different. -/
theorem chordOffsets_nodup (t : Tracker) : t.chordOffsets.Nodup := by
  unfold chordOffsets
  dsimp only
  have hs := pairwise_lt_foldr_insertSorted (t.entries.filterMap fun e => e.2.head?.map (·.note))
  split
  · refine List.Nodup.map (fun x y hxy => by simpa using hxy) ?_
    exact hs.imp fun hlt heq => by grind
  · exact List.nodup_nil

/-! ## The chord as a set of distances -/

/-- The root of each held input: the first note of its voices, for every input that has one. -/
def roots (t : Tracker) : List UInt8 := t.entries.filterMap fun e => e.2.head?.map (·.note)

/-- The chord is the sorted roots, measured from the lowest, once there are two of them. -/
theorem chordOffsets_eq (t : Tracker) : t.chordOffsets =
    match t.roots.foldr insertSorted [] with
    | lowest :: _ :: _ => (t.roots.foldr insertSorted []).map (· - lowest)
    | _ => [] := rfl

theorem mem_insertSorted_iff {n x : UInt8} {l : List UInt8} :
    x ∈ insertSorted n l ↔ x = n ∨ x ∈ l := by
  refine ⟨mem_insertSorted, ?_⟩
  induction l with
  | nil => simp [insertSorted]
  | cons m rest ih =>
    intro hx
    simp only [insertSorted]
    split
    · simpa using hx
    · split
      · rename_i hnm
        rcases hx with rfl | hx
        · exact hnm ▸ List.mem_cons_self
        · exact hx
      · rcases hx with rfl | hx
        · exact List.mem_cons_of_mem _ (ih (.inl rfl))
        · rcases List.mem_cons.mp hx with rfl | hx
          · exact List.mem_cons_self
          · exact List.mem_cons_of_mem _ (ih (.inr hx))

/-- Sorting keeps exactly the notes there were. -/
theorem mem_foldr_insertSorted {x : UInt8} {l : List UInt8} :
    x ∈ l.foldr insertSorted [] ↔ x ∈ l := by
  induction l with
  | nil => simp
  | cons n l ih => rw [List.foldr_cons, mem_insertSorted_iff, ih, List.mem_cons]

/-- The sorted notes are the different ones, each once. -/
theorem length_foldr_insertSorted (l : List UInt8) :
    (l.foldr insertSorted []).length = l.toFinset.card := by
  have hnd : (l.foldr insertSorted []).Nodup :=
    (pairwise_lt_foldr_insertSorted l).imp UInt8.ne_of_lt
  rw [← List.toFinset_card_of_nodup hnd]
  congr 1
  ext x
  simp only [List.mem_toFinset, mem_foldr_insertSorted]

/-- Measuring an ascending list from a note below all of its notes keeps it ascending. -/
theorem pairwise_lt_map_sub {l : List UInt8} {m : UInt8} (h : l.Pairwise (· < ·))
    (hm : ∀ x ∈ l, m ≤ x) : (l.map (· - m)).Pairwise (· < ·) := by
  rw [List.pairwise_map]
  refine h.imp_of_mem fun {a b} ha hb hab => ?_
  have ha' := UInt8.le_iff_toNat_le.mp (hm a ha)
  have hb' := UInt8.le_iff_toNat_le.mp (hm b hb)
  rw [UInt8.lt_iff_toNat_lt, UInt8.toNat_sub_of_le _ _ (hm a ha),
    UInt8.toNat_sub_of_le _ _ (hm b hb)]
  have := UInt8.lt_iff_toNat_lt.mp hab
  omega

/-- Fewer than two different roots make no chord. -/
theorem chordOffsets_of_card_lt_two {t : Tracker} (h : t.roots.toFinset.card < 2) :
    t.chordOffsets = [] := by
  rw [chordOffsets_eq]
  have hlen := length_foldr_insertSorted t.roots
  split
  · rename_i lowest b rest hs
    rw [hs] at hlen
    simp at hlen
    omega
  · rfl

/-- **The chord of two or more different roots**: the distances of the roots from the lowest,
ascending, each once; none wraps around, so the first is zero. -/
theorem chordOffsets_of_two_le_card {t : Tracker} (h : 2 ≤ t.roots.toFinset.card) :
    ∃ lowest ∈ t.roots, (∀ r ∈ t.roots, lowest ≤ r) ∧
      t.chordOffsets.Pairwise (· < ·) ∧
      (∀ o, o ∈ t.chordOffsets ↔ ∃ r ∈ t.roots, o = r - lowest) ∧
      (∀ r ∈ t.roots, (r - lowest).toNat = r.toNat - lowest.toNat) ∧
      t.chordOffsets.head? = some 0 ∧ 2 ≤ t.chordOffsets.length := by
  have hsorted := pairwise_lt_foldr_insertSorted t.roots
  have hlen := length_foldr_insertSorted t.roots
  rw [chordOffsets_eq]
  generalize hs : t.roots.foldr insertSorted [] = s at hsorted hlen
  obtain ⟨lowest, b, rest, rfl⟩ : ∃ lowest b rest, s = lowest :: b :: rest := by
    rcases s with _ | ⟨lowest, _ | ⟨b, rest⟩⟩
    · simp at hlen; omega
    · simp at hlen; omega
    · exact ⟨lowest, b, rest, rfl⟩
  have hmem : ∀ x, x ∈ t.roots ↔ x ∈ lowest :: b :: rest := fun x => by
    rw [← mem_foldr_insertSorted, hs]
  have hlow : ∀ r ∈ t.roots, lowest ≤ r := by
    intro r hr
    rcases List.mem_cons.mp ((hmem r).mp hr) with rfl | hr'
    · exact UInt8.le_refl _
    · exact UInt8.le_of_lt (List.rel_of_pairwise_cons hsorted hr')
  refine ⟨lowest, (hmem lowest).mpr List.mem_cons_self, hlow, ?_, ?_, ?_, ?_, ?_⟩
  · exact pairwise_lt_map_sub hsorted fun x hx => hlow x ((hmem x).mpr hx)
  · intro o
    simp only [List.mem_map, hmem]
    exact ⟨fun ⟨r, hr, he⟩ => ⟨r, hr, he.symm⟩, fun ⟨r, hr, he⟩ => ⟨r, hr, he.symm⟩⟩
  · exact fun r hr => UInt8.toNat_sub_of_le _ _ (hlow r hr)
  · simp
  · simp

/-- The chord ascends strictly. -/
theorem chordOffsets_pairwise (t : Tracker) : t.chordOffsets.Pairwise (· < ·) := by
  by_cases h : 2 ≤ t.roots.toFinset.card
  · obtain ⟨_, _, _, hp, _⟩ := chordOffsets_of_two_le_card h
    exact hp
  · rw [chordOffsets_of_card_lt_two (by omega)]
    exact List.Pairwise.nil

end KeyMidi.Tracker
