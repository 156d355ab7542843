import Mathlib
import KeyMidi.Notes.Tracker
import KeyMidi.Notes.Counts
/-!
# Bookkeeping of held notes

The tracker records the voices of each key, the counts how many inputs sound each voice. Their
laws, on which the engine's invariant rests:

- `count` after `increment`, `decrement` and runs of them (`Counts.count_increment`,
  `Counts.count_decrement`, `Counts.count_foldl_increment`, `Counts.count_foldl_decrement`);
- a tracker whose keys are distinct (`Tracker.Keyed`) finds exactly the entries it holds
  (`Tracker.find?_eq_some_iff`); `remove` takes away exactly the voices of the key
  (`Tracker.voices_perm_remove`) and `insert` of a new key adds exactly its voices
  (`Tracker.voices_insert_perm`), both keeping the keys distinct.
-/

namespace KeyMidi

open scoped List

/-! ## Counts -/

namespace Counts

@[simp] theorem count_empty (v : Voice) : Counts.empty.count v = 0 := rfl

/-- Dropping the entries of one voice leaves the lookup of every other voice as it was. -/
theorem find?_filter_ne {l : List (Voice × Nat)} {v w : Voice} (h : w ≠ v) :
    (l.filter (·.1 != v)).find? (·.1 == w) = l.find? (·.1 == w) := by
  rw [List.find?_filter]
  congr 1
  funext a
  by_cases ha : a.1 = w
  · simp [ha, h]
  · simp [ha]

/-- The entry of a voice itself is gone once its entries are dropped. -/
theorem find?_filter_self (l : List (Voice × Nat)) (v : Voice) :
    (l.filter (·.1 != v)).find? (·.1 == v) = none := by
  rw [List.find?_filter, List.find?_eq_none]
  intro a _
  simp

@[simp] theorem count_increment (c : Counts) (v w : Voice) :
    (c.increment v).count w = c.count w + if w = v then 1 else 0 := by
  by_cases h : w = v
  · subst h
    simp [increment, count]
  · simp [increment, count, Ne.symm h, find?_filter_ne h, h]

/-- The counts of other voices, once the entries of `v` are dropped. -/
theorem count_filter (c : Counts) (v w : Voice) :
    count ⟨c.entries.filter (·.1 != v)⟩ w = if w = v then 0 else c.count w := by
  by_cases h : w = v
  · subst h
    simp only [count, find?_filter_self, Option.map_none, Option.getD_none, if_true]
  · simp [count, find?_filter_ne h, h]

@[simp] theorem count_decrement (c : Counts) (v w : Voice) :
    (c.decrement v).count w = c.count w - if w = v then 1 else 0 := by
  have hd : c.decrement v = if c.count v ≤ 1 then ⟨c.entries.filter (·.1 != v)⟩
      else ⟨(v, c.count v - 1) :: c.entries.filter (·.1 != v)⟩ := rfl
  by_cases hn : c.count v ≤ 1
  · rw [hd, if_pos hn, count_filter]
    by_cases h : w = v
    · subst h; simp; omega
    · simp [h]
  · rw [hd, if_neg hn]
    by_cases h : w = v
    · subst h; simp [count]
    · have := count_filter c v w
      simp only [h, if_false] at this
      simp [count, h, Ne.symm h] at this ⊢
      exact this

/-- Lowering the counts of a list of voices, one after the other. -/
theorem count_foldl_decrement (vs : List Voice) (c : Counts) (w : Voice) :
    (vs.foldl Counts.decrement c).count w = c.count w - vs.count w := by
  induction vs generalizing c with
  | nil => simp
  | cons v vs ih =>
    rw [List.foldl_cons, ih, count_decrement, List.count_cons, Nat.sub_sub]
    by_cases h : w = v <;> simp [h, Ne.symm, Nat.add_comm]

/-- Raising the counts of a list of voices, one after the other. -/
theorem count_foldl_increment (vs : List Voice) (c : Counts) (w : Voice) :
    (vs.foldl Counts.increment c).count w = c.count w + vs.count w := by
  induction vs generalizing c with
  | nil => simp
  | cons v vs ih =>
    rw [List.foldl_cons, ih, count_increment, List.count_cons, Nat.add_assoc]
    by_cases h : w = v <;> simp [h, Ne.symm, Nat.add_comm]

end Counts

/-! ## Trackers -/

/-- Inputs compare equal exactly when they are the same input. -/
theorem InputId.cmp_eq_iff {a b : InputId} : a.cmp b = .eq ↔ a = b := by
  cases a; cases b
  simp [InputId.cmp, Ordering.then_eq_eq]

namespace Tracker

/-- The keys of a tracker, in its order. -/
def keys (t : Tracker) : List InputId := t.entries.map (·.1)

/-- A tracker with one entry per key. -/
def Keyed (t : Tracker) : Prop := t.keys.Nodup

variable {t : Tracker} {k : InputId} {vs : List Voice}

@[simp] theorem voices_empty : Tracker.empty.voices = [] := rfl

@[simp] theorem keys_empty : Tracker.empty.keys = [] := rfl

theorem voices_eq_flatMap (t : Tracker) : t.voices = t.entries.flatMap (·.2) := rfl

/-- Inserting a key that has no entry puts its entry among the others, in key order. -/
theorem insertEntry_perm {l : List (InputId × List Voice)} (h : k ∉ l.map (·.1)) :
    insertEntry k vs l ~ (k, vs) :: l := by
  induction l with
  | nil => simp [insertEntry]
  | cons e rest ih =>
    obtain ⟨k', ws⟩ := e
    simp only [List.map_cons, List.mem_cons, not_or] at h
    unfold insertEntry
    split
    · exact List.Perm.refl _
    · exact absurd (InputId.cmp_eq_iff.mp ‹_›) h.1
    · exact ((ih h.2).cons _).trans (List.Perm.swap _ _ _)

theorem entries_insert_perm (h : k ∉ t.keys) : (t.insert k vs).entries ~ (k, vs) :: t.entries :=
  insertEntry_perm h

/-- A new key adds exactly its voices. -/
theorem voices_insert_perm (h : k ∉ t.keys) : (t.insert k vs).voices ~ vs ++ t.voices :=
  (entries_insert_perm h).flatMap_right _

theorem mem_entries_insert (h : k ∉ t.keys) {x : InputId × List Voice} :
    x ∈ (t.insert k vs).entries ↔ x = (k, vs) ∨ x ∈ t.entries := by
  rw [(entries_insert_perm h).mem_iff, List.mem_cons]

theorem keyed_insert (ht : t.Keyed) (h : k ∉ t.keys) : (t.insert k vs).Keyed := by
  have hp : (t.insert k vs).keys ~ k :: t.keys := (entries_insert_perm h).map _
  exact hp.nodup_iff.mpr (List.nodup_cons.mpr ⟨h, ht⟩)

theorem find?_eq_none_iff : t.find? k = none ↔ k ∉ t.keys := by
  simp only [find?, Option.map_eq_none_iff, List.find?_eq_none, keys, List.mem_map, beq_iff_eq,
    not_exists, not_and]

theorem find?_eq_some_iff (ht : t.Keyed) : t.find? k = some vs ↔ (k, vs) ∈ t.entries := by
  constructor
  · intro h
    simp only [find?, Option.map_eq_some_iff] at h
    obtain ⟨e, he, rfl⟩ := h
    have hk : e.1 = k := by simpa using List.find?_some he
    exact hk ▸ List.mem_of_find?_eq_some he
  · intro h
    obtain ⟨e, he⟩ : ∃ e, t.entries.find? (·.1 == k) = some e := by
      apply Option.isSome_iff_exists.mp
      rw [List.find?_isSome]
      exact ⟨_, h, by simp⟩
    have hk : e.1 = k := by simpa using List.find?_some he
    have hmem := List.mem_of_find?_eq_some he
    have : e = (k, vs) := by
      apply (List.inj_on_of_nodup_map ht) hmem h
      simp [hk]
    simp [find?, he, this]

@[simp] theorem remove_fst : (t.remove k).1 = t.find? k := rfl

theorem mem_entries_remove {x : InputId × List Voice} :
    x ∈ (t.remove k).2.entries ↔ x ∈ t.entries ∧ x.1 ≠ k := by
  simp [remove]

theorem keys_remove : (t.remove k).2.keys = t.keys.filter (· != k) := by
  simp [remove, keys, List.filter_map, Function.comp_def]

theorem not_mem_keys_remove : k ∉ (t.remove k).2.keys := by
  simp [keys_remove]

theorem keyed_remove (ht : t.Keyed) : (t.remove k).2.Keyed := by
  unfold Keyed
  rw [keys_remove]
  exact ht.filter _

/-- A key without an entry removes nothing. -/
theorem remove_of_find?_none (h : t.find? k = none) : (t.remove k).2 = t := by
  have hk := find?_eq_none_iff.mp h
  cases t with
  | mk entries =>
    simp only [remove, Tracker.mk.injEq]
    apply List.filter_eq_self.mpr
    intro x hx
    have : x.1 ≠ k := fun he => hk (he ▸ List.mem_map_of_mem hx)
    simpa using this

/-- The entry of a key, and the rest of the tracker. -/
theorem entries_perm_remove (ht : t.Keyed) (h : t.find? k = some vs) :
    t.entries ~ (k, vs) :: (t.remove k).2.entries := by
  have hmem := (find?_eq_some_iff ht).mp h
  have hnd : t.entries.Nodup := List.Nodup.of_map _ ht
  refine (List.perm_cons_erase hmem).trans (List.Perm.cons _ ?_)
  simp only [remove]
  rw [hnd.erase_eq_filter]
  apply List.Perm.of_eq
  apply List.filter_congr
  intro x hx
  by_cases hxk : x.1 = k
  · have : x = (k, vs) := List.inj_on_of_nodup_map ht hx hmem (by simp [hxk])
    subst this
    rw [Bool.eq_iff_iff, bne_iff_ne, bne_iff_ne]
    simp
  · have : x ≠ (k, vs) := fun he => hxk (by simp [he])
    rw [Bool.eq_iff_iff, bne_iff_ne, bne_iff_ne]
    exact ⟨fun _ => hxk, fun _ => this⟩

/-- Removing a key takes away exactly its voices. -/
theorem voices_perm_remove (ht : t.Keyed) (h : t.find? k = some vs) :
    t.voices ~ vs ++ (t.remove k).2.voices :=
  (entries_perm_remove ht h).flatMap_right _

end Tracker

end KeyMidi
