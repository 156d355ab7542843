import Mathlib
import KeyMidi.Discovery.Stabilizer
/-!
# When a device is surfaced

A stabilizer is fed snapshots of the devices present, each taken at an instant. Replayed from a
fresh stabilizer (`Stabilizer.replay`, latest snapshot first), it surfaces a device exactly when
the device is in the latest snapshot, has been in every snapshot since the first one of its
current run of presence (`Stabilizer.presence`), that first one lies at least the window back, and
the device was not surfaced earlier in the run (`Stabilizer.surfaces_iff`). So a device is
surfaced at most once while it stays, and again after a snapshot misses it.

The argument has two layers:

* one snapshot: `observe` visits the devices in order, taking each one's sighting out of those of
  the last snapshot and storing it, marked reported once due, among those of this one
  (`Stabilizer.Visited`, kept by each visit). When no identity is listed twice, the sightings
  after the snapshot are those of its devices, each as it stood before, visited once
  (`observe_sighting?`), and the due ones are surfaced (`mem_observe`);
* a history: by induction on the snapshots, the sighting of an identity holds the instant its run
  began and whether the run surfaced it (`replay_sighting?`).

Both rest on a snapshot listing each identity once. A second listing finds no sighting left
among the old ones (the first listing took it), so it starts a fresh one that replaces the first:
the run of presence seems to begin again at that snapshot.
-/

namespace KeyMidi

namespace Sighting

/-- A sighting is due at `now` when it was not reported and is at least the window old. -/
def due (g : Sighting) (now window : Nat) : Bool := !g.reported && decide (window ≤ now - g.since)

/-- A sighting after a visit at `now`: reported once due. -/
def visited (g : Sighting) (now window : Nat) : Sighting := ⟨g.since, g.reported || g.due now window⟩

theorem mark_eq_visited (g : Sighting) (now window : Nat) :
    (if g.due now window then { g with reported := true } else g) = g.visited now window := by
  obtain ⟨since, reported⟩ := g
  cases reported <;> by_cases h : window ≤ now - since <;> simp [due, visited, h]

end Sighting

namespace Stabilizer

/-- The identities a snapshot lists, in order. -/
def ids (snap : List Device) : List Identity := snap.map (·.identity)

@[simp] theorem ids_nil : ids [] = [] := rfl

@[simp] theorem ids_append (a b : List Device) : ids (a ++ b) = ids a ++ ids b := List.map_append

@[simp] theorem ids_singleton (d : Device) : ids [d] = [d.identity] := rfl

/-- The sighting recorded for an identity. -/
def sighting? (i : Identity) (l : List (Identity × Sighting)) : Option Sighting :=
  (l.find? (·.1 == i)).map (·.2)

@[simp] theorem sighting?_nil (i : Identity) : sighting? i [] = none := rfl

theorem sighting?_filter (i j : Identity) (l : List (Identity × Sighting)) :
    sighting? i (l.filter (·.1 != j)) = if i = j then none else sighting? i l := by
  unfold sighting?
  rw [List.find?_filter]
  split
  · next h =>
    subst h
    simp [List.find?_eq_none]
  · next h =>
    congr 1
    apply List.find?_congr
    intro x _
    by_cases hx : x.1 = i
    · simp [hx, h]
    · simp [hx]

/-- Storing a sighting replaces the one of its identity and keeps the others. -/
theorem sighting?_store (i j : Identity) (g : Sighting) (l : List (Identity × Sighting)) :
    sighting? i (l.filter (·.1 != j) ++ [(j, g)]) = if i = j then some g else sighting? i l := by
  have hfilter := sighting?_filter i j l
  unfold sighting? at hfilter ⊢
  rw [List.find?_append, Option.map_or, hfilter]
  by_cases h : i = j
  · subst h; simp
  · simp [h, Ne.symm h]

/-- The sighting an identity had before a snapshot at `now`, or a fresh one. -/
def prior (s : Stabilizer) (i : Identity) (now : Nat) : Sighting := (sighting? i s.seen).getD ⟨now, false⟩

/-! ## One snapshot -/

/-- What the visits of the first devices `pre` of a snapshot leave: their identities' sightings are
taken out of the old ones and stored, visited, among the new ones, and the due ones were surfaced,
in order. -/
structure Visited (s : Stabilizer) (now window : Nat) (pre : List Device)
    (acc : List (Identity × Sighting) × List (Identity × Sighting) × List Device) : Prop where
  old : ∀ i, sighting? i acc.1 = if i ∈ ids pre then none else sighting? i s.seen
  present : ∀ i, sighting? i acc.2.1 =
    if i ∈ ids pre then some ((s.prior i now).visited now window) else none
  stable_sublist : acc.2.2.Sublist pre
  mem_stable : ∀ i, i ∈ ids acc.2.2 ↔ i ∈ ids pre ∧ (s.prior i now).due now window = true

theorem visited_nil (s : Stabilizer) (now window : Nat) : Visited s now window [] (s.seen, [], []) where
  old _ := by simp
  present _ := by simp
  stable_sublist := List.Sublist.slnil
  mem_stable _ := by simp

/-- A visit takes the device's sighting out of the old ones, stores it visited, and surfaces the
device when it is due. -/
theorem visit_eq (now window : Nat) (old present : List (Identity × Sighting)) (stable : List Device)
    (d : Device) :
    visit now window (old, present, stable) d =
      (old.filter (·.1 != d.identity),
        present.filter (·.1 != d.identity) ++
          [(d.identity, ((sighting? d.identity old).getD ⟨now, false⟩).visited now window)],
        if ((sighting? d.identity old).getD ⟨now, false⟩).due now window then stable ++ [d]
        else stable) := by
  simp only [visit, ← Sighting.mark_eq_visited]
  rfl

/-- Visiting a device whose identity was not met yet keeps `Visited`. -/
theorem Visited.step {s : Stabilizer} {now window : Nat} {pre : List Device} {acc}
    (hv : Visited s now window pre acc) {d : Device} (hd : d.identity ∉ ids pre) :
    Visited s now window (pre ++ [d]) (visit now window acc d) := by
  obtain ⟨old, present, stable⟩ := acc
  have hprior : (sighting? d.identity old).getD ⟨now, false⟩ = s.prior d.identity now := by
    rw [hv.old, if_neg hd]; rfl
  rw [visit_eq, hprior]
  refine ⟨fun i => ?_, fun i => ?_, ?_, fun i => ?_⟩
  · rw [sighting?_filter, hv.old]
    by_cases h : i = d.identity <;> simp [h]
  · rw [sighting?_store, hv.present]
    by_cases h : i = d.identity <;> simp [h]
  · split
    · exact hv.stable_sublist.append (List.Sublist.refl _)
    · exact hv.stable_sublist.trans (List.sublist_append_left _ _)
  · have hmem := hv.mem_stable i
    by_cases h : i = d.identity
    · subst h
      split <;> simp_all
    · split <;> simp_all

theorem Visited.foldl {s : Stabilizer} {now window : Nat} {pre : List Device} {acc}
    (hv : Visited s now window pre acc) {l : List Device} (hnd : (ids (pre ++ l)).Nodup) :
    Visited s now window (pre ++ l) (l.foldl (visit now window) acc) := by
  induction l generalizing pre acc with
  | nil => simpa using hv
  | cons d l ih =>
    have hd : d.identity ∉ ids pre := by
      simp only [ids_append] at hnd
      exact fun h => List.disjoint_of_nodup_append hnd h (by simp [ids])
    have hv' := hv.step hd
    rw [List.foldl_cons]
    simpa using ih hv' (by simpa using hnd)

/-- A snapshot that lists each identity once leaves the sightings of its devices, each visited
once, and no other. -/
theorem observe_visited {s : Stabilizer} {snap : List Device} {now window : Nat}
    (hnd : (ids snap).Nodup) :
    Visited s now window snap ((snap.foldl (visit now window) (s.seen, [], []))) := by
  simpa using (visited_nil s now window).foldl (l := snap) (by simpa using hnd)

theorem observe_sighting? {s : Stabilizer} {snap : List Device} {now window : Nat}
    (hnd : (ids snap).Nodup) (i : Identity) :
    sighting? i (s.observe snap now window).1.seen =
      if i ∈ ids snap then some ((s.prior i now).visited now window) else none :=
  (observe_visited hnd).present i

/-- A snapshot that lists each identity once surfaces the devices whose sightings are due. -/
theorem mem_observe {s : Stabilizer} {snap : List Device} {now window : Nat}
    (hnd : (ids snap).Nodup) (i : Identity) :
    i ∈ ids (s.observe snap now window).2 ↔
      i ∈ ids snap ∧ (s.prior i now).due now window = true :=
  (observe_visited hnd).mem_stable i

theorem observe_sublist {s : Stabilizer} {snap : List Device} {now window : Nat}
    (hnd : (ids snap).Nodup) : (s.observe snap now window).2.Sublist snap :=
  (observe_visited hnd).stable_sublist

/-! ## A history of snapshots -/

/-- Replays snapshots, the latest first, each with the instant it was taken, on a fresh
stabilizer: the stabilizer after them, and the devices the latest one surfaced. -/
def replay (window : Nat) : List (Nat × List Device) → Stabilizer × List Device
  | [] => ({}, [])
  | (t, snap) :: older => (replay window older).1.observe snap t window

/-- The snapshots of an identity's current run of presence: the latest ones, in a row, that list
it. -/
def presence (i : Identity) (h : List (Nat × List Device)) : List (Nat × List Device) :=
  h.takeWhile fun x => decide (i ∈ ids x.2)

theorem presence_cons (i : Identity) (t : Nat) (snap : List Device)
    (older : List (Nat × List Device)) :
    presence i ((t, snap) :: older) = if i ∈ ids snap then (t, snap) :: presence i older else [] := by
  simp [presence, List.takeWhile_cons]

/-- Whether the run of presence of an identity surfaced it, at one of its snapshots. -/
def surfacedInRun (window : Nat) (i : Identity) (h : List (Nat × List Device)) : Prop :=
  ∃ j < (presence i h).length, i ∈ ids (replay window (h.drop j)).2

instance (window : Nat) (i : Identity) (h : List (Nat × List Device)) :
    Decidable (surfacedInRun window i h) :=
  inferInstanceAs (Decidable (∃ j < (presence i h).length, i ∈ ids (replay window (h.drop j)).2))

/-- A run that goes on through the latest snapshot surfaced the identity when that snapshot did
or an earlier snapshot of the run did. -/
theorem surfacedInRun_cons {window : Nat} {i : Identity} {t : Nat} {snap : List Device}
    {older : List (Nat × List Device)} (hi : i ∈ ids snap) :
    surfacedInRun window i ((t, snap) :: older) ↔
      i ∈ ids (replay window ((t, snap) :: older)).2 ∨ surfacedInRun window i older := by
  simp only [surfacedInRun, presence_cons, if_pos hi, List.length_cons, Nat.exists_lt_succ_left,
    List.drop_zero, List.drop_succ_cons]

theorem not_surfacedInRun {window : Nat} {i : Identity} {h : List (Nat × List Device)}
    (hp : presence i h = []) : ¬ surfacedInRun window i h := by
  simp [surfacedInRun, hp]

/-- **The sighting of an identity after a history** records when its current run of presence
began, and whether the run surfaced it; an identity missing from the latest snapshot has none. -/
theorem replay_sighting? {window : Nat} {h : List (Nat × List Device)}
    (hn : ∀ x ∈ h, (ids x.2).Nodup) (i : Identity) :
    sighting? i (replay window h).1.seen =
      (presence i h).getLast?.map fun first => ⟨first.1, decide (surfacedInRun window i h)⟩ := by
  induction h with
  | nil => rfl
  | cons x older ih =>
    obtain ⟨t, snap⟩ := x
    have hsnap := hn _ List.mem_cons_self
    have ih := ih fun y hy => hn y (List.mem_cons_of_mem _ hy)
    simp only [replay, observe_sighting? hsnap, presence_cons]
    by_cases hi : i ∈ ids snap
    · rw [if_pos hi, if_pos hi]
      simp only [surfacedInRun_cons hi]
      have hnow : i ∈ ids (replay window ((t, snap) :: older)).2 ↔
          ((replay window older).1.prior i t).due t window = true := by
        rw [replay, mem_observe hsnap]; simp [hi]
      simp only [hnow]
      cases hp : presence i older with
      | nil =>
        have hprior : (replay window older).1.prior i t = ⟨t, false⟩ := by
          simp [prior, ih, hp]
        simp [hprior, Sighting.visited, not_surfacedInRun hp]
      | cons first rest =>
        obtain ⟨last, hlast⟩ :=
          Option.isSome_iff_exists.mp (List.getLast?_isSome.mpr (List.cons_ne_nil first rest))
        have hprior : (replay window older).1.prior i t =
            ⟨last.1, decide (surfacedInRun window i older)⟩ := by
          simp [prior, ih, hp, hlast]
        simp [hprior, Sighting.visited, List.getLast?_cons_cons, hlast, Bool.or_comm]
    · simp [hi]

/-- The sighting an identity brings to a snapshot at `t`: the start of its run of presence so far
(or `t`, when the run starts now), and whether the run surfaced it. -/
theorem prior_replay {window : Nat} {older : List (Nat × List Device)}
    (hn : ∀ x ∈ older, (ids x.2).Nodup) (i : Identity) (t : Nat) :
    (replay window older).1.prior i t =
      ⟨(((presence i older).getLast?).map (·.1)).getD t, decide (surfacedInRun window i older)⟩ := by
  rw [prior, replay_sighting? hn]
  cases hp : (presence i older).getLast? with
  | none =>
    have hnil : presence i older = [] := List.getLast?_eq_none_iff.mp hp
    simp [not_surfacedInRun hnil]
  | some first => rfl

/-- No snapshot of the run before the latest surfaced the identity. -/
theorem not_surfacedInRun_iff {window : Nat} {i : Identity} {t : Nat} {snap : List Device}
    {older : List (Nat × List Device)} (hi : i ∈ ids snap) :
    ¬ surfacedInRun window i older ↔
      ∀ j, 0 < j → j < (presence i ((t, snap) :: older)).length →
        i ∉ ids (replay window (((t, snap) :: older).drop j)).2 := by
  rw [presence_cons, if_pos hi, List.length_cons]
  constructor
  · intro hns j hj hjl hmem
    obtain ⟨k, rfl⟩ : ∃ k, j = k + 1 := ⟨j - 1, by omega⟩
    exact hns ⟨k, by omega, by simpa using hmem⟩
  · rintro hall ⟨j, hj, hmem⟩
    exact hall (j + 1) (by omega) (by omega) (by simpa using hmem)

/-- **When a device is surfaced.** For snapshots that each list an identity at most once, the
latest snapshot, taken at `t`, surfaces an identity exactly when it lists it, the first snapshot
of the identity's current run of presence lies at least the window before `t`, and no earlier
snapshot of the run surfaced it. It surfaces each identity at most once. -/
theorem surfaces_iff (window t : Nat) (snap : List Device) (older : List (Nat × List Device))
    (hn : ∀ x ∈ (t, snap) :: older, (ids x.2).Nodup) (i : Identity) :
    (i ∈ ids (replay window ((t, snap) :: older)).2 ↔
      i ∈ ids snap ∧
        (∃ first ∈ (presence i ((t, snap) :: older)).getLast?, window ≤ t - first.1) ∧
        ∀ j, 0 < j → j < (presence i ((t, snap) :: older)).length →
          i ∉ ids (replay window (((t, snap) :: older).drop j)).2) ∧
      (ids (replay window ((t, snap) :: older)).2).Nodup := by
  have hsnap := hn _ List.mem_cons_self
  have hold : ∀ x ∈ older, (ids x.2).Nodup := fun x hx => hn x (List.mem_cons_of_mem _ hx)
  refine ⟨?_, ((observe_sublist hsnap).map _).nodup hsnap⟩
  rw [replay, mem_observe hsnap]
  by_cases hi : i ∈ ids snap
  · rw [← not_surfacedInRun_iff hi, prior_replay hold, presence_cons, if_pos hi,
      List.getLast?_cons]
    cases (presence i older).getLast? <;> simp [hi, Sighting.due, and_comm]
  · simp [hi]

/-- A gamepad on bus 3. -/
def pad : Device := ⟨{ bus := 3, vendor := 0x1234, product := 1 }, "pad 1", .gamepad⟩

/-- A pad listed at 0 ms and again at 500 ms, with a window of 500 ms. -/
theorem surfaces_iff_pad :
    (∀ x ∈ [(500, [pad]), (0, [pad])], (ids x.2).Nodup) ∧
      ((pad.identity ∈ ids (replay 500 [(500, [pad]), (0, [pad])]).2 ↔
        pad.identity ∈ ids [pad] ∧
          (∃ first ∈ (presence pad.identity [(500, [pad]), (0, [pad])]).getLast?,
            500 ≤ 500 - first.1) ∧
          ∀ j, 0 < j → j < (presence pad.identity [(500, [pad]), (0, [pad])]).length →
            pad.identity ∉ ids (replay 500 ([(500, [pad]), (0, [pad])].drop j)).2) ∧
        (ids (replay 500 [(500, [pad]), (0, [pad])]).2).Nodup) :=
  ⟨by decide, surfaces_iff 500 500 [pad] [(0, [pad])] (by decide) pad.identity⟩

end Stabilizer

end KeyMidi
