import Mathlib
import KeyMidi.Proofs.Input.Gates
/-!
# Throttling, instant by instant

A throttle run (`ThrottleRun.go`) moves from instant to instant: at each it fires the gates due,
then reads the events sent at that instant, then closes the stream if it is the closing instant.
With the consumer reading throughout, a run between instants is `Sound` for the events it has
read: one gate per axis, every key read went out at the instant it came, and the gate of every axis
tracks that axis's samples (`AxisGate.Tracks`). Reading an event keeps this (`Sound.readOne`), and
so does firing the gates due (`Sound.fireAll`), since each of them is armed for the instant.
-/

namespace KeyMidi

open AxisGate (valueOf)

namespace InputEvent

/-- A sample of two axes is a sample of one. -/
theorem eq_of_onAxis {ev : InputEvent} {k j : InputId} (hk : ev.onAxis k = true)
    (hj : ev.onAxis j = true) : k = j := by
  cases ev with
  | key => simp at hk
  | axis i v b => simp at hk hj; exact hk.symm.trans hj

/-- A sample of one axis is no sample of another. -/
theorem onAxis_eq_false_of_ne {ev : InputEvent} {k j : InputId} (hk : ev.onAxis k = true)
    (hj : j ≠ k) : ev.onAxis j = false := by
  cases h : ev.onAxis j with
  | false => rfl
  | true => exact absurd (eq_of_onAxis h hk) hj

theorem isKey_of_onAxis {ev : InputEvent} {k : InputId} (hk : ev.onAxis k = true) :
    ev.isKey = false := by
  cases ev with
  | key => simp at hk
  | axis => rfl

end InputEvent

namespace AxisGate

/-- A pending sample is one of the samples read. -/
theorem Tracks.pending_mem {interval : Nat} {g : AxisGate} {emitted raw : List (Timed InputEvent)}
    (h : g.Tracks interval emitted raw) {p : InputEvent} (hp : g.pending = some p) :
    p ∈ raw.map (·.value) :=
  h.sublist.subset (by simp [hp])

/-- An idle gate has nothing pending, so the latest sample of its axis is the last one it let
through. -/
theorem Tracks.settled {interval : Nat} {g : AxisGate} {emitted raw : List (Timed InputEvent)}
    (h : g.Tracks interval emitted raw) (hd : g.deadline = none) :
    raw.getLast?.map (valueOf ·.value) = emitted.getLast?.map (valueOf ·.value) := by
  have hp : g.pending = none := by
    cases hp : g.pending with
    | none => rfl
    | some p =>
      obtain ⟨_, _, _, _, hdl, _⟩ := h.armed p hp
      rw [hd] at hdl
      cases hdl
  rw [h.latest, hp, ← h.lastValue]
  simp

end AxisGate

namespace ThrottleRun

variable {r : ThrottleRun} {now : Nat}

/-! ## One step -/

theorem deliver_of_consumed (h : r.consumed = true) (now : Nat) (ev : InputEvent) :
    r.deliver now ev = ({ r with delivered := r.delivered ++ [⟨now, ev⟩] }, true) := by
  simp [deliver, h]

/-- A gate fired while the consumer reads: the gate as fired, and what it let through delivered
now. -/
theorem fireOne_eq (h : r.consumed = true) (now : Nat) (k : InputId) :
    r.fireOne now k = { r with
      throttle := r.throttle.store ((r.throttle.gate k).fire now).1,
      delivered := r.delivered ++ (((r.throttle.gate k).fire now).2.map (⟨now, ·⟩)).toList } := by
  unfold fireOne
  rw [Throttle.fireGate_eq]
  rcases ((r.throttle.gate k).fire now) with ⟨g, _ | ev⟩
  · simp
  · simp [deliver, h]

theorem fireOne_running (h : r.consumed = true) (now : Nat) (k : InputId) :
    (r.fireOne now k).running = r.running := by
  rw [fireOne_eq h]

theorem fireOne_interval (h : r.consumed = true) (now : Nat) (k : InputId) :
    (r.fireOne now k).throttle.interval = r.throttle.interval := by
  rw [fireOne_eq h, Throttle.store_interval]

/-- Firing a gate changes that gate only. -/
theorem fireOne_gate (h : r.consumed = true) (now : Nat) (k j : InputId) :
    (r.fireOne now k).throttle.gate j =
      if j = k then ((r.throttle.gate k).fire now).1 else r.throttle.gate j := by
  rw [fireOne_eq h, Throttle.gate_store, AxisGate.fire_key, Throttle.gate_key]

/-- A key read while the consumer reads goes out at once. -/
theorem readOne_key (hr : r.running = true) (hc : r.consumed = true) (now : Nat) (k : InputId)
    (v : Int) :
    r.readOne now (.key k v) =
      { r with seq := r.seq + 1, delivered := r.delivered ++ [⟨now, .key k v⟩] } := by
  simp [readOne, hr, Throttle.takeIn_key, deliver, hc]

/-- A sample read while the consumer reads goes through the gate of its axis, and out when it
passes. -/
theorem readOne_axis (hr : r.running = true) (hc : r.consumed = true) (now : Nat) (k : InputId)
    (v : Int) (b : Option Analog.Bounds) :
    r.readOne now (.axis k v b) = { r with
      throttle :=
        r.throttle.store ((r.throttle.gate k).sampled r.throttle.interval now r.seq (.axis k v b)),
      seq := r.seq + 1,
      delivered := if (r.throttle.gate k).passes r.throttle.interval now
        then r.delivered ++ [⟨now, .axis k v b⟩] else r.delivered } := by
  unfold readOne
  rw [Throttle.takeIn_axis]
  by_cases hp : (r.throttle.gate k).passes r.throttle.interval now
  · simp [hr, hp, deliver, hc]
  · simp [hr, hp]

theorem readAll_nil (now : Nat) : r.readAll now [] = r := rfl

theorem readAll_cons (now : Nat) (ev : InputEvent) (evs : List InputEvent) :
    r.readAll now (ev :: evs) = (r.readOne now ev).readAll now evs := rfl

/-- What passed, filtered: an event passed or not, under a condition. -/
theorem filter_ite_append {α : Type} (c : Bool) (l : List α) (x : α) (p : α → Bool) :
    (if c then l ++ [x] else l).filter p = if c then l.filter p ++ [x].filter p else l.filter p := by
  split <;> simp

/-- Times up to `now` stay so when an entry at `now` is added. -/
theorem at_le_append {l : List (Timed InputEvent)} (h : ∀ e ∈ l, e.at_ ≤ now) (x : InputEvent) :
    ∀ e ∈ l ++ [⟨now, x⟩], e.at_ ≤ now := by
  intro e he
  rcases List.mem_append.mp he with he | he
  · exact h e he
  · rw [List.mem_singleton.mp he]

/-! ## Between instants -/

/-- A run between instants, the consumer reading: one gate per axis, the keys read went out as
they came, the gate of every axis tracks the samples of that axis read, every deadline was armed
by an event read, and nothing read or let through lies after `now`. -/
structure Sound (r : ThrottleRun) (read : List (Timed InputEvent)) (now : Nat) : Prop where
  consumed : r.consumed = true
  nodup : (r.throttle.gates.map (·.key)).Nodup
  seq_eq : r.seq = read.length
  keys : r.delivered.filter (·.value.isKey) = read.filter (·.value.isKey)
  axes : ∀ k, (r.throttle.gate k).Tracks r.throttle.interval
    (r.delivered.filter (·.value.onAxis k)) (read.filter (·.value.onAxis k))
  armed : ∀ k, ∀ d ∈ (r.throttle.gate k).deadline, ∃ e ∈ read, d = e.at_ + r.throttle.interval + 10
  read_le : ∀ e ∈ read, e.at_ ≤ now
  delivered_le : ∀ d ∈ r.delivered, d.at_ ≤ now

theorem Sound.mono {read : List (Timed InputEvent)} (hs : r.Sound read now) {later : Nat}
    (h : now ≤ later) : r.Sound read later :=
  { hs with
    read_le := fun e he => (hs.read_le e he).trans h
    delivered_le := fun d hd => (hs.delivered_le d hd).trans h }

/-- The last emission of an axis lies at or before `now`. -/
theorem Sound.lastEmit_le {read : List (Timed InputEvent)} (hs : r.Sound read now) (k : InputId) :
    ∀ le ∈ (r.throttle.gate k).lastEmit, le ≤ now := by
  intro le hle
  rw [(hs.axes k).lastEmit] at hle
  obtain ⟨d, hd, rfl⟩ := Option.mem_map.mp hle
  exact hs.delivered_le d (List.mem_of_mem_filter (List.mem_of_mem_getLast? hd))

theorem readOne_running (hr : r.running = true) (hc : r.consumed = true) (now : Nat)
    (ev : InputEvent) : (r.readOne now ev).running = true ∧ (r.readOne now ev).consumed = true ∧
      (r.readOne now ev).throttle.interval = r.throttle.interval := by
  cases ev with
  | key k v => simp [readOne_key hr hc, hr, hc]
  | axis k v b => simp [readOne_axis hr hc, hr, hc]

/-- Reading an event at `now` keeps a run sound, with the event read. -/
theorem Sound.readOne {read : List (Timed InputEvent)} (hs : r.Sound read now)
    (hr : r.running = true) (ev : InputEvent) :
    (r.readOne now ev).Sound (read ++ [⟨now, ev⟩]) now := by
  have hread_le := at_le_append hs.read_le ev
  cases ev with
  | key j v =>
    rw [readOne_key hr hs.consumed]
    refine ⟨hs.consumed, hs.nodup, by simp [hs.seq_eq], by simp [List.filter_append, hs.keys],
      fun k => by simpa [List.filter_append] using hs.axes k,
      fun k d hd => ?_, hread_le, at_le_append hs.delivered_le _⟩
    obtain ⟨e, he, rfl⟩ := hs.armed k d hd
    exact ⟨e, List.mem_append_left _ he, rfl⟩
  | axis j v b =>
    rw [readOne_axis hr hs.consumed]
    have hjkey : ((r.throttle.gate j).sampled r.throttle.interval now r.seq
        (.axis j v b)).key = j := by
      simp [Throttle.gate_key]
    refine ⟨hs.consumed, Throttle.store_nodup hs.nodup _, by simp [hs.seq_eq], ?_, fun k => ?_,
      fun k d hd => ?_, hread_le, ?_⟩
    · rw [filter_ite_append]
      split <;> simp [hs.keys]
    · simp only [Throttle.store_interval, Throttle.gate_store, hjkey, filter_ite_append,
        List.filter_append]
      by_cases hk : k = j
      · subst hk
        simpa using (hs.axes k).sampled (hs.lastEmit_le k) r.seq (.axis k v b)
      · have hne : j ≠ k := Ne.symm hk
        simpa [hk, hne] using hs.axes k
    · simp only [Throttle.store_interval, Throttle.gate_store, hjkey] at hd ⊢
      by_cases hk : k = j
      · subst hk
        simp only [if_true, AxisGate.sampled_deadline, Option.mem_def, Option.some.injEq] at hd
        exact ⟨⟨now, .axis k v b⟩, by simp, hd.symm⟩
      · simp only [if_neg hk] at hd
        obtain ⟨e, he, rfl⟩ := hs.armed k d hd
        exact ⟨e, List.mem_append_left _ he, rfl⟩
    · split
      · exact at_le_append hs.delivered_le _
      · exact hs.delivered_le

/-- Reading the events sent at `now` keeps a run sound, with the events read in order. -/
theorem Sound.readAll {read : List (Timed InputEvent)} (hs : r.Sound read now)
    (hr : r.running = true) (evs : List InputEvent) :
    (r.readAll now evs).Sound (read ++ evs.map (⟨now, ·⟩)) now ∧
      (r.readAll now evs).running = true ∧
      (r.readAll now evs).throttle.interval = r.throttle.interval := by
  induction evs generalizing r read with
  | nil => exact ⟨by simpa [readAll_nil] using hs, hr, rfl⟩
  | cons ev evs ih =>
    obtain ⟨hr', -, hi⟩ := readOne_running hr hs.consumed now ev
    obtain ⟨hs'', hr'', hi'⟩ := ih (hs.readOne hr ev) hr'
    rw [readAll_cons]
    exact ⟨by simpa using hs'', hr'', hi'.trans hi⟩

/-- What the gate of an axis lets through is its pending sample, a sample of that axis. -/
theorem Sound.onAxis_of_fire {read : List (Timed InputEvent)} (hs : r.Sound read now) (k : InputId)
    {later : Nat} {p : InputEvent} (hp : ((r.throttle.gate k).fire later).2 = some p) :
    p.onAxis k = true := by
  have hmem := (hs.axes k).pending_mem (AxisGate.pending_of_fire hp)
  obtain ⟨e, he, rfl⟩ := List.mem_map.mp hmem
  exact (List.mem_filter.mp he).2

/-- Firing the gate of an axis armed for `now` keeps a run sound. -/
theorem Sound.fire {read : List (Timed InputEvent)} (hs : r.Sound read now) (k : InputId)
    (harmed : (r.throttle.gate k).deadline = some now) : (r.fireOne now k).Sound read now := by
  rw [fireOne_eq hs.consumed]
  have hout : ∀ p ∈ ((r.throttle.gate k).fire now).2, p.onAxis k = true :=
    fun p hp => hs.onAxis_of_fire k hp
  have hkey : ((r.throttle.gate k).fire now).1.key = k := by simp [Throttle.gate_key]
  refine ⟨hs.consumed, Throttle.store_nodup hs.nodup _, hs.seq_eq, ?_, fun j => ?_,
    fun j d hd => ?_, hs.read_le, ?_⟩
  · cases hf : ((r.throttle.gate k).fire now).2 with
    | none => simpa using hs.keys
    | some p =>
      have hp := InputEvent.isKey_of_onAxis (hout p hf)
      simpa [List.filter_append, hp] using hs.keys
  · simp only [Throttle.store_interval, Throttle.gate_store, hkey]
    by_cases hj : j = k
    · subst hj
      rw [if_pos rfl]
      have ht := (hs.axes j).fire (fun _ => harmed)
      cases hf : ((r.throttle.gate j).fire now).2 with
      | none => simpa [hf] using ht
      | some p => simpa [hf, List.filter_append, hout p hf] using ht
    · rw [if_neg hj]
      cases hf : ((r.throttle.gate k).fire now).2 with
      | none => simpa using hs.axes j
      | some p =>
        simpa [List.filter_append, InputEvent.onAxis_eq_false_of_ne (hout p hf) hj] using hs.axes j
  · simp only [Throttle.store_interval, Throttle.gate_store, hkey] at hd ⊢
    by_cases hj : j = k
    · simp [hj] at hd
    · rw [if_neg hj] at hd
      exact hs.armed j d hd
  · intro d hd
    rcases List.mem_append.mp hd with hd | hd
    · exact hs.delivered_le d hd
    · cases hf : ((r.throttle.gate k).fire now).2 with
      | none => simp [hf] at hd
      | some p => simp [hf] at hd; simp [hd]

/-- Firing gates that are all armed for `now`, each once, from a sound run: what firing one armed
gate of a sound run keeps, firing them all keeps. Each firing keeps the run sound and leaves the
gates still to fire armed. -/
theorem Sound.foldl_fireOne_rec {read : List (Timed InputEvent)} (P : ThrottleRun → Prop)
    (hstep : ∀ r' k, r'.Sound read now → (r'.throttle.gate k).deadline = some now → P r' →
      P (r'.fireOne now k))
    (hs : r.Sound read now) (keys : List InputId) (hnd : keys.Nodup)
    (harmed : ∀ k ∈ keys, (r.throttle.gate k).deadline = some now) (h0 : P r) :
    P (keys.foldl (fireOne now) r) := by
  induction keys generalizing r with
  | nil => exact h0
  | cons k rest ih =>
    obtain ⟨hknot, hrest⟩ := List.nodup_cons.mp hnd
    have hk := harmed k List.mem_cons_self
    have harmed' : ∀ j ∈ rest, ((r.fireOne now k).throttle.gate j).deadline = some now := by
      intro j hj
      have hjk : j ≠ k := fun h => hknot (h ▸ hj)
      rw [fireOne_gate hs.consumed, if_neg hjk]
      exact harmed j (List.mem_cons_of_mem _ hj)
    rw [List.foldl_cons]
    exact ih (hs.fire k hk) hrest harmed' (hstep r k hs hk h0)

/-- Firing gates that are all armed for `now`, each once, keeps a run sound. -/
theorem Sound.foldl_fireOne {read : List (Timed InputEvent)} (hs : r.Sound read now)
    (keys : List InputId) (hnd : keys.Nodup)
    (harmed : ∀ k ∈ keys, (r.throttle.gate k).deadline = some now) :
    (keys.foldl (fireOne now) r).Sound read now ∧
      (keys.foldl (fireOne now) r).running = r.running ∧
      (keys.foldl (fireOne now) r).throttle.interval = r.throttle.interval := by
  refine hs.foldl_fireOne_rec (fun r' => r'.Sound read now ∧ r'.running = r.running ∧
    r'.throttle.interval = r.throttle.interval) ?_ keys hnd harmed ⟨hs, rfl, rfl⟩
  intro r' k _ hk ⟨hs', hr', hi'⟩
  exact ⟨hs'.fire k hk, (fireOne_running hs'.consumed now k).trans hr',
    (fireOne_interval hs'.consumed now k).trans hi'⟩

/-- Firing the gates due at `now` keeps a run sound. -/
theorem Sound.fireAll {read : List (Timed InputEvent)} (hs : r.Sound read now) :
    (r.fireAll now).Sound read now ∧ (r.fireAll now).running = r.running ∧
      (r.fireAll now).throttle.interval = r.throttle.interval := by
  obtain ⟨hnd, harmed⟩ := Throttle.dueAt_spec hs.nodup now
  exact hs.foldl_fireOne _ hnd harmed

end ThrottleRun

end KeyMidi
