import Mathlib
import KeyMidi.Proofs.Input.Origins
/-!
# A throttled stream

`throttleStream` runs a throttle over a timed stream, instant after instant (`ThrottleRun.go`):
at each instant it fires the gates due, reads the events sent at that instant, and closes the
stream at the closing instant. With the consumer reading throughout, every state of the run is
`Live`: it is sound for the events sent up to the current instant and not after the close
(`readBy`), its gates are live and armed for later instants, and nothing it let through lies after
the close.

Two facts about the next instant carry this (`nextTime_some`). It is the first time at which
anything can happen, so no instant at which events were sent is skipped, and sorted events are read
in their order (`sentBy_some`); and no deadline is skipped, so every gate fires at the instant it
was armed for. After the close the run reads and fires nothing, so it only moves on.

The run also ends before its fuel does (`go_live`): each instant is one of finitely many `times`
(the event times, the close, and the deadlines events can arm), and each step leaves one of them
behind for good. `throttle_laws` gathers what the consumer then receives.
-/

namespace KeyMidi

open AxisGate (valueOf)

namespace ThrottleRun

variable {r : ThrottleRun} {events : List (Timed InputEvent)} {interval closeAt t : Nat}
  {now : Option Nat}

/-! ## What is sent by an instant -/

/-- The events sent up to `t`; none before the first instant. -/
def sentBy (events : List (Timed InputEvent)) : Option Nat → List (Timed InputEvent)
  | none => []
  | some t => events.filter (·.at_ ≤ t)

/-- The events a run that closes at `closeAt` has read at `now`: those sent up to `now`, and none
sent after the close. -/
def readBy (events : List (Timed InputEvent)) (closeAt : Nat) (now : Option Nat) :
    List (Timed InputEvent) :=
  sentBy events (now.map (min · closeAt))

theorem mem_sentBy {lo : Option Nat} {e : Timed InputEvent} (h : e ∈ sentBy events lo) :
    e ∈ events := by
  cases lo with
  | none => cases h
  | some t => exact List.mem_of_mem_filter h

/-- Of sorted events, those sent up to an instant come first. -/
theorem sentBy_isPrefix (hsorted : events.Pairwise fun a b => a.at_ ≤ b.at_) (lo : Option Nat) :
    (sentBy events lo).IsPrefix events := by
  cases lo with
  | none => exact List.nil_prefix
  | some t =>
    induction events with
    | nil => exact List.nil_prefix
    | cons e rest ih =>
      obtain ⟨hle, hrest⟩ := List.pairwise_cons.mp hsorted
      by_cases he : e.at_ ≤ t
      · simpa [sentBy, he] using ih hrest
      · -- everything after `e` is sent later than `t` too
        have hnil : rest.filter (·.at_ ≤ t) = [] :=
          List.filter_eq_nil_iff.mpr fun e' he' => by have := hle e' he'; simp; omega
        simp [sentBy, he, hnil]

/-- Sorted events sent up to `t` are those sent up to an earlier instant `lo`, then those sent at
`t`, when none is sent in between. -/
theorem sentBy_some (hsorted : events.Pairwise fun a b => a.at_ ≤ b.at_) {lo : Option Nat}
    (hlt : ∀ t0 ∈ lo, t0 < t) (hgap : ∀ e ∈ events, (∀ t0 ∈ lo, t0 < e.at_) → t ≤ e.at_) :
    sentBy events (some t) = sentBy events lo ++ events.filter (·.at_ == t) := by
  cases lo with
  | none =>
    simp only [sentBy, List.nil_append]
    refine List.filter_congr fun e he => ?_
    have := hgap e he (by simp)
    rw [Bool.eq_iff_iff]
    simp only [decide_eq_true_eq, beq_iff_eq]
    omega
  | some t0 =>
    simp only [Option.mem_def, Option.some.injEq, forall_eq'] at hlt hgap
    simp only [sentBy]
    induction events with
    | nil => rfl
    | cons e rest ih =>
      obtain ⟨hle, hrest⟩ := List.pairwise_cons.mp hsorted
      have ih := ih hrest fun e' he' => hgap e' (List.mem_cons_of_mem _ he')
      by_cases h0 : e.at_ ≤ t0
      · have h1 : e.at_ ≤ t := by omega
        have h2 : e.at_ ≠ t := by omega
        simp [h0, h1, h2, ih]
      · have h1 : t ≤ e.at_ := hgap e List.mem_cons_self (by omega)
        have hnil : rest.filter (·.at_ ≤ t0) = [] :=
          List.filter_eq_nil_iff.mpr fun e' he' => by have := hle e' he'; simp; omega
        by_cases h2 : e.at_ = t
        · simp only [hnil, List.nil_append] at ih
          have h3 : ¬t ≤ t0 := by omega
          simp [h2, h3, ih, hnil]
        · have h3 : ¬e.at_ ≤ t := by omega
          simp [h0, h2, h3, ih]

/-- The events sent at `t`, stamped with `t`, are the events sent at `t`. -/
theorem stamp_arrivals (events : List (Timed InputEvent)) (t : Nat) :
    ((events.filter (·.at_ == t)).map (·.value)).map (⟨t, ·⟩) = events.filter (·.at_ == t) := by
  rw [List.map_map]
  refine (List.map_congr_left fun e he => ?_).trans (List.map_id _)
  obtain ⟨a, v⟩ := e
  have ha : a = t := by simpa using (List.mem_filter.mp he).2
  simp [ha]

/-! ## The next instant -/

theorem all_lt_iff (now : Option Nat) (b : Nat) :
    now.all (fun x => decide (x < b)) = true ↔ ∀ t0 ∈ now, t0 < b := by
  cases now <;> simp

/-- The next instant is after `now`; it is an event time, the close, or the next deadline while
the stream runs; and it is no later than any of them after `now`. -/
theorem nextTime_some (h : r.nextTime events closeAt none now = some t) :
    (∀ t0 ∈ now, t0 < t) ∧
    (t ∈ events.map (·.at_) ∨ t = closeAt ∨ (r.running = true ∧ r.throttle.nextDeadline = some t)) ∧
    (∀ e ∈ events, (∀ t0 ∈ now, t0 < e.at_) → t ≤ e.at_) ∧
    ((∀ t0 ∈ now, t0 < closeAt) → t ≤ closeAt) ∧
    (r.running = true → ∀ m ∈ r.throttle.nextDeadline, (∀ t0 ∈ now, t0 < m) → t ≤ m) := by
  simp only [nextTime] at h
  obtain ⟨hmem, hmin⟩ := List.min?_eq_some_iff.mp h
  simp only [all_lt_iff, List.mem_filter, List.mem_append, List.mem_map, List.mem_singleton,
    Option.toList_none, List.not_mem_nil, or_false] at hmem hmin
  refine ⟨?_, ?_, fun e he hafter => hmin _ ⟨.inl (.inl ⟨e, he, rfl⟩), hafter⟩,
    fun hafter => hmin _ ⟨.inl (.inr rfl), hafter⟩, fun hr m hm hafter => hmin _ ⟨.inr ?_, hafter⟩⟩
  · exact hmem.2
  · rcases hmem.1 with (⟨e, he, rfl⟩ | rfl) | hd
    · exact .inl (List.mem_map_of_mem he)
    · exact .inr (.inl rfl)
    · split at hd
      · exact .inr (.inr ⟨‹_›, Option.mem_toList.mp hd⟩)
      · cases hd
  · simpa [hr] using hm

/-- A run with nowhere to go has passed the close. -/
theorem nextTime_none (h : r.nextTime events closeAt none now = none) : ∃ t0 ∈ now, closeAt ≤ t0 := by
  simp only [nextTime, List.min?_eq_none_iff, List.filter_eq_nil_iff] at h
  have hclose := h closeAt (by simp)
  rw [all_lt_iff] at hclose
  cases now with
  | none => simp at hclose
  | some t0 => exact ⟨t0, rfl, by simpa using hclose⟩

/-! ## Gates live and armed for later -/

/-- Firing the gates named, from a run whose gates all lie after `t` but those named, leaves
every gate live and armed for after `t`. -/
theorem foldl_fireOne_later (hc : r.consumed = true) (hnd : (r.throttle.gates.map (·.key)).Nodup)
    (halive : ∀ g ∈ r.throttle.gates, g.alive = true) (keys : List InputId)
    (hdue : ∀ k, ∀ d ∈ (r.throttle.gate k).deadline, t < d ∨ k ∈ keys) :
    (∀ g ∈ (keys.foldl (fireOne t) r).throttle.gates, g.alive = true) ∧
      ∀ k, ∀ d ∈ ((keys.foldl (fireOne t) r).throttle.gate k).deadline, t < d := by
  induction keys generalizing r with
  | nil => exact ⟨halive, fun k d hd => (hdue k d hd).resolve_right List.not_mem_nil⟩
  | cons k0 rest ih =>
    have hdue' : ∀ k, ∀ d ∈ ((r.fireOne t k0).throttle.gate k).deadline, t < d ∨ k ∈ rest := by
      intro k d hd
      rw [fireOne_gate hc] at hd
      by_cases hk : k = k0
      · simp [hk] at hd
      · rw [if_neg hk] at hd
        exact (hdue k d hd).imp_right fun hmem => (List.mem_cons.mp hmem).resolve_left hk
    rw [List.foldl_cons]
    refine ih ?_ ?_ ?_ hdue' <;> rw [fireOne_eq hc]
    · exact hc
    · exact Throttle.store_nodup hnd _
    · exact Throttle.store_alive halive (by simp [Throttle.gate_alive halive])

/-- Firing the gates due at `t`, when no gate is armed before `t`, leaves every gate live and
armed for after `t`. -/
theorem fireAll_later (hc : r.consumed = true) (hnd : (r.throttle.gates.map (·.key)).Nodup)
    (halive : ∀ g ∈ r.throttle.gates, g.alive = true)
    (hge : ∀ k, ∀ d ∈ (r.throttle.gate k).deadline, t ≤ d) :
    (∀ g ∈ (r.fireAll t).throttle.gates, g.alive = true) ∧
      ∀ k, ∀ d ∈ ((r.fireAll t).throttle.gate k).deadline, t < d := by
  refine foldl_fireOne_later hc hnd halive _ fun k d hd => ?_
  rcases Nat.lt_or_eq_of_le (hge k d hd) with hlt | rfl
  · exact .inl hlt
  · -- a gate armed for `t` is a live gate of the throttle, so it is due
    refine .inr ?_
    rcases Throttle.gate_mem_or_fresh r.throttle k with hmem | hfresh
    · have := Throttle.mem_dueAt hmem (halive _ hmem) hd
      rwa [Throttle.gate_key] at this
    · rw [hfresh] at hd
      cases hd

/-- Reading an event at `t` keeps every gate live and armed for after `t`. -/
theorem readOne_later (hr : r.running = true) (hc : r.consumed = true)
    (halive : ∀ g ∈ r.throttle.gates, g.alive = true)
    (hlater : ∀ k, ∀ d ∈ (r.throttle.gate k).deadline, t < d) (ev : InputEvent) :
    (∀ g ∈ (r.readOne t ev).throttle.gates, g.alive = true) ∧
      ∀ k, ∀ d ∈ ((r.readOne t ev).throttle.gate k).deadline, t < d := by
  cases ev with
  | key j v =>
    rw [readOne_key hr hc]
    exact ⟨halive, hlater⟩
  | axis j v b =>
    rw [readOne_axis hr hc]
    refine ⟨Throttle.store_alive halive (by simp [Throttle.gate_alive halive]), fun k d hd => ?_⟩
    simp only [Throttle.gate_store, AxisGate.sampled_key, Throttle.gate_key] at hd
    by_cases hk : k = j
    · simp only [hk, if_true, AxisGate.sampled_deadline, Option.mem_def, Option.some.injEq] at hd
      omega
    · rw [if_neg hk] at hd
      exact hlater k d hd

theorem readAll_later (hr : r.running = true) (hc : r.consumed = true)
    (halive : ∀ g ∈ r.throttle.gates, g.alive = true)
    (hlater : ∀ k, ∀ d ∈ (r.throttle.gate k).deadline, t < d) (evs : List InputEvent) :
    (∀ g ∈ (r.readAll t evs).throttle.gates, g.alive = true) ∧
      ∀ k, ∀ d ∈ ((r.readAll t evs).throttle.gate k).deadline, t < d := by
  induction evs generalizing r with
  | nil => exact ⟨halive, hlater⟩
  | cons ev evs ih =>
    obtain ⟨hr', hc', -⟩ := readOne_running hr hc t ev
    obtain ⟨halive', hlater'⟩ := readOne_later hr hc halive hlater ev
    rw [readAll_cons]
    exact ih hr' hc' halive' hlater'

/-! ## A run between instants -/

/-- A state of a run with the consumer reading, at `now` (none before the first instant): sound for
the events read by then, with the throttle's interval, running until the close, every gate live and
armed for after `now` (or after the close, once it is passed), and nothing let through after the
close. -/
structure Live (interval : Nat) (events : List (Timed InputEvent)) (closeAt : Nat)
    (r : ThrottleRun) (now : Option Nat) : Prop where
  sound : r.Sound (readBy events closeAt now) (now.getD 0)
  interval_eq : r.throttle.interval = interval
  running_iff : r.running = true ↔ ∀ t ∈ now, t < closeAt
  alive : ∀ g ∈ r.throttle.gates, g.alive = true
  later : ∀ k, ∀ d ∈ (r.throttle.gate k).deadline, ∀ t ∈ now, min t closeAt < d
  closed : ∀ d ∈ r.delivered, d.at_ ≤ closeAt

/-- A run starts live. -/
theorem live_start (interval : Nat) (events : List (Timed InputEvent)) (closeAt : Nat) :
    Live interval events closeAt { throttle := { interval } } none where
  sound :=
    { consumed := rfl
      nodup := List.nodup_nil
      seq_eq := rfl
      keys := rfl
      axes := fun k => AxisGate.tracks_fresh interval k
      armed := fun k d hd => by simp [Throttle.gate] at hd
      read_le := fun e he => by cases he
      delivered_le := fun d hd => by cases hd }
  interval_eq := rfl
  running_iff := by simp
  alive := fun g hg => by cases hg
  later := fun k d hd => by simp [Throttle.gate] at hd
  closed := fun d hd => by cases hd

/-- The state after an instant `t` no later than the close is live, whatever the run's flag says,
as long as it says whether `t` is before the close. -/
theorem live_of {R : ThrottleRun} (hs : R.Sound (readBy events closeAt (some t)) t)
    (hi : R.throttle.interval = interval) (halive : ∀ g ∈ R.throttle.gates, g.alive = true)
    (hlater : ∀ k, ∀ d ∈ (R.throttle.gate k).deadline, t < d) (htc : t ≤ closeAt)
    (b : Bool) (hb : b = true ↔ t < closeAt) (acc : Nat) :
    Live interval events closeAt { R with accepted := acc, running := b } (some t) where
  sound := ⟨hs.consumed, hs.nodup, hs.seq_eq, hs.keys, hs.axes, hs.armed, hs.read_le,
    hs.delivered_le⟩
  interval_eq := hi
  running_iff := by simpa using hb
  alive := halive
  later := fun k d hd t' ht' => by
    obtain rfl : t' = t := Option.some.inj ht'.symm
    have := hlater k d hd
    omega
  closed := fun d hd => (hs.delivered_le d hd).trans htc

/-- An instant while the stream runs: the due gates fire, the events of the instant are read, and
the stream closes if it is the closing instant. -/
theorem tick_of_running (hr : r.running = true) (hf : (r.fireAll t).running = true) :
    r.tick events closeAt none t =
      if t = closeAt then
        { (r.fireAll t).readAll t ((events.filter (·.at_ == t)).map (·.value)) with
          accepted := (r.fireAll t).accepted + (events.filter (·.at_ == t)).length,
          running := false }
      else
        { (r.fireAll t).readAll t ((events.filter (·.at_ == t)).map (·.value)) with
          accepted := (r.fireAll t).accepted + (events.filter (·.at_ == t)).length } := by
  simp [tick, hr, hf]

/-- An instant after the close changes nothing. -/
theorem tick_of_stopped (hr : r.running = false) (ht : t ≠ closeAt) :
    r.tick events closeAt none t = r := by
  simp [tick, hr, ht]

/-- Every deadline of a live, running state lies at or after the next instant. -/
theorem Live.deadline_ge (hl : Live interval events closeAt r now) (hr : r.running = true)
    (ht : r.nextTime events closeAt none now = some t) :
    ∀ k, ∀ d ∈ (r.throttle.gate k).deadline, t ≤ d := by
  have hnow := hl.running_iff.mp hr
  obtain ⟨-, -, -, -, hnext⟩ := nextTime_some ht
  have hgates := Throttle.nextDeadline_gate hl.sound.nodup hl.alive
  intro k d hd
  -- the next deadline is no later than this one, and it lies after `now`
  obtain ⟨m, hm, hmd⟩ := hgates.2 k d hd
  obtain ⟨j, hj⟩ := hgates.1 m hm
  have hm_after : ∀ t0 ∈ now, t0 < m := by
    intro t0 ht0
    have hlt := hl.later j m hj t0 ht0
    have := hnow t0 ht0
    omega
  exact (hnext hr m hm hm_after).trans hmd

/-- A live state is sound at its next instant. -/
theorem Live.sound_next (hl : Live interval events closeAt r now)
    (ht : r.nextTime events closeAt none now = some t) : r.Sound (readBy events closeAt now) t := by
  refine hl.sound.mono ?_
  cases now with
  | none => exact Nat.zero_le t
  | some t0 => exact Nat.le_of_lt ((nextTime_some ht).1 t0 rfl)

/-- A live state that has stopped has passed the close. -/
theorem Live.closed_of_stopped (hl : Live interval events closeAt r now) (hr : r.running = false) :
    ∃ t0, now = some t0 ∧ closeAt ≤ t0 := by
  have hnot : ¬∀ t0 ∈ now, t0 < closeAt := fun h => by simp [hl.running_iff.mpr h] at hr
  cases now with
  | none => simp at hnot
  | some t0 => exact ⟨t0, rfl, by simpa using hnot⟩

/-- **An instant of a running stream keeps it live.** The due gates fire (none is skipped, as no
deadline lies before the instant), then the events sent at the instant are read: with sorted events
and no instant skipped, the events read are again those sent by then. -/
theorem Live.tick_running (hsorted : events.Pairwise fun a b => a.at_ ≤ b.at_)
    (hl : Live interval events closeAt r now) (hr : r.running = true)
    (ht : r.nextTime events closeAt none now = some t) :
    Live interval events closeAt (r.tick events closeAt none t) (some t) := by
  have hnow := hl.running_iff.mp hr
  obtain ⟨hafter, -, hevents, hclose, -⟩ := nextTime_some ht
  have htc : t ≤ closeAt := hclose hnow
  have hs0 := hl.sound_next ht
  obtain ⟨hs1, hr1, hi1⟩ := hs0.fireAll
  obtain ⟨halive1, hlater1⟩ :=
    fireAll_later hs0.consumed hs0.nodup hl.alive (hl.deadline_ge hr ht)
  obtain ⟨hs2, hr2, hi2⟩ := hs1.readAll (hr1.trans hr) ((events.filter (·.at_ == t)).map (·.value))
  obtain ⟨halive2, hlater2⟩ :=
    readAll_later (hr1.trans hr) hs1.consumed halive1 hlater1 ((events.filter (·.at_ == t)).map (·.value))
  have hread : readBy events closeAt now ++
      ((events.filter (·.at_ == t)).map (·.value)).map (⟨t, ·⟩) =
      readBy events closeAt (some t) := by
    have hnow' : now.map (min · closeAt) = now := by
      cases now with
      | none => rfl
      | some t0 => simpa using Nat.le_of_lt (hnow t0 rfl)
    rw [stamp_arrivals, readBy, readBy, hnow', Option.map_some, Nat.min_eq_left htc]
    exact (sentBy_some hsorted hafter hevents).symm
  rw [hread] at hs2
  have hi : ((r.fireAll t).readAll t ((events.filter (·.at_ == t)).map (·.value))).throttle.interval =
      interval := hi2.trans (hi1.trans hl.interval_eq)
  rw [tick_of_running hr (hr1.trans hr)]
  split
  · next hcl => exact live_of hs2 hi halive2 hlater2 htc false (by simp [hcl]) _
  · next hcl => exact live_of hs2 hi halive2 hlater2 htc _ (by simp [hr2]; omega) _

/-- An instant after the close keeps a run live: it only moves on. -/
theorem Live.tick_stopped (hl : Live interval events closeAt r now) (hr : r.running = false)
    (hafter : ∀ t0 ∈ now, t0 < t) :
    Live interval events closeAt (r.tick events closeAt none t) (some t) := by
  obtain ⟨t0, rfl, hct0⟩ := hl.closed_of_stopped hr
  have ht0 : t0 < t := hafter t0 rfl
  have hmin : min t closeAt = min t0 closeAt := by omega
  rw [tick_of_stopped hr (by omega)]
  refine ⟨?_, hl.interval_eq, by simp [hr]; omega, hl.alive, ?_, hl.closed⟩
  · have hs := hl.sound.mono (show t0 ≤ t by omega)
    simpa [readBy, hmin] using hs
  · intro k d hd t' ht'
    obtain rfl : t' = t := Option.some.inj ht'.symm
    rw [hmin]
    exact hl.later k d hd t0 rfl

theorem Live.tick (hsorted : events.Pairwise fun a b => a.at_ ≤ b.at_)
    (hl : Live interval events closeAt r now) (ht : r.nextTime events closeAt none now = some t) :
    Live interval events closeAt (r.tick events closeAt none t) (some t) := by
  cases hr : r.running with
  | true => exact hl.tick_running hsorted hr ht
  | false => exact hl.tick_stopped hr (nextTime_some ht).1

/-! ## The run ends -/

/-- The times at which anything can happen: the event times, the close, and the deadlines the
events can arm. -/
def times (interval : Nat) (events : List (Timed InputEvent)) (closeAt : Nat) : List Nat :=
  closeAt :: events.map (·.at_) ++ events.map (·.at_ + interval + 10)

/-- How many of the `times` lie after `now`. -/
def remaining (interval : Nat) (events : List (Timed InputEvent)) (closeAt : Nat)
    (now : Option Nat) : Nat :=
  ((times interval events closeAt).toFinset.filter fun s => ∀ t ∈ now, t < s).card

theorem remaining_le (interval : Nat) (events : List (Timed InputEvent)) (closeAt : Nat)
    (now : Option Nat) : remaining interval events closeAt now ≤ 2 * events.length + 1 := by
  calc remaining interval events closeAt now
      ≤ (times interval events closeAt).toFinset.card := Finset.card_filter_le _ _
    _ ≤ (times interval events closeAt).length := List.toFinset_card_le _
    _ = 2 * events.length + 1 := by simp [times]; omega

/-- The next instant of a live run is one of the `times`. -/
theorem Live.mem_times (hl : Live interval events closeAt r now)
    (ht : r.nextTime events closeAt none now = some t) : t ∈ times interval events closeAt := by
  obtain ⟨-, hwhere, -⟩ := nextTime_some ht
  rcases hwhere with hev | rfl | ⟨-, hnext⟩
  · simp [times, hev]
  · simp [times]
  · obtain ⟨j, hj⟩ := (Throttle.nextDeadline_gate hl.sound.nodup hl.alive).1 t hnext
    obtain ⟨e, he, rfl⟩ := hl.sound.armed j t hj
    rw [hl.interval_eq]
    exact List.mem_append_right _ (List.mem_map.mpr ⟨e, mem_sentBy he, rfl⟩)

theorem remaining_lt (hafter : ∀ t0 ∈ now, t0 < t) (hmem : t ∈ times interval events closeAt) :
    remaining interval events closeAt (some t) < remaining interval events closeAt now := by
  apply Finset.card_lt_card
  rw [Finset.ssubset_iff_of_subset]
  · exact ⟨t, Finset.mem_filter.mpr ⟨List.mem_toFinset.mpr hmem, hafter⟩, by simp⟩
  · intro s hs
    obtain ⟨hs, hts⟩ := Finset.mem_filter.mp hs
    refine Finset.mem_filter.mpr ⟨hs, fun t0 ht0 => ?_⟩
    have := hafter t0 ht0
    have := hts t rfl
    omega

/-- **Every state of a run is live**, and a run given more fuel than times remain ends with
nowhere to go. The induction is on the fuel; `remaining` falls at each instant. -/
theorem go_live (hsorted : events.Pairwise fun a b => a.at_ ≤ b.at_) :
    ∀ (fuel : Nat) (r : ThrottleRun) (now : Option Nat), Live interval events closeAt r now →
      ∃ now', Live interval events closeAt (go events closeAt none fuel r now) now' ∧
        (remaining interval events closeAt now < fuel →
          (go events closeAt none fuel r now).nextTime events closeAt none now' = none) := by
  intro fuel
  induction fuel with
  | zero => exact fun r now hl => ⟨now, hl, fun h => absurd h (Nat.not_lt_zero _)⟩
  | succ fuel ih =>
    intro r now hl
    cases ht : r.nextTime events closeAt none now with
    | none =>
      have hgo : go events closeAt none (fuel + 1) r now = r := by simp [go, ht]
      rw [hgo]
      exact ⟨now, hl, fun _ => ht⟩
    | some t =>
      have hgo : go events closeAt none (fuel + 1) r now =
          go events closeAt none fuel (r.tick events closeAt none t) (some t) := by simp [go, ht]
      have hfall := remaining_lt (nextTime_some ht).1 (hl.mem_times ht)
      obtain ⟨now', hl', hend⟩ := ih _ _ (hl.tick hsorted ht)
      rw [hgo]
      exact ⟨now', hl', fun hlt => hend (by omega)⟩

/-! ## Where each emission comes from -/

/-- An instant keeps the origin laws: the due gates let through no value their axis emitted last,
and what passes as the events are read was sent at the instant, by the close. -/
theorem Live.tick_origins (hl : Live interval events closeAt r now)
    (ht : r.nextTime events closeAt none now = some t) {T : List (Timed InputEvent × Origin)}
    (hT : T.map (·.1) = r.delivered) (h : OriginLaws (events.filter (·.at_ ≤ closeAt)) T) :
    OriginLaws (events.filter (·.at_ ≤ closeAt)) (T ++ tickTagged events closeAt none r t) := by
  cases hr : r.running with
  | false =>
    obtain ⟨t0, rfl, hct0⟩ := hl.closed_of_stopped hr
    have ht0 : t0 < t := (nextTime_some ht).1 t0 rfl
    have hfired : r.fired none t = r := by simp [fired, hr]
    rw [tickTagged, hfired, tick_of_stopped hr (by omega), taggedSince_self, taggedSince_self]
    simpa using h
  | true =>
    have htc : t ≤ closeAt := (nextTime_some ht).2.2.2.1 (hl.running_iff.mp hr)
    have hfired : r.fired none t = r.fireAll t := by simp [fired, hr]
    obtain ⟨l, hl', hsub⟩ := tick_delivered events closeAt none r t
    rw [tickTagged, taggedSince_of_append hl', hfired, ← List.append_assoc]
    refine (h.fireAll hT (hl.sound_next ht)).append_immediate fun x hx => ?_
    rw [stamp_arrivals] at hsub
    obtain ⟨hx, hxt⟩ := List.mem_filter.mp (hsub.subset hx)
    exact List.mem_filter.mpr ⟨hx, by simp at hxt; simp [hxt, htc]⟩

/-- **A run from a live state keeps the origin laws** of what it delivers. The induction is on the
fuel, as `go` moves from instant to instant. -/
theorem Live.origin_laws (hsorted : events.Pairwise fun a b => a.at_ ≤ b.at_) :
    ∀ (fuel : Nat) (r : ThrottleRun) (now : Option Nat), Live interval events closeAt r now →
      ∀ T : List (Timed InputEvent × Origin), T.map (·.1) = r.delivered →
        OriginLaws (events.filter (·.at_ ≤ closeAt)) T →
        OriginLaws (events.filter (·.at_ ≤ closeAt)) (T ++ taggedOf events closeAt none fuel r now) := by
  intro fuel
  induction fuel with
  | zero =>
    intro r now _ T _ h
    simpa [taggedOf] using h
  | succ fuel ih =>
    intro r now hl T hT h
    cases ht : r.nextTime events closeAt none now with
    | none => simpa [taggedOf, ht] using h
    | some t =>
      simp only [taggedOf, ht, ← List.append_assoc]
      exact ih _ _ (hl.tick hsorted ht) _ (by rw [List.map_append, hT, tickTagged_erase])
        (hl.tick_origins ht hT h)

/-! ## What the consumer receives -/

theorem readBy_closed (hct : closeAt ≤ t) :
    readBy events closeAt (some t) = events.filter (·.at_ ≤ closeAt) := by
  simp [readBy, sentBy, Nat.min_eq_right hct]

/-- The events read by a state of a run over sorted events are the first ones, as many as it
numbered. -/
theorem Live.take_seq (hsorted : events.Pairwise fun a b => a.at_ ≤ b.at_)
    (hl : Live interval events closeAt r now) : events.take r.seq = readBy events closeAt now := by
  rw [hl.sound.seq_eq]
  exact (List.prefix_iff_eq_take.mp (sentBy_isPrefix hsorted _)).symm

/-- Past the close, a gate is idle when every event arms its deadline no later than the close. -/
theorem Live.idle_of_late (hl : Live interval events closeAt r (some t)) (hct : closeAt ≤ t)
    (hlate : ∀ e ∈ events, e.at_ + interval + 10 ≤ closeAt) (k : InputId) :
    (r.throttle.gate k).deadline = none := by
  cases hd : (r.throttle.gate k).deadline with
  | none => rfl
  | some d =>
    -- an armed deadline lies after the close, yet an event armed it before
    obtain ⟨e, he, rfl⟩ := hl.sound.armed k d hd
    have hafter := hl.later k _ hd t rfl
    have hbefore := hlate e (mem_sentBy he)
    rw [hl.interval_eq, Nat.min_eq_right hct] at hafter
    omega

/-- The fuel `throttleStream` gives is enough: its run ends live, past the close. -/
theorem throttleStream_ends (hsorted : events.Pairwise fun a b => a.at_ ≤ b.at_)
    (interval closeAt : Nat) : ∃ t, closeAt ≤ t ∧ Live interval events closeAt
      (go events closeAt none (3 * events.length + 4) { throttle := { interval } } none) (some t) := by
  obtain ⟨now', hl, hend⟩ :=
    go_live hsorted (3 * events.length + 4) _ none (live_start interval events closeAt)
  have hfuel := remaining_le interval events closeAt none
  obtain ⟨t, rfl, hct⟩ := nextTime_none (hend (by omega))
  exact ⟨t, hct, hl⟩

/-- **The laws of a throttled stream.** For sorted events and a consumer that reads throughout,
what it receives of the events sent up to the close (`raw`): every key, at its instant and in
order; for every axis, emissions more than the interval apart, whose values are a subsequence of
the axis's samples, and where a value repeats the one before it only as a sample passed at its own
instant. Tagged with where each comes from (`throttleTagged`), an emission that passed at once is
a sample at its own instant, and one a gate let through at its deadline never repeats the value of
the axis's emission before it. Nothing comes after the close. In every state of the run, the latest sample read of an axis
is its pending sample or else the last value it let through, which is the last it emitted; so an
idle axis has emitted its latest sample. When every deadline falls by the close, every axis ends
on its latest sample. -/
theorem throttle_laws (interval : Nat) (events : List (Timed InputEvent)) (closeAt : Nat)
    (hsorted : events.Pairwise fun a b => a.at_ ≤ b.at_) :
    let out := (throttleStream interval events closeAt none).1
    let raw := events.filter (·.at_ ≤ closeAt)
    let tagged := throttleTagged interval events closeAt none
    out.filter (·.value.isKey) = raw.filter (·.value.isKey) ∧
    (∀ k, ((out.filter (·.value.onAxis k)).map (·.at_)).IsChain fun a b => a + interval < b) ∧
    (∀ k, ((out.filter (·.value.onAxis k)).map (·.value)).Sublist
      ((raw.filter (·.value.onAxis k)).map (·.value))) ∧
    (∀ k, (out.filter (·.value.onAxis k)).IsChain
      fun d₁ d₂ => valueOf d₁.value = valueOf d₂.value → d₂ ∈ raw) ∧
    tagged.map (·.1) = out ∧
    (∀ x ∈ tagged, x.2 = .immediate → x.1 ∈ raw) ∧
    (∀ k, (tagged.filter (·.1.value.onAxis k)).IsChain
      fun a b => b.2 = .deferred → valueOf a.1.value ≠ valueOf b.1.value) ∧
    (∀ d ∈ out, d.at_ ≤ closeAt) ∧
    (∀ n k,
      let r := go events closeAt none n { throttle := { interval } } none
      let seen := (events.take r.seq).filter (·.value.onAxis k)
      let passed := r.delivered.filter (·.value.onAxis k)
      seen.getLast?.map (valueOf ·.value) =
          ((r.throttle.gate k).pending.map valueOf).or (r.throttle.gate k).lastValue ∧
        (r.throttle.gate k).lastValue = passed.getLast?.map (valueOf ·.value) ∧
        ((r.throttle.gate k).deadline = none →
          seen.getLast?.map (valueOf ·.value) = passed.getLast?.map (valueOf ·.value))) ∧
    ((∀ e ∈ events, e.at_ + interval + 10 ≤ closeAt) → ∀ k,
      (out.filter (·.value.onAxis k)).getLast?.map (valueOf ·.value) =
        (raw.filter (·.value.onAxis k)).getLast?.map (valueOf ·.value)) := by
  intro out raw tagged
  obtain ⟨t, hct, hl⟩ := throttleStream_ends hsorted interval closeAt
  have hs := hl.sound
  rw [readBy_closed hct] at hs
  have ho := Live.origin_laws hsorted (3 * events.length + 4) _ none
    (live_start interval events closeAt) [] rfl (OriginLaws.nil _)
  rw [List.nil_append] at ho
  refine ⟨hs.keys, fun k => ?_, fun k => (hs.axes k).emitted_sublist,
    fun k => (hs.axes k).repeats.imp fun _ _ h hv => List.mem_of_mem_filter (h hv),
    throttleTagged_erase interval events closeAt none, ho.immediate, ho.fresh, hl.closed,
    fun n k => ?_, fun hlate k => ((hs.axes k).settled (hl.idle_of_late hct hlate k)).symm⟩
  · have hspaced := (hs.axes k).spaced
    rwa [hl.interval_eq] at hspaced
  · -- every state of the run, not only the last, is live
    obtain ⟨now', hl', -⟩ := go_live hsorted n _ none (live_start interval events closeAt)
    have ht := hl'.sound.axes k
    dsimp only
    rw [hl'.take_seq hsorted]
    exact ⟨ht.latest, ht.lastValue, ht.settled⟩

/-- A stick moving in small steps around a key press. -/
def jitter : List (Timed InputEvent) :=
  [⟨0, .axis ⟨"pad", 0⟩ 5 none⟩, ⟨3, .axis ⟨"pad", 0⟩ 6 none⟩, ⟨4, .key ⟨"pad", 304⟩ 1⟩,
    ⟨9, .axis ⟨"pad", 0⟩ 7 none⟩]

theorem throttle_laws_jitter :
    jitter.Pairwise (fun a b => a.at_ ≤ b.at_) ∧
    let out := (throttleStream 20 jitter 100 none).1
    let raw := jitter.filter (·.at_ ≤ 100)
    let tagged := throttleTagged 20 jitter 100 none
    out.filter (·.value.isKey) = raw.filter (·.value.isKey) ∧
    (∀ k, ((out.filter (·.value.onAxis k)).map (·.at_)).IsChain fun a b => a + 20 < b) ∧
    (∀ k, ((out.filter (·.value.onAxis k)).map (·.value)).Sublist
      ((raw.filter (·.value.onAxis k)).map (·.value))) ∧
    (∀ k, (out.filter (·.value.onAxis k)).IsChain
      fun d₁ d₂ => valueOf d₁.value = valueOf d₂.value → d₂ ∈ raw) ∧
    tagged.map (·.1) = out ∧
    (∀ x ∈ tagged, x.2 = .immediate → x.1 ∈ raw) ∧
    (∀ k, (tagged.filter (·.1.value.onAxis k)).IsChain
      fun a b => b.2 = .deferred → valueOf a.1.value ≠ valueOf b.1.value) ∧
    (∀ d ∈ out, d.at_ ≤ 100) ∧
    (∀ n k,
      let r := go jitter 100 none n { throttle := { interval := 20 } } none
      let seen := (jitter.take r.seq).filter (·.value.onAxis k)
      let passed := r.delivered.filter (·.value.onAxis k)
      seen.getLast?.map (valueOf ·.value) =
          ((r.throttle.gate k).pending.map valueOf).or (r.throttle.gate k).lastValue ∧
        (r.throttle.gate k).lastValue = passed.getLast?.map (valueOf ·.value) ∧
        ((r.throttle.gate k).deadline = none →
          seen.getLast?.map (valueOf ·.value) = passed.getLast?.map (valueOf ·.value))) ∧
    ((∀ e ∈ jitter, e.at_ + 20 + 10 ≤ 100) → ∀ k,
      (out.filter (·.value.onAxis k)).getLast?.map (valueOf ·.value) =
        (raw.filter (·.value.onAxis k)).getLast?.map (valueOf ·.value)) :=
  ⟨by decide, throttle_laws 20 jitter 100 (by decide)⟩

end ThrottleRun

end KeyMidi
