import Mathlib
import KeyMidi.Input.Throttle
/-!
# One axis of the throttle

A throttle keeps one gate per axis (`Throttle.gate`, `Throttle.store`), and everything it does to
an axis goes through that gate: a sample passes at once or waits as the pending one
(`AxisGate.sampled`), and the gate fires at its deadline (`AxisGate.fire`).

`AxisGate.Tracks` relates a gate to the samples its axis sent (`raw`) and those it let through,
with the instant each passed (`emitted`):

* two emissions are more than the interval apart (`spaced`): a sample passes at once only more
  than the interval after the last emission, and a pending one waits for a deadline armed at its
  arrival, at least the interval plus 10 ms after the last emission (`armed`);
* what passed, and then the pending sample, is a subsequence of what was sent (`sublist`);
* an emission that repeats the value before it is a sample that passed at its own instant
  (`repeats`): a firing lets nothing through that repeats the last value;
* the latest sample sent is the pending one, or else the last one let through (`latest`).

A sample keeps the relation (`Tracks.sampled`), and so does a firing at the armed deadline
(`Tracks.fire`).
-/

namespace KeyMidi

namespace InputEvent

/-- Whether an event is a key event. -/
def isKey : InputEvent → Bool
  | .key .. => true
  | .axis .. => false

/-- Whether an event is a sample of the axis `k`. -/
def onAxis (k : InputId) : InputEvent → Bool
  | .key .. => false
  | .axis j .. => j == k

@[simp] theorem isKey_key (k : InputId) (v : Int) : (InputEvent.key k v).isKey = true := rfl

@[simp] theorem isKey_axis (k : InputId) (v : Int) (b : Option Analog.Bounds) :
    (InputEvent.axis k v b).isKey = false := rfl

@[simp] theorem onAxis_key (k j : InputId) (v : Int) : (InputEvent.key j v).onAxis k = false := rfl

@[simp] theorem onAxis_axis (k j : InputId) (v : Int) (b : Option Analog.Bounds) :
    (InputEvent.axis j v b).onAxis k = decide (j = k) := rfl

end InputEvent

namespace AxisGate

variable {interval now seq : Nat} {g : AxisGate} {emitted raw : List (Timed InputEvent)}

/-- A sample at `now` passes at once when nothing passed yet, or more than the interval ago. -/
def passes (g : AxisGate) (interval now : Nat) : Bool :=
  match g.lastEmit with
  | none => true
  | some at_ => now - at_ > interval

/-- The gate after a sample at `now`: recorded when it passes, pending otherwise, and armed for
`now + interval + 10`. -/
def sampled (g : AxisGate) (interval now seq : Nat) (ev : InputEvent) : AxisGate :=
  let g' := if g.passes interval now then g.record (valueOf ev) now else { g with pending := some ev }
  if g'.deadline == some (now + interval + 10) then g'
  else { g' with deadline := some (now + interval + 10), armedAt := seq }

@[simp] theorem sampled_key (ev : InputEvent) : (g.sampled interval now seq ev).key = g.key := by
  by_cases hp : g.passes interval now <;> simp [sampled, record, hp] <;> split <;> rfl

theorem sampled_lastEmit (ev : InputEvent) : (g.sampled interval now seq ev).lastEmit =
    if g.passes interval now then some now else g.lastEmit := by
  by_cases hp : g.passes interval now <;> simp [sampled, record, hp] <;> split <;> rfl

theorem sampled_lastValue (ev : InputEvent) : (g.sampled interval now seq ev).lastValue =
    if g.passes interval now then some (valueOf ev) else g.lastValue := by
  by_cases hp : g.passes interval now <;> simp [sampled, record, hp] <;> split <;> rfl

theorem sampled_pending (ev : InputEvent) : (g.sampled interval now seq ev).pending =
    if g.passes interval now then none else some ev := by
  by_cases hp : g.passes interval now <;> simp [sampled, record, hp] <;> split <;> rfl

/-- Every sample arms the gate for its own instant plus the interval plus 10 ms. -/
theorem sampled_deadline (ev : InputEvent) :
    (g.sampled interval now seq ev).deadline = some (now + interval + 10) := by
  unfold sampled
  generalize (if g.passes interval now then g.record (valueOf ev) now
    else { g with pending := some ev }) = g'
  dsimp only
  split
  · exact beq_iff_eq.mp ‹_›
  · rfl

@[simp] theorem sampled_alive (ev : InputEvent) :
    (g.sampled interval now seq ev).alive = g.alive := by
  by_cases hp : g.passes interval now <;> simp [sampled, record, hp] <;> split <;> rfl

/-- A firing with nothing pending only disarms the gate. -/
theorem fire_of_none (h : g.pending = none) : g.fire now = ({ g with deadline := none }, none) := by
  simp [fire, h]

/-- A pending sample that repeats the last value is dropped. -/
theorem fire_of_same {p : InputEvent} (h : g.pending = some p)
    (hv : g.lastValue = some (valueOf p)) :
    g.fire now = ({ g with deadline := none, pending := none }, none) := by
  simp [fire, h, hv]

/-- A pending sample with a new value passes now. -/
theorem fire_of_new {p : InputEvent} (h : g.pending = some p)
    (hv : g.lastValue ≠ some (valueOf p)) :
    g.fire now = (({ g with deadline := none } : AxisGate).record (valueOf p) now, some p) := by
  simp [fire, h, hv]

@[simp] theorem fire_key : (g.fire now).1.key = g.key := by
  cases h : g.pending with
  | none => simp [fire_of_none h]
  | some p =>
    by_cases hv : g.lastValue = some (valueOf p)
    · simp [fire_of_same h hv]
    · simp [fire_of_new h hv, record]

@[simp] theorem fire_alive : (g.fire now).1.alive = g.alive := by
  cases h : g.pending with
  | none => simp [fire_of_none h]
  | some p =>
    by_cases hv : g.lastValue = some (valueOf p)
    · simp [fire_of_same h hv]
    · simp [fire_of_new h hv, record]

/-- A fired gate is disarmed. -/
@[simp] theorem fire_deadline : (g.fire now).1.deadline = none := by
  cases h : g.pending with
  | none => simp [fire_of_none h]
  | some p =>
    by_cases hv : g.lastValue = some (valueOf p)
    · simp [fire_of_same h hv]
    · simp [fire_of_new h hv, record]

/-- What a firing lets through is the pending sample. -/
theorem pending_of_fire {ev : InputEvent} (h : (g.fire now).2 = some ev) : g.pending = some ev := by
  cases hp : g.pending with
  | none => simp [fire_of_none hp] at h
  | some p =>
    by_cases hv : g.lastValue = some (valueOf p)
    · simp [fire_of_same hp hv] at h
    · simp only [fire_of_new hp hv, Option.some.injEq] at h
      rw [h]

/-- A firing never lets through the value the gate last let through. -/
theorem lastValue_ne_of_fire {ev : InputEvent} (h : (g.fire now).2 = some ev) :
    g.lastValue ≠ some (valueOf ev) := by
  intro hv
  rw [fire_of_same (pending_of_fire h) hv] at h
  cases h

/-- The gate of an axis after samples `raw`, of which it let `emitted` through, each with the
instant it passed. -/
structure Tracks (interval : Nat) (g : AxisGate) (emitted raw : List (Timed InputEvent)) : Prop where
  lastEmit : g.lastEmit = emitted.getLast?.map (·.at_)
  lastValue : g.lastValue = emitted.getLast?.map (valueOf ·.value)
  spaced : (emitted.map (·.at_)).IsChain fun a b => a + interval < b
  sublist : (emitted.map (·.value) ++ g.pending.toList).Sublist (raw.map (·.value))
  latest : raw.getLast?.map (valueOf ·.value) = (g.pending.map valueOf).or g.lastValue
  armed : ∀ p ∈ g.pending, ∃ last ∈ raw.getLast?, ∃ le ∈ g.lastEmit,
    g.deadline = some (last.at_ + interval + 10) ∧ le ≤ last.at_
  repeats : emitted.IsChain fun d₁ d₂ => valueOf d₁.value = valueOf d₂.value → d₂ ∈ raw

theorem tracks_fresh (interval : Nat) (k : InputId) : (({ key := k } : AxisGate)).Tracks interval [] [] where
  lastEmit := rfl
  lastValue := rfl
  spaced := List.IsChain.nil
  sublist := List.Sublist.slnil
  latest := rfl
  armed _ h := nomatch h
  repeats := List.IsChain.nil

theorem Tracks.emitted_sublist (h : g.Tracks interval emitted raw) :
    (emitted.map (·.value)).Sublist (raw.map (·.value)) :=
  (List.sublist_append_left _ _).trans h.sublist

/-- An emission at `now` keeps the spacing when `now` is more than the interval after the last. -/
theorem spaced_append (h : (emitted.map (·.at_)).IsChain fun a b => a + interval < b)
    (hnow : ∀ le ∈ emitted.getLast?.map (·.at_), le + interval < now) (ev : InputEvent) :
    ((emitted ++ [(⟨now, ev⟩ : Timed InputEvent)]).map (·.at_)).IsChain
      fun a b => a + interval < b := by
  rw [List.map_append]
  refine h.append (List.IsChain.singleton _) fun a ha b hb => ?_
  rw [List.getLast?_map] at ha
  simp only [List.map_cons, List.map_nil, List.head?_cons, Option.mem_def,
    Option.some.injEq] at hb
  exact hb ▸ hnow a ha

/-- A sample keeps the relation, whether it passes at once or waits. -/
theorem Tracks.sampled (h : g.Tracks interval emitted raw) (hle : ∀ le ∈ g.lastEmit, le ≤ now)
    (seq : Nat) (ev : InputEvent) :
    (g.sampled interval now seq ev).Tracks interval
      (if g.passes interval now then emitted ++ [⟨now, ev⟩] else emitted) (raw ++ [⟨now, ev⟩]) := by
  have hraw : ∀ d ∈ raw, d ∈ raw ++ [⟨now, ev⟩] := fun d hd => List.mem_append_left _ hd
  by_cases hp : g.passes interval now
  · have hspace : ∀ le ∈ emitted.getLast?.map (·.at_), le + interval < now := by
      intro le hl
      rw [← h.lastEmit, Option.mem_def] at hl
      simp only [passes, hl, gt_iff_lt, decide_eq_true_eq] at hp
      omega
    simp only [if_pos hp]
    refine ⟨by simp [sampled_lastEmit, hp], by simp [sampled_lastValue, hp],
      spaced_append h.spaced hspace ev, ?_, by simp [sampled_pending, sampled_lastValue, hp],
      fun p hpend => by simp [sampled_pending, hp] at hpend, ?_⟩
    · simpa [sampled_pending, hp] using h.emitted_sublist.append (List.Sublist.refl [ev])
    · refine (h.repeats.imp fun d₁ d₂ hd heq => hraw _ (hd heq)).append (List.IsChain.singleton _) ?_
      intro _ _ d₂ hd₂ _
      simp only [List.head?_cons, Option.mem_def, Option.some.injEq] at hd₂
      simp [← hd₂]
  · obtain ⟨le, hle'⟩ : ∃ le, g.lastEmit = some le := by
      cases hlast : g.lastEmit with
      | none => simp [passes, hlast] at hp
      | some le => exact ⟨le, rfl⟩
    simp only [if_neg hp]
    refine ⟨by simp [sampled_lastEmit, hp, h.lastEmit], by simp [sampled_lastValue, hp, h.lastValue],
      h.spaced, ?_, by simp [sampled_pending, hp], ?_,
      h.repeats.imp fun d₁ d₂ hd heq => hraw _ (hd heq)⟩
    · simpa [sampled_pending, hp] using h.emitted_sublist.append (List.Sublist.refl [ev])
    · intro p _
      exact ⟨⟨now, ev⟩, by simp, le, by simp [sampled_lastEmit, hp, hle'], sampled_deadline ev,
        hle le hle'⟩

/-- A firing at the armed deadline keeps the relation; what it lets through passes now. -/
theorem Tracks.fire (h : g.Tracks interval emitted raw)
    (hd : g.pending.isSome → g.deadline = some now) :
    (g.fire now).1.Tracks interval (emitted ++ ((g.fire now).2.map (⟨now, ·⟩)).toList) raw := by
  cases hpend : g.pending with
  | none =>
    rw [fire_of_none hpend]
    simp only [Option.map_none, Option.toList_none, List.append_nil]
    exact ⟨h.lastEmit, h.lastValue, h.spaced, by simpa [hpend] using h.sublist,
      by simpa [hpend] using h.latest, fun _ hp => by simp [hpend] at hp, h.repeats⟩
  | some p =>
    have hsub := h.sublist
    have hlatest := h.latest
    rw [hpend] at hsub hlatest
    by_cases hv : g.lastValue = some (valueOf p)
    · rw [fire_of_same hpend hv]
      simp only [Option.map_none, Option.toList_none, List.append_nil]
      refine ⟨h.lastEmit, h.lastValue, h.spaced, ?_, ?_, fun _ hp => by simp at hp, h.repeats⟩
      · simpa using (List.sublist_append_left _ _).trans hsub
      · simpa [hv] using hlatest
    · obtain ⟨last, hlast, le, hle, hdl, hlel⟩ := h.armed p hpend
      have hnow : g.deadline = some now := hd (by simp [hpend])
      have hspace : ∀ x ∈ emitted.getLast?.map (·.at_), x + interval < now := by
        intro x hx
        rw [← h.lastEmit, hle, Option.mem_def, Option.some.injEq] at hx
        rw [hdl, Option.some.injEq] at hnow
        omega
      rw [fire_of_new hpend hv]
      simp only [Option.map_some, Option.toList_some]
      refine ⟨by simp [record], by simp [record], spaced_append h.spaced hspace p,
        by simpa [record] using hsub, by simpa [record] using hlatest,
        fun _ hp => by simp [record] at hp, ?_⟩
      refine h.repeats.append (List.IsChain.singleton _) fun d₁ hd₁ d₂ hd₂ heq => ?_
      simp only [List.head?_cons, Option.mem_def, Option.some.injEq] at hd₂
      subst hd₂
      have hlastv : g.lastValue = some (valueOf d₁.value) := by
        rw [h.lastValue, hd₁]; rfl
      exact absurd (hlastv.trans (congrArg some heq)) hv

end AxisGate

namespace Throttle

variable {th : Throttle} {k : InputId} {g : AxisGate}

theorem gate_key (th : Throttle) (k : InputId) : (th.gate k).key = k := by
  unfold gate
  cases hf : th.gates.find? (·.key == k) with
  | none => rfl
  | some x => simpa using List.find?_some hf

/-- Storing a gate replaces the gate of its axis and keeps the others. -/
theorem gate_store (th : Throttle) (g : AxisGate) (k : InputId) :
    (th.store g).gate k = if k = g.key then g else th.gate k := by
  unfold store gate
  split
  · next hany =>
    have hpred : ((fun x : AxisGate => x.key == k) ∘ fun x => if x.key == g.key then g else x) =
        fun x => if k = g.key then x.key == g.key else x.key == k := by
      funext x
      by_cases hx : x.key = g.key
      · by_cases hk : k = g.key
        · simp [hx, hk]
        · simp [hx, hk]
      · simp only [Function.comp, hx, beq_iff_eq, if_false]
        by_cases hk : k = g.key
        · subst hk; simp
        · simp [hk]
    simp only [List.find?_map, hpred]
    by_cases hk : k = g.key
    · subst hk
      obtain ⟨x, hx⟩ := List.find?_isSome.mpr (List.any_eq_true.mp hany)
        |> Option.isSome_iff_exists.mp
      have hxk : x.key = g.key := by simpa using List.find?_some hx
      simp [hx, hxk]
    · simp only [if_neg hk]
      cases hf : th.gates.find? (·.key == k) with
      | none => rfl
      | some x =>
        have hxk : x.key = k := by simpa using List.find?_some hf
        simp [hxk, hk]
  · next hany =>
    rw [List.find?_append]
    by_cases hk : k = g.key
    · subst hk
      have hnone : th.gates.find? (·.key == g.key) = none := by
        rw [List.find?_eq_none]
        intro x hx hxk
        exact hany (List.any_eq_true.mpr ⟨x, hx, hxk⟩)
      simp [hnone]
    · simp [Ne.symm hk, hk]

@[simp] theorem store_interval (th : Throttle) (g : AxisGate) : (th.store g).interval = th.interval := by
  unfold store; split <;> rfl

/-- Storing keeps one gate per axis. -/
theorem store_nodup (hnd : (th.gates.map (·.key)).Nodup) (g : AxisGate) :
    ((th.store g).gates.map (·.key)).Nodup := by
  unfold store
  split
  · next hany =>
    have hkeys : (th.gates.map fun x => if x.key == g.key then g else x).map (·.key) =
        th.gates.map (·.key) := by
      rw [List.map_map]
      apply List.map_congr_left
      intro x _
      by_cases hx : x.key = g.key <;> simp [hx]
    rw [hkeys]
    exact hnd
  · next hany =>
    rw [List.map_append, List.nodup_append]
    refine ⟨hnd, List.nodup_singleton _, ?_⟩
    intro a ha b hb hab
    simp only [List.map_cons, List.map_nil, List.mem_singleton] at hb
    obtain ⟨x, hx, rfl⟩ := List.mem_map.mp ha
    exact hany (List.any_eq_true.mpr ⟨x, hx, by simp [hab, hb]⟩)

/-- With one gate per axis, a gate of the list is the gate of its axis. -/
theorem gate_of_mem (hnd : (th.gates.map (·.key)).Nodup) {x : AxisGate} (hx : x ∈ th.gates) :
    th.gate x.key = x := by
  unfold gate
  obtain ⟨y, hy⟩ := (List.find?_isSome (p := fun y : AxisGate => y.key == x.key)).mpr
    ⟨x, hx, beq_self_eq_true _⟩ |> Option.isSome_iff_exists.mp
  have hyk : y.key = x.key := by simpa using List.find?_some hy
  have hxy : y = x := List.inj_on_of_nodup_map hnd (List.mem_of_find?_eq_some hy) hx hyk
  simp [hy, hxy]

/-- The gate of an axis is one of the gates, or a fresh one for an axis not seen yet. -/
theorem gate_mem_or_fresh (th : Throttle) (k : InputId) :
    th.gate k ∈ th.gates ∨ th.gate k = { key := k } := by
  unfold gate
  cases hf : th.gates.find? (·.key == k) with
  | none => exact .inr rfl
  | some x => exact .inl (List.mem_of_find?_eq_some hf)

theorem mem_store (th : Throttle) (g : AxisGate) {x : AxisGate} (hx : x ∈ (th.store g).gates) :
    x = g ∨ x ∈ th.gates := by
  unfold store at hx
  split at hx
  · obtain ⟨y, hy, rfl⟩ := List.mem_map.mp hx
    by_cases hyg : y.key = g.key
    · exact .inl (by simp [hyg])
    · exact .inr (by simpa [hyg] using hy)
  · rcases List.mem_append.mp hx with hx | hx
    · exact .inr hx
    · exact .inl (List.mem_singleton.mp hx)

/-- Storing a live gate among live gates keeps every gate live. -/
theorem store_alive (h : ∀ x ∈ th.gates, x.alive = true) (hg : g.alive = true) :
    ∀ x ∈ (th.store g).gates, x.alive = true := by
  intro x hx
  rcases mem_store th g hx with rfl | hx
  · exact hg
  · exact h x hx

theorem gate_alive (h : ∀ x ∈ th.gates, x.alive = true) (k : InputId) : (th.gate k).alive = true := by
  rcases gate_mem_or_fresh th k with hmem | hfresh
  · exact h _ hmem
  · rw [hfresh]

/-- Every live gate armed for `now` is due at `now`. -/
theorem mem_dueAt {x : AxisGate} (hx : x ∈ th.gates) (ha : x.alive = true)
    (hd : x.deadline = some now) : x.key ∈ th.dueAt now := by
  unfold dueAt
  have hperm := List.mergeSort_perm (th.gates.filter fun g => g.alive && g.deadline == some now)
    (fun a b => decide (a.armedAt ≤ b.armedAt))
  exact List.mem_map_of_mem (hperm.mem_iff.mpr (List.mem_filter.mpr ⟨hx, by simp [ha, hd]⟩))

/-- Folding `earlier` takes the least of the deadline found so far and the live deadlines. -/
theorem foldl_earlier (gs : List AxisGate) (acc : Option Nat) :
    gs.foldl earlier acc =
      (acc.toList ++ gs.filterMap fun g => if g.alive then g.deadline else none).min? := by
  induction gs generalizing acc with
  | nil => cases acc <;> simp
  | cons g gs ih =>
    rw [List.foldl_cons, ih]
    cases hal : g.alive <;> cases hd : g.deadline <;> cases acc <;>
      simp [earlier, hal, hd, List.min?_cons]
    -- a live deadline against the one found so far: `min` is associative and commutative
    cases (gs.filterMap fun g => if g.alive = true then g.deadline else none).min? <;> simp <;> omega

/-- The next deadline is the deadline of a live gate, and no live gate is armed earlier. -/
theorem nextDeadline_spec (th : Throttle) :
    (∀ m ∈ th.nextDeadline, ∃ g ∈ th.gates, g.alive = true ∧ g.deadline = some m) ∧
    ∀ g ∈ th.gates, g.alive = true → ∀ d ∈ g.deadline, ∃ m ∈ th.nextDeadline, m ≤ d := by
  rw [nextDeadline, foldl_earlier]
  refine ⟨fun m hm => by simpa using List.min?_mem (Option.mem_def.mp hm), fun g hg ha d hd => ?_⟩
  have hdmem : d ∈ ((none : Option Nat).toList ++
      th.gates.filterMap fun g => if g.alive then g.deadline else none) :=
    List.mem_append_right _ (List.mem_filterMap.mpr ⟨g, hg, by simpa [ha] using hd⟩)
  cases hm : ((none : Option Nat).toList ++
      th.gates.filterMap fun g => if g.alive then g.deadline else none).min? with
  | none =>
    rw [List.min?_eq_none_iff.mp hm] at hdmem
    cases hdmem
  | some m => exact ⟨m, rfl, (List.min?_eq_some_iff.mp hm).2 d hdmem⟩

/-- With one live gate per axis, the next deadline is the deadline of an axis, and no axis is armed
earlier. -/
theorem nextDeadline_gate (hnd : (th.gates.map (·.key)).Nodup)
    (halive : ∀ x ∈ th.gates, x.alive = true) :
    (∀ m ∈ th.nextDeadline, ∃ k, (th.gate k).deadline = some m) ∧
    ∀ k, ∀ d ∈ (th.gate k).deadline, ∃ m ∈ th.nextDeadline, m ≤ d := by
  refine ⟨fun m hm => ?_, fun k d hd => ?_⟩
  · obtain ⟨g, hg, -, hgm⟩ := (nextDeadline_spec th).1 m hm
    exact ⟨g.key, by rw [gate_of_mem hnd hg]; exact hgm⟩
  · rcases gate_mem_or_fresh th k with hmem | hfresh
    · exact (nextDeadline_spec th).2 _ hmem (halive _ hmem) d hd
    · rw [hfresh] at hd
      cases hd

theorem takeIn_key (th : Throttle) (now seq : Nat) (k : InputId) (v : Int) :
    th.takeIn now seq (.key k v) = (th, some (.key k v)) := rfl

/-- A sample goes through the gate of its axis. -/
theorem takeIn_axis (th : Throttle) (now seq : Nat) (k : InputId) (v : Int)
    (b : Option Analog.Bounds) :
    th.takeIn now seq (.axis k v b) =
      (th.store ((th.gate k).sampled th.interval now seq (.axis k v b)),
        if (th.gate k).passes th.interval now then some (.axis k v b) else none) := rfl

theorem fireGate_eq (th : Throttle) (k : InputId) (now : Nat) :
    th.fireGate k now = (th.store ((th.gate k).fire now).1, ((th.gate k).fire now).2) := rfl

/-- The axes due at `now` are each named once, and each is armed for `now`. -/
theorem dueAt_spec (hnd : (th.gates.map (·.key)).Nodup) (now : Nat) :
    (th.dueAt now).Nodup ∧ ∀ k ∈ th.dueAt now, (th.gate k).deadline = some now := by
  unfold dueAt
  have hperm := List.mergeSort_perm (th.gates.filter fun g => g.alive && g.deadline == some now)
    (fun a b => decide (a.armedAt ≤ b.armedAt))
  refine ⟨(hperm.map _).nodup_iff.mpr ((List.filter_sublist.map AxisGate.key).nodup hnd), ?_⟩
  intro k hk
  obtain ⟨x, hx, rfl⟩ := List.mem_map.mp hk
  obtain ⟨hxg, hdue⟩ := List.mem_filter.mp (hperm.mem_iff.mp hx)
  rw [gate_of_mem hnd hxg]
  simp only [Bool.and_eq_true, beq_iff_eq] at hdue
  exact hdue.2

end Throttle

end KeyMidi
