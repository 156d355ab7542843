import Mathlib
import KeyMidi.Proofs.Input.Throttling
/-!
# Where an emission comes from

A throttle lets a sample through in one of two ways: at once, as the sample is read, or later,
when the gate of its axis fires at its deadline. The run keeps no record of which, so the origins
are carried beside it: `taggedOf` follows `ThrottleRun.go` instant by instant, and tags what the
due gates let through as deferred and what passes as the events of the instant are read as
immediate. Each step only adds to what was delivered, so an instant's emissions are what its state
delivered beyond the one before, and erasing the tags gives what the consumer received
(`throttleTagged_erase`).

With the consumer reading, tagged emissions keep two laws (`OriginLaws`): an immediate emission is
a sample sent at its own instant, and per axis a deferred emission never repeats the value emitted
before it. The second holds because a gate drops a pending sample whose value it let through last,
and in a sound run that value is the axis's last emission (`OriginLaws.fireOne`).
-/

namespace KeyMidi

open AxisGate (valueOf)

/-- Where an emission comes from. -/
inductive Origin where
  /-- A sample that passed as it was read. -/
  | immediate
  /-- A pending sample that the gate of its axis let through at its deadline. -/
  | deferred
  deriving DecidableEq, Repr

namespace ThrottleRun

variable {r r' : ThrottleRun} {now : Nat}

/-! ## Each step adds to what was delivered -/

theorem fireOne_extends (r : ThrottleRun) (now : Nat) (k : InputId) :
    r.delivered <+: (r.fireOne now k).delivered := by
  unfold fireOne
  rw [Throttle.fireGate_eq]
  rcases ((r.throttle.gate k).fire now) with ⟨g, _ | ev⟩
  · exact List.prefix_refl _
  · dsimp only
    unfold deliver
    split <;> simp

theorem foldl_fireOne_extends (now : Nat) (keys : List InputId) (r : ThrottleRun) :
    r.delivered <+: (keys.foldl (fireOne now) r).delivered := by
  induction keys generalizing r with
  | nil => exact List.prefix_refl _
  | cons k rest ih => exact (fireOne_extends r now k).trans (ih _)

theorem fireAll_extends (r : ThrottleRun) (now : Nat) : r.delivered <+: (r.fireAll now).delivered :=
  foldl_fireOne_extends now _ r

/-- Reading an event delivers it, stamped with `now`, or nothing. -/
theorem readOne_delivered (r : ThrottleRun) (now : Nat) (ev : InputEvent) :
    (r.readOne now ev).delivered = r.delivered ∨
      (r.readOne now ev).delivered = r.delivered ++ [⟨now, ev⟩] := by
  cases hr : r.running with
  | false => exact .inl (by simp [readOne, hr])
  | true =>
    cases hc : r.consumed with
    | false =>
      refine .inl ?_
      cases ev with
      | key k v => simp [readOne, hr, hc, Throttle.takeIn_key, deliver]
      | axis k v b =>
        by_cases hp : (r.throttle.gate k).passes r.throttle.interval now <;>
          simp [readOne, hr, hc, Throttle.takeIn_axis, deliver, hp]
    | true =>
      cases ev with
      | key k v => exact .inr (by rw [readOne_key hr hc])
      | axis k v b =>
        rw [readOne_axis hr hc]
        split
        · exact .inr rfl
        · exact .inl rfl

/-- Reading events delivers some of them, in order, stamped with `now`. -/
theorem readAll_delivered (r : ThrottleRun) (now : Nat) (evs : List InputEvent) :
    ∃ l, (r.readAll now evs).delivered = r.delivered ++ l ∧ l.Sublist (evs.map (⟨now, ·⟩)) := by
  induction evs generalizing r with
  | nil => exact ⟨[], by simp [readAll_nil], List.nil_sublist _⟩
  | cons ev evs ih =>
    obtain ⟨l, hl, hsub⟩ := ih (r.readOne now ev)
    rw [readAll_cons, hl]
    rcases readOne_delivered r now ev with h | h
    · exact ⟨l, by rw [h], hsub.cons _⟩
    · exact ⟨⟨now, ev⟩ :: l, by simp [h], hsub.cons_cons _⟩

/-- An instant `t` up to the events it reads: the consumer lets go if it does at `t`, and the due
gates fire while the stream runs. -/
def fired (dropAt : Option Nat) (r : ThrottleRun) (t : Nat) : ThrottleRun :=
  let r := if dropAt == some t then { r with consumed := false } else r
  if r.running then r.fireAll t else r

theorem fired_extends (dropAt : Option Nat) (r : ThrottleRun) (t : Nat) :
    r.delivered <+: (r.fired dropAt t).delivered := by
  unfold fired
  generalize hr₀ : (if dropAt == some t then { r with consumed := false } else r) = r₀
  have hdrop : r₀.delivered = r.delivered := by
    rw [← hr₀]
    split <;> rfl
  dsimp only
  rw [← hdrop]
  split
  · exact fireAll_extends r₀ t
  · exact List.prefix_refl _

/-- An instant is `fired`, then the events sent at it are read, then the stream closes if it is
the closing instant. -/
theorem tick_fired (events : List (Timed InputEvent)) (closeAt : Nat) (dropAt : Option Nat)
    (r : ThrottleRun) (t : Nat) :
    r.tick events closeAt dropAt t =
      let sent := (events.filter (·.at_ == t)).map (·.value)
      let r₁ := r.fired dropAt t
      let r₂ := if r₁.running then { r₁.readAll t sent with accepted := r₁.accepted + sent.length }
        else r₁
      if t == closeAt then { r₂ with running := false } else r₂ := rfl

/-- The rest of an instant delivers some of the events sent at it, in order. -/
theorem tick_delivered (events : List (Timed InputEvent)) (closeAt : Nat) (dropAt : Option Nat)
    (r : ThrottleRun) (t : Nat) :
    ∃ l, (r.tick events closeAt dropAt t).delivered = (r.fired dropAt t).delivered ++ l ∧
      l.Sublist (((events.filter (·.at_ == t)).map (·.value)).map (⟨t, ·⟩)) := by
  obtain ⟨l, hl, hsub⟩ := readAll_delivered (r.fired dropAt t) t
    ((events.filter (·.at_ == t)).map (·.value))
  have hclose : ∀ r₂ : ThrottleRun,
      (if t == closeAt then { r₂ with running := false } else r₂).delivered = r₂.delivered := by
    intro r₂
    split <;> rfl
  rw [tick_fired]
  dsimp only
  rw [hclose]
  split
  · exact ⟨l, hl, hsub⟩
  · exact ⟨[], (List.append_nil _).symm, List.nil_sublist _⟩

/-! ## Emissions tagged with their origin -/

/-- What a stretch of a run, from `r` to `r'`, delivered, all tagged with the origin `o`. -/
def taggedSince (r r' : ThrottleRun) (o : Origin) : List (Timed InputEvent × Origin) :=
  (r'.delivered.drop r.delivered.length).map (·, o)

/-- What instant `t` delivers, each with its origin: what the due gates let through is deferred,
what passes as the events of the instant are read is immediate. -/
def tickTagged (events : List (Timed InputEvent)) (closeAt : Nat) (dropAt : Option Nat)
    (r : ThrottleRun) (t : Nat) : List (Timed InputEvent × Origin) :=
  taggedSince r (r.fired dropAt t) .deferred ++
    taggedSince (r.fired dropAt t) (r.tick events closeAt dropAt t) .immediate

/-- What a run from `r` delivers, each with its origin, instant after instant as `go` moves. -/
def taggedOf (events : List (Timed InputEvent)) (closeAt : Nat) (dropAt : Option Nat) :
    Nat → ThrottleRun → Option Nat → List (Timed InputEvent × Origin)
  | 0, _, _ => []
  | fuel + 1, r, now =>
    match r.nextTime events closeAt dropAt now with
    | none => []
    | some t => tickTagged events closeAt dropAt r t ++
        taggedOf events closeAt dropAt fuel (r.tick events closeAt dropAt t) (some t)

theorem taggedSince_of_append {l : List (Timed InputEvent)} (h : r'.delivered = r.delivered ++ l)
    (o : Origin) : taggedSince r r' o = l.map (·, o) := by
  simp [taggedSince, h]

theorem taggedSince_self (r : ThrottleRun) (o : Origin) : taggedSince r r o = [] := by
  simp [taggedSince]

theorem taggedSince_trans {r₁ r₂ r₃ : ThrottleRun} (h₁ : r₁.delivered <+: r₂.delivered)
    (h₂ : r₂.delivered <+: r₃.delivered) (o : Origin) :
    taggedSince r₁ r₃ o = taggedSince r₁ r₂ o ++ taggedSince r₂ r₃ o := by
  obtain ⟨a, ha⟩ := h₁
  obtain ⟨b, hb⟩ := h₂
  rw [taggedSince_of_append (by rw [← hb, ← ha, List.append_assoc]), taggedSince_of_append ha.symm,
    taggedSince_of_append hb.symm, List.map_append]

theorem taggedSince_erase (h : r.delivered <+: r'.delivered) (o : Origin) :
    r.delivered ++ (taggedSince r r' o).map (·.1) = r'.delivered := by
  obtain ⟨a, ha⟩ := h
  rw [taggedSince_of_append ha.symm, List.map_map]
  simpa [Function.comp_def] using ha

theorem tickTagged_erase (events : List (Timed InputEvent)) (closeAt : Nat) (dropAt : Option Nat)
    (r : ThrottleRun) (t : Nat) :
    r.delivered ++ (tickTagged events closeAt dropAt r t).map (·.1) =
      (r.tick events closeAt dropAt t).delivered := by
  obtain ⟨l, hl, -⟩ := tick_delivered events closeAt dropAt r t
  rw [tickTagged, List.map_append, ← List.append_assoc, taggedSince_erase (fired_extends _ _ _),
    taggedSince_erase ⟨l, hl.symm⟩]

/-- Erasing the origins gives what the run delivered. The induction follows `go`. -/
theorem taggedOf_erase (events : List (Timed InputEvent)) (closeAt : Nat) (dropAt : Option Nat)
    (fuel : Nat) : ∀ (r : ThrottleRun) (now : Option Nat),
      r.delivered ++ (taggedOf events closeAt dropAt fuel r now).map (·.1) =
        (go events closeAt dropAt fuel r now).delivered := by
  induction fuel with
  | zero => intro r now; simp [taggedOf, go]
  | succ fuel ih =>
    intro r now
    cases ht : r.nextTime events closeAt dropAt now with
    | none => simp [taggedOf, go, ht]
    | some t =>
      simp only [taggedOf, go, ht, List.map_append, ← List.append_assoc, tickTagged_erase]
      exact ih _ _

end ThrottleRun

/-- What the consumer of a throttled stream receives, each emission with its origin. -/
def throttleTagged (interval : Nat) (events : List (Timed InputEvent)) (closeAt : Nat)
    (dropAt : Option Nat) : List (Timed InputEvent × Origin) :=
  ThrottleRun.taggedOf events closeAt dropAt (3 * events.length + 4) { throttle := { interval } } none

/-- The tags of a throttled stream are on exactly what the consumer receives. -/
theorem throttleTagged_erase (interval : Nat) (events : List (Timed InputEvent)) (closeAt : Nat)
    (dropAt : Option Nat) :
    (throttleTagged interval events closeAt dropAt).map (·.1) =
      (throttleStream interval events closeAt dropAt).1 := by
  simpa [throttleTagged, throttleStream] using ThrottleRun.taggedOf_erase events closeAt dropAt (3 * events.length + 4)
    { throttle := { interval } } none

/-! ## The laws of origins -/

/-- Tagged emissions against the samples sent, `raw`: an immediate emission is one of the samples,
at its own instant, and per axis a deferred emission differs in value from the emission before it. -/
structure OriginLaws (raw : List (Timed InputEvent)) (T : List (Timed InputEvent × Origin)) :
    Prop where
  immediate : ∀ x ∈ T, x.2 = .immediate → x.1 ∈ raw
  fresh : ∀ k, (T.filter (·.1.value.onAxis k)).IsChain
    fun a b => b.2 = .deferred → valueOf a.1.value ≠ valueOf b.1.value

namespace OriginLaws

variable {raw read : List (Timed InputEvent)} {T : List (Timed InputEvent × Origin)}
  {r : ThrottleRun} {now : Nat}

theorem nil (raw : List (Timed InputEvent)) : OriginLaws raw [] where
  immediate _ hx := nomatch hx
  fresh _ := List.IsChain.nil

/-- Immediate emissions of samples sent keep the laws: the law of deferred emissions says nothing
of them. -/
theorem append_immediate (h : OriginLaws raw T) {l : List (Timed InputEvent)}
    (hl : ∀ x ∈ l, x ∈ raw) : OriginLaws raw (T ++ l.map (·, .immediate)) := by
  have himm : ∀ k, ∀ b ∈ (l.map (·, Origin.immediate)).filter (·.1.value.onAxis k),
      b.2 = .immediate := by
    intro k b hb
    obtain ⟨x, -, rfl⟩ := List.mem_map.mp (List.mem_of_mem_filter hb)
    rfl
  refine ⟨fun x hx hi => ?_, fun k => ?_⟩
  · rcases List.mem_append.mp hx with hx | hx
    · exact h.immediate x hx hi
    · obtain ⟨y, hy, rfl⟩ := List.mem_map.mp hx
      exact hl y hy
  · rw [List.filter_append]
    refine (h.fresh k).append ?_ fun a _ b hb hd => ?_
    · refine List.Pairwise.isChain (List.pairwise_of_forall_mem_list fun a _ b hb hd => ?_)
      rw [himm k b hb] at hd
      cases hd
    · rw [himm k b (List.mem_of_mem_head? hb)] at hd
      cases hd

/-- Firing the gate of an axis in a sound run keeps the laws: what the gate lets through is a
sample of its axis whose value differs from the gate's last value, and that is the value of the
axis's last emission. -/
theorem fireOne (h : OriginLaws raw T) (hT : T.map (·.1) = r.delivered) (hs : r.Sound read now)
    (k : InputId) : OriginLaws raw (T ++ ThrottleRun.taggedSince r (r.fireOne now k) .deferred) := by
  rw [ThrottleRun.taggedSince_of_append (by rw [ThrottleRun.fireOne_eq hs.consumed])]
  cases hf : ((r.throttle.gate k).fire now).2 with
  | none => simpa using h
  | some ev =>
    have hk : ev.onAxis k = true := hs.onAxis_of_fire k hf
    have hlast : ∀ y ∈ (T.filter (·.1.value.onAxis k)).getLast?,
        valueOf y.1.value ≠ valueOf ev := by
      intro y hy heq
      have hy' : (T.filter (·.1.value.onAxis k)).getLast? = some y := hy
      have hv := (hs.axes k).lastValue
      simp only [← hT, List.filter_map, List.getLast?_map, Function.comp_def, hy',
        Option.map_some] at hv
      exact AxisGate.lastValue_ne_of_fire hf (hv.trans (by rw [heq]))
    refine ⟨fun x hx hi => ?_, fun j => ?_⟩
    · rcases List.mem_append.mp hx with hx | hx
      · exact h.immediate x hx hi
      · simp only [Option.map_some, Option.toList_some, List.map_cons, List.map_nil,
          List.mem_singleton] at hx
        rw [hx] at hi
        cases hi
    · rw [List.filter_append]
      by_cases hj : ev.onAxis j = true
      · obtain rfl := InputEvent.eq_of_onAxis hk hj
        simp only [Option.map_some, Option.toList_some, List.map_cons, List.map_nil,
          List.filter_cons, hk, if_true, List.filter_nil]
        exact (h.fresh k).append (List.isChain_singleton _) fun y hy z hz _ => by
          simp only [List.head?_cons, Option.mem_def, Option.some.injEq] at hz
          subst hz
          exact hlast y hy
      · simpa [hj] using h.fresh j

/-- Firing the gates due at `now` in a sound run keeps the laws, with what they let through
tagged deferred. -/
theorem fireAll (h : OriginLaws raw T) (hT : T.map (·.1) = r.delivered) (hs : r.Sound read now) :
    OriginLaws raw (T ++ ThrottleRun.taggedSince r (r.fireAll now) .deferred) := by
  obtain ⟨hnd, harmed⟩ := Throttle.dueAt_spec hs.nodup now
  refine (hs.foldl_fireOne_rec (fun r' => r.delivered <+: r'.delivered ∧
    OriginLaws raw (T ++ ThrottleRun.taggedSince r r' .deferred)) ?_ _ hnd harmed
    ⟨List.prefix_refl _, by simpa [ThrottleRun.taggedSince_self] using h⟩).2
  intro r' k hs' _ ⟨hpre, hlaws⟩
  have hpre' := ThrottleRun.fireOne_extends r' now k
  refine ⟨hpre.trans hpre', ?_⟩
  rw [ThrottleRun.taggedSince_trans hpre hpre', ← List.append_assoc]
  exact hlaws.fireOne (by rw [List.map_append, hT, ThrottleRun.taggedSince_erase hpre]) hs' k

end OriginLaws

end KeyMidi
