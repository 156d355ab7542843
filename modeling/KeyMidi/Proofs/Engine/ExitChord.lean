import Mathlib
import KeyMidi.Proofs.Engine.Collision
import KeyMidi.Proofs.Engine.Silence
/-!
# The exit chord

A key is down after a sequence of events when the last of its presses and releases is a press
(`KeyDown`): repeats and axis events leave it as it was. The engine keeps the keys that are down
(`keysDown_feed`), and checks the exit chord right after each press: so it requests the exit
after a sequence of events exactly when the chord is not empty and, right after some press,
every key of the chord was down (`exitRequested_feed_iff`).

The request is latched: no event takes it back (`exitRequested_process`). The device task
triggers the exit on the events after which the engine requests it and did not before
(`Engine.exitEdges`), so it triggers it once at most (`exitEdges_eq`).

The check only sets the flag: a key event does the same to the notes, the actions and the
output as it does on an engine that has requested the exit already, where the check does nothing
(`latched_keyed`, `process_key_latched`).
-/

namespace KeyMidi

/-- The presses and releases of key `k` among the events, by value and in order; repeats and
axis events are left out. -/
def pressesOf (k : InputId) (evs : List InputEvent) : List Int :=
  evs.filterMap fun
    | .key id v => if id = k ∧ (v = 0 ∨ v = 1) then some v else none
    | .axis .. => none

/-- A key is down after the events when the last of its presses and releases is a press. -/
def KeyDown (evs : List InputEvent) (k : InputId) : Prop := (pressesOf k evs).getLast? = some 1

instance (evs : List InputEvent) (k : InputId) : Decidable (KeyDown evs k) :=
  inferInstanceAs (Decidable (_ = _))

namespace Engine

/-- The number of events on which the device task running the engine triggers the exit: those
after which the engine requests the exit when it did not before. -/
def exitEdges (e : Engine) : List InputEvent → Nat
  | [] => 0
  | ev :: evs =>
    (if !e.exitRequested && (e.process ev).1.exitRequested then 1 else 0) +
      (e.process ev).1.exitEdges evs

/-- The engine once the exit is requested, when the check of the exit chord does nothing. -/
def latched (e : Engine) : Engine := { e with exitRequested := true }

end Engine

/-! ## Keys down -/

theorem pressesOf_append (k : InputId) (evs evs' : List InputEvent) :
    pressesOf k (evs ++ evs') = pressesOf k evs ++ pressesOf k evs' := by
  simp [pressesOf]

/-- A key event of the key itself that is a press or a release decides whether it is down;
any other event leaves it. -/
theorem keyDown_append_key (evs : List InputEvent) (k id : InputId) (v : Int) :
    KeyDown (evs ++ [.key id v]) k ↔ if id = k ∧ (v = 0 ∨ v = 1) then v = 1 else KeyDown evs k := by
  unfold KeyDown
  rw [pressesOf_append]
  by_cases h : id = k ∧ (v = 0 ∨ v = 1)
  · simp [pressesOf, h]
  · simp [pressesOf, h]

theorem keyDown_append_axis (evs : List InputEvent) (k id : InputId) (v : Int)
    (b : Option Analog.Bounds) : KeyDown (evs ++ [.axis id v b]) k ↔ KeyDown evs k := by
  simp [KeyDown, pressesOf]

/-- A press among `evs ++ [ev]` is one among `evs`, or `ev` itself. -/
theorem exists_press_append (chord : List InputId) (evs : List InputEvent) (ev : InputEvent) :
    (∃ pre k post, evs ++ [ev] = pre ++ .key k 1 :: post ∧
        ∀ c ∈ chord, KeyDown (pre ++ [.key k 1]) c) ↔
      (∃ pre k post, evs = pre ++ .key k 1 :: post ∧
          ∀ c ∈ chord, KeyDown (pre ++ [.key k 1]) c) ∨
        ∃ k, ev = .key k 1 ∧ ∀ c ∈ chord, KeyDown (evs ++ [ev]) c := by
  constructor
  · rintro ⟨pre, k, post, h, hc⟩
    rcases List.eq_nil_or_concat post with rfl | ⟨post', b, rfl⟩
    · obtain ⟨rfl, h'⟩ := List.append_inj' h rfl
      obtain ⟨rfl⟩ := List.singleton_inj.mp h'
      exact .inr ⟨k, rfl, hc⟩
    · have h' : evs ++ [ev] = (pre ++ .key k 1 :: post') ++ [b] := by simpa using h
      obtain ⟨rfl, -⟩ := List.append_inj' h' rfl
      exact .inl ⟨pre, k, post', rfl, hc⟩
  · rintro (⟨pre, k, post, rfl, hc⟩ | ⟨k, rfl, hc⟩)
    · exact ⟨pre, k, post ++ [ev], by simp, hc⟩
    · exact ⟨evs, k, [], rfl, hc⟩

namespace Engine

variable {e : Engine}

/-! ## The keys held and the exit flag, step by step -/

/-- The keys held after a key event: a release takes the key out, a press holds it. -/
theorem keyed_heldKeys (key : InputId) (value : Int) : (e.keyed key value).heldKeys =
    if value = 0 then e.heldKeys.erase key
    else if value = 1 then (e.holdKey key).heldKeys else e.heldKeys :=
  keyed_keeps e heldKeys (by simp) (by simp) (by simp) (by simp) key value

/-- The exit flag after a key event: a press checks the chord, nothing else touches the flag. -/
theorem keyed_exitRequested (key : InputId) (value : Int) : (e.keyed key value).exitRequested =
    if value = 0 then e.exitRequested
    else if value = 1 then (e.holdKey key).exitRequested else e.exitRequested :=
  keyed_keeps e exitRequested (by simp) (by simp) (by simp) (by simp) key value

/-- Holding a key requests the exit if it was requested, or if the chord is not empty and every
key of it is held. -/
theorem holdKey_exitRequested (key : InputId) : (e.holdKey key).exitRequested =
    (e.exitRequested || (!e.profile.exitSequence.isEmpty &&
      e.profile.exitSequence.all (e.holdKey key).heldKeys.contains)) := by
  rw [holdKey_heldKeys]
  unfold holdKey
  cases hx : e.exitRequested
  · dsimp only
    split_ifs <;> simp_all
  · simp

end Engine

namespace Engine

variable {e : Engine}

theorem process_key_fst (key : InputId) (value : Int) : (e.process (.key key value)).1 =
    { ({ e with outbox := #[] } : Engine).keyed key value with
      shown := (({ e with outbox := #[] } : Engine).keyed key value).status, outbox := #[] } := by
  rw [process_fst]
  rfl

@[simp] theorem process_key_heldKeys (key : InputId) (value : Int) :
    (e.process (.key key value)).1.heldKeys = (e.keyed key value).heldKeys := by
  simp [process_key_fst, keyed_heldKeys, holdKey_heldKeys]

@[simp] theorem process_key_exitRequested (key : InputId) (value : Int) :
    (e.process (.key key value)).1.exitRequested = (e.keyed key value).exitRequested := by
  simp [process_key_fst, keyed_exitRequested, holdKey_exitRequested, holdKey_heldKeys]

@[simp] theorem process_key_profile (key : InputId) (value : Int) :
    (e.process (.key key value)).1.profile = e.profile := by
  simp only [process_key_fst]
  rw [keyed_keeps _ profile (by simp) (by simp) (by simp) (by simp)]
  split_ifs <;> simp

theorem process_axis_keys (key : InputId) (raw : Int) (bounds : Option Analog.Bounds) :
    (e.process (.axis key raw bounds)).1.profile = e.profile ∧
      (e.process (.axis key raw bounds)).1.heldKeys = e.heldKeys ∧
      (e.process (.axis key raw bounds)).1.exitRequested = e.exitRequested := by
  rw [process_fst]
  simp [handled]

/-- The exit flag after an event: it stays requested, and a press requests it when the chord is
not empty and every key of it is held after the press. -/
theorem process_exitRequested (ev : InputEvent) :
    (e.process ev).1.exitRequested = true ↔ e.exitRequested = true ∨
      ∃ k, ev = .key k 1 ∧ e.profile.exitSequence ≠ [] ∧
        ∀ c ∈ e.profile.exitSequence, c ∈ (e.process ev).1.heldKeys := by
  cases ev with
  | key k v =>
    rw [process_key_exitRequested, process_key_heldKeys, keyed_exitRequested, keyed_heldKeys]
    by_cases h1 : v = 1
    · subst h1
      simp [holdKey_exitRequested]
    · simp [h1]
  | axis k v b =>
    obtain ⟨-, -, hx⟩ := process_axis_keys (e := e) k v b
    simp [hx]

/-- No event takes the request back. -/
theorem exitRequested_process (h : e.exitRequested = true) (ev : InputEvent) :
    (e.process ev).1.exitRequested = true :=
  (process_exitRequested ev).mpr (.inl h)

theorem process_profile (ev : InputEvent) : (e.process ev).1.profile = e.profile := by
  cases ev with
  | key k v => exact process_key_profile k v
  | axis k v b => exact (process_axis_keys k v b).1

theorem feed_profile (evs : List InputEvent) : (e.feed evs).profile = e.profile := by
  induction evs using List.reverseRecOn with
  | nil => rfl
  | append_singleton evs ev ih => rw [feed_append_singleton, process_profile, ih]

theorem exitRequested_feed (h : e.exitRequested = true) (evs : List InputEvent) :
    (e.feed evs).exitRequested = true := by
  induction evs using List.reverseRecOn with
  | nil => exact h
  | append_singleton evs ev ih => rw [feed_append_singleton]; exact exitRequested_process ih ev

/-! ## The keys held are the keys down -/

/-- The keys held are the keys down after the events, each once. -/
structure KeysDown (evs : List InputEvent) (e : Engine) : Prop where
  nodup : e.heldKeys.Nodup
  mem_iff : ∀ k, k ∈ e.heldKeys ↔ KeyDown evs k

theorem keysDown_new (p : Profile) : KeysDown [] (Engine.new p) where
  nodup := List.nodup_nil
  mem_iff k := by simp [Engine.new, KeyDown, pressesOf]

/-- One event keeps the keys held in step with the keys down. -/
theorem KeysDown.process {evs : List InputEvent} (h : KeysDown evs e) (ev : InputEvent) :
    KeysDown (evs ++ [ev]) (e.process ev).1 := by
  cases ev with
  | key k v =>
    have hH := (process_key_heldKeys (e := e) k v).trans (keyed_heldKeys k v)
    by_cases h0 : v = 0
    · subst h0
      rw [if_pos rfl] at hH
      refine ⟨hH ▸ h.nodup.erase k, fun c => ?_⟩
      rw [hH, h.nodup.mem_erase_iff, keyDown_append_key, h.mem_iff]
      by_cases hc : k = c <;> simp [hc, eq_comm]
    by_cases h1 : v = 1
    · subst h1
      rw [if_neg h0, if_pos rfl] at hH
      refine ⟨?_, fun c => ?_⟩
      · rw [hH, holdKey_heldKeys]
        split
        · exact h.nodup
        · rename_i hk
          exact List.nodup_cons.mpr ⟨by simpa using hk, h.nodup⟩
      · rw [hH, mem_holdKey_heldKeys, keyDown_append_key, h.mem_iff]
        by_cases hc : k = c <;> simp [hc, eq_comm]
    · rw [if_neg h0, if_neg h1] at hH
      refine ⟨hH ▸ h.nodup, fun c => ?_⟩
      rw [hH, keyDown_append_key, h.mem_iff]
      simp [h0, h1]
  | axis k v b =>
    obtain ⟨-, hk, -⟩ := process_axis_keys (e := e) k v b
    exact ⟨hk ▸ h.nodup, fun c => by rw [hk, keyDown_append_axis, h.mem_iff]⟩

/-- After any events, the keys a fresh engine holds are the keys down. -/
theorem keysDown_feed (p : Profile) (evs : List InputEvent) :
    KeysDown evs ((Engine.new p).feed evs) := by
  induction evs using List.reverseRecOn with
  | nil => exact keysDown_new p
  | append_singleton evs ev ih => rw [feed_append_singleton]; exact ih.process ev

/-! ## The check only sets the flag -/

@[simp] theorem latched_position : e.latched.position = e.position := rfl
@[simp] theorem latched_profile : e.latched.profile = e.profile := rfl
@[simp] theorem latched_notes : e.latched.notes = e.notes := rfl
@[simp] theorem latched_counts : e.latched.counts = e.counts := rfl
@[simp] theorem latched_axes : e.latched.axes = e.axes := rfl
@[simp] theorem latched_heldKeys : e.latched.heldKeys = e.heldKeys := rfl

theorem latched_push (r : Request) : (e.push r).latched = e.latched.push r := rfl

theorem latched_pushAll (rs : List Request) : (e.pushAll rs).latched = e.latched.pushAll rs := by
  simp only [pushAll_eq]
  rfl

theorem latched_withPosition (f : Position → Position) :
    (e.withPosition f).latched = e.latched.withPosition f := rfl

theorem latched_releasedAll : e.releasedAll.latched = e.latched.releasedAll := by
  simp only [releasedAll, pushAll_eq]
  rfl

theorem latched_act (a : Action) : (e.act a).latched = e.latched.act a := by
  cases a
  case panic => simp only [act, latched_pushAll, latched_releasedAll]
  all_goals rfl

theorem latched_resetTo (par : Parameter) : (e.resetTo par).latched = e.latched.resetTo par := by
  cases par <;> rfl

theorem latched_applied (a : Action) : (e.applied a).latched = e.latched.applied a := by
  unfold applied
  dsimp only [latched_position]
  by_cases hc : e.position.heldActions.contains a
  · simp only [hc, if_true]
  · simp only [hc, Bool.false_eq_true, if_false]
    cases resetFor a (a :: e.position.heldActions).contains with
    | some par => exact latched_resetTo par
    | none =>
      by_cases h1 : ((a :: e.position.heldActions).length != 1) = true
      · simp only [h1, if_true]
        rfl
      · simp only [h1, Bool.false_eq_true, if_false]
        exact latched_act a

theorem latched_takeNotes (keep : Option Nat) :
    (e.takeNotes keep).latched = e.latched.takeNotes keep := by
  simp only [takeNotes, pushAll_eq]
  rfl

theorem latched_pressed (a : Action) : (e.pressed a).latched = e.latched.pressed a := by
  unfold pressed
  have hsame : ((e.latched.applied a).position.mapping != e.latched.position.mapping) =
      ((e.applied a).position.mapping != e.position.mapping) := by
    rw [← latched_applied]
    rfl
  by_cases hm : ((e.applied a).position.mapping != e.position.mapping) = true
  · rw [if_pos hm, if_pos (hsame ▸ hm), ← latched_applied]
    exact latched_takeNotes _
  · rw [if_neg hm, if_neg (hsame ▸ hm), ← latched_applied]

theorem latched_released (a : Action) : (e.released a).latched = e.latched.released a := by
  unfold released
  by_cases hc : e.position.heldActions.contains a = true
  · rw [if_pos hc, if_pos (show e.latched.position.heldActions.contains a = true from hc)]
    cases a <;> rfl
  · rw [if_neg hc, if_neg (show ¬e.latched.position.heldActions.contains a = true from hc)]

/-- A fold of steps that leave the flag alone leaves it alone. -/
theorem latched_foldl {α : Type} (f : Engine → α → Engine)
    (hf : ∀ e a, (f e a).latched = f e.latched a) (l : List α) (e : Engine) :
    (l.foldl f e).latched = l.foldl f e.latched := by
  induction l generalizing e with
  | nil => rfl
  | cons a l ih => simp only [List.foldl_cons, ih, hf]

theorem latched_dropVoice (v : Voice) : (e.dropVoice v).latched = e.latched.dropVoice v := by
  unfold dropVoice
  simp only [← Bool.cond_eq_ite, latched_profile, latched_counts]
  rcases Bool.eq_false_or_eq_true (e.profile.collision.releasePlan (e.counts.count v)) with h | h <;>
    simp only [h, cond_true, cond_false] <;> rfl

theorem latched_releaseKey (key : InputId) :
    (e.releaseKey key).latched = e.latched.releaseKey key := by
  unfold releaseKey
  rw [latched_notes]
  cases e.notes.find? key with
  | none => rfl
  | some vs => exact latched_foldl _ (fun e v => latched_dropVoice v) vs _

theorem latched_strikeVoice (vel : UInt8) (v : Voice) :
    (e.strikeVoice vel v).latched = e.latched.strikeVoice vel v := by
  unfold strikeVoice
  simp only [← Bool.cond_eq_ite, latched_profile, latched_counts]
  rcases Bool.eq_false_or_eq_true (e.profile.collision.pressPlan (e.counts.count v)).noteOffFirst
    with h₁ | h₁ <;>
  rcases Bool.eq_false_or_eq_true (e.profile.collision.pressPlan (e.counts.count v)).noteOn
    with h₂ | h₂ <;>
  simp only [h₁, h₂, cond_true, cond_false] <;> rfl

theorem latched_pressKey (key : InputId) (t : NoteTarget) :
    (e.pressKey key t).latched = e.latched.pressKey key t := by
  unfold pressKey
  rw [← latched_releaseKey]
  simp only [← Bool.cond_eq_ite, latched_position]
  rw [← latched_foldl _ (fun e v => latched_strikeVoice _ v)]
  rcases Bool.eq_false_or_eq_true ((e.releaseKey key).position.pressVoices t).isEmpty with h | h <;>
    simp only [h, cond_true, cond_false] <;> rfl

theorem latched_holdKey (key : InputId) : (e.holdKey key).latched = e.latched.holdKey key := by
  unfold holdKey latched
  dsimp only
  split_ifs <;> simp_all

theorem latched_keyed (key : InputId) (value : Int) :
    (e.keyed key value).latched = e.latched.keyed key value := by
  unfold keyed
  have hl : e.latched.layer? = e.layer? := rfl
  rw [latched_profile, hl]
  split_ifs
  · split
    · exact latched_released _
    · exact latched_releaseKey key
  · split
    · rw [latched_pressed, latched_holdKey]
    · split
      · rw [latched_pressKey, latched_holdKey]
      · exact latched_holdKey key
  · rfl

/-- A key event sends the same requests, and leaves the same engine but for the flag, as it does
on an engine that has requested the exit already. -/
theorem process_key_latched (key : InputId) (value : Int) :
    e.latched.process (.key key value) =
      ((e.process (.key key value)).1.latched, (e.process (.key key value)).2) := by
  have h : ({ e.latched with outbox := #[] } : Engine).keyed key value =
      (({ e with outbox := #[] } : Engine).keyed key value).latched :=
    (latched_keyed (e := ({ e with outbox := #[] } : Engine)) key value).symm
  simp only [process, runStep, request_handle, handled, h]
  rfl

/-! ## The exit is requested when the chord is played -/

/-- A fresh engine requests the exit after a sequence of events exactly when the chord is not
empty and, right after some press, every key of it was down. -/
theorem exitRequested_feed_iff (p : Profile) (evs : List InputEvent) :
    ((Engine.new p).feed evs).exitRequested = true ↔ p.exitSequence ≠ [] ∧
      ∃ pre k post, evs = pre ++ .key k 1 :: post ∧
        ∀ c ∈ p.exitSequence, KeyDown (pre ++ [.key k 1]) c := by
  induction evs using List.reverseRecOn with
  | nil => simp [Engine.new]
  | append_singleton evs ev ih =>
    have hp : ((Engine.new p).feed evs).profile = p := feed_profile evs
    have hk := (keysDown_feed p (evs ++ [ev])).mem_iff
    rw [feed_append_singleton] at hk ⊢
    rw [process_exitRequested, ih, exists_press_append, hp]
    simp only [hk]
    constructor
    · rintro (⟨hne, hpre⟩ | ⟨k, rfl, hne, hc⟩)
      · exact ⟨hne, .inl hpre⟩
      · exact ⟨hne, .inr ⟨k, rfl, hc⟩⟩
    · rintro ⟨hne, hpre | ⟨k, rfl, hc⟩⟩
      · exact .inl ⟨hne, hpre⟩
      · exact .inr ⟨k, rfl, hne, hc⟩

/-! ## The exit is triggered once at most -/

/-- The device task triggers the exit once if the events take the engine from not requesting the
exit to requesting it, and never otherwise. -/
theorem exitEdges_eq (e : Engine) (evs : List InputEvent) :
    e.exitEdges evs = if !e.exitRequested && (e.feed evs).exitRequested then 1 else 0 := by
  induction evs generalizing e with
  | nil => simp [exitEdges]
  | cons ev evs ih =>
    rw [exitEdges, ih, feed_cons]
    -- the request, once made, stays: an edge is on this event or later, never on both
    cases hx : e.exitRequested
    · cases hx' : (e.process ev).1.exitRequested
      · simp
      · simp [exitRequested_feed hx']
    · simp [exitRequested_process hx ev]

/-- **The exit chord.** After any events, the keys a fresh engine holds are the keys down, and it
requests the exit exactly when its chord is not empty and, right after some press, every key of
the chord was down. The device task triggers the exit on that request, once, and never again.
The check only sets the flag: every key event sends the same requests and leaves the same engine,
but for the flag, as on an engine that requested the exit already. -/
theorem exit_on_chord_once (p : Profile) (evs : List InputEvent) :
    (∀ k, k ∈ ((Engine.new p).feed evs).heldKeys ↔ KeyDown evs k) ∧
      (((Engine.new p).feed evs).exitRequested = true ↔ p.exitSequence ≠ [] ∧
        ∃ pre k post, evs = pre ++ .key k 1 :: post ∧
          ∀ c ∈ p.exitSequence, KeyDown (pre ++ [.key k 1]) c) ∧
      (Engine.new p).exitEdges evs = (if ((Engine.new p).feed evs).exitRequested then 1 else 0) ∧
      ∀ (e : Engine) (key : InputId) (value : Int),
        e.latched.process (.key key value) =
          ((e.process (.key key value)).1.latched, (e.process (.key key value)).2) := by
  refine ⟨(keysDown_feed p evs).mem_iff, exitRequested_feed_iff p evs, ?_,
    fun e key value => process_key_latched key value⟩
  exact exitEdges_eq _ evs

end Engine

end KeyMidi
