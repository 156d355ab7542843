import Mathlib
import KeyMidi.Proofs.Engine.Collision
import KeyMidi.Proofs.Engine.Silence
/-!
# The two sides of a controller axis

A two-sided controller axis drives one controller on each side of its rest point; crossing rest,
it sets the controller of the side it leaves back to 0, on the channel of the moment. This module
proves what that gives when nothing moves the channel or the layer: a receiver never has both
controllers away from rest (`Run.bidirectional_cc_rest`). It needs the channel of the crossing to
be the one where the side it leaves was set: when the channel or the layer changes between two
samples, the side left keeps its value.

`ccValue out ch k` is the value a receiver holds for controller `k` on channel `ch` after the
requests `out`; `RestsBut` says that at most the controller of one side, on one channel, is away
from rest. A profile that binds no action moving the channel or the layer keeps both as they
start (`Engine.Steady`), and the axis is then bound as `Profile.Lone` says. Every step but the
axis's own samples keeps its side and only adds requests that rest both controllers
(`Engine.Grows`, `Engine.Sided.played_other`); its own samples set the controller of their side,
first resting the side they leave (`Engine.Sided.turn`, `Engine.Sided.cross`). So every engine of
a run keeps the invariant `Engine.Sided` (`Run.sided`).
-/

namespace KeyMidi

open Std.Do KeyMidi.Analog

/-- An axis role that sends Control Changes to controller `k`. -/
def AxisRole.Drives (r : AxisRole) (k : UInt8) : Prop :=
  match r with
  | .controller c c' twoSided _ => k = c ∨ (twoSided = true ∧ k = c')
  | _ => False

/-- An action that moves neither the channel nor the layer. -/
def Action.Steady (a : Action) : Prop :=
  a.parameter ≠ some .channel ∧ a.parameter ≠ some .mapping

/-- Every action that the profile binds to a key, or that the layer binds to an axis, is steady. -/
def Profile.SteadyActions (p : Profile) (layer : Layer) : Prop :=
  (∀ (k : InputId) a, p.actions.find? k.handler k.code = some a → a.Steady) ∧
    ∀ (k : InputId) b a neg twoSided, layer.axes.find? k.handler k.code = some b →
      b.role = .action a neg twoSided → a.Steady ∧ ∀ a', neg = some a' → a'.Steady

/-- The starting layer `layer` of `p` binds the axis `key` to `b`, a two-sided controller that
drives `cc` and `ccNeg` on channel `ch`; no other axis of the layer drives either, and every
action the profile binds is steady. -/
structure Profile.Lone (p : Profile) (layer : Layer) (key : InputId) (b : AxisBinding)
    (ch cc ccNeg : UInt8) : Prop where
  layer_eq : p.layers[p.defaults.mapping]? = some layer
  binding_eq : layer.axes.find? key.handler key.code = some b
  twoSided : ∃ flip, b.role = .controller cc ccNeg true flip
  channel_eq : (Position.initial p.defaults).channelFor b.channelOffset = ch
  distinct : cc ≠ ccNeg
  alone : ∀ (k : InputId) b', k ≠ key → layer.axes.find? k.handler k.code = some b' →
    ¬b'.role.Drives cc ∧ ¬b'.role.Drives ccNeg
  steady : p.SteadyActions layer

/-- The value a receiver holds for controller `k` on channel `ch` after the requests: the last one
sent to it, 0 before any. -/
def ccValue (out : List Request) (ch k : UInt8) : UInt8 :=
  out.foldl (fun v r => match r with
    | .controlChange c k' x => if c = ch ∧ k' = k then x else v
    | _ => v) 0

/-- A request that sets neither controller `cc` nor `ccNeg` away from rest, on any channel. -/
def Request.Rests (cc ccNeg : UInt8) (r : Request) : Prop :=
  ∀ c k x, r = .controlChange c k x → (k = cc ∨ k = ccNeg) → x = 0

/-- After the requests `out`, a receiver holds at most one controller of the two away from rest:
the controller of `side` on channel `ch`, if there is a side. -/
def RestsBut (out : List Request) (ch cc ccNeg : UInt8) (side : Option Side) : Prop :=
  ∀ c s, ccValue out c (s.controller cc ccNeg) ≠ 0 → c = ch ∧ side = some s

theorem Side.controller_inj {cc ccNeg : UInt8} (hne : cc ≠ ccNeg) {s s' : Side} :
    s.controller cc ccNeg = s'.controller cc ccNeg ↔ s = s' := by
  cases s <;> cases s' <;> simp [controller, hne, Ne.symm hne]

/-! ## The value of a controller -/

theorem ccValue_append_singleton (out : List Request) (r : Request) (ch k : UInt8) :
    ccValue (out ++ [r]) ch k = match r with
      | .controlChange c k' x => if c = ch ∧ k' = k then x else ccValue out ch k
      | _ => ccValue out ch k := by
  simp only [ccValue, List.foldl_append, List.foldl_cons, List.foldl_nil]

/-- The last value sent to a controller is the value it holds. -/
theorem ccValue_append_cc (out : List Request) (ch k x : UInt8) :
    ccValue (out ++ [.controlChange ch k x]) ch k = x := by
  simp [ccValue_append_singleton]

/-- A Control Change to another controller or channel leaves the value. -/
theorem ccValue_append_cc_ne (out : List Request) {c k' x ch k : UInt8} (h : ¬(c = ch ∧ k' = k)) :
    ccValue (out ++ [.controlChange c k' x]) ch k = ccValue out ch k := by
  simp [ccValue_append_singleton, h]

/-- Requests that rest the two controllers leave at rest those that were. -/
theorem ccValue_append_rests {cc ccNeg k : UInt8} (hk : k = cc ∨ k = ccNeg) (out : List Request)
    {rs : List Request} (hrs : ∀ r ∈ rs, r.Rests cc ccNeg) (ch : UInt8)
    (h0 : ccValue out ch k = 0) : ccValue (out ++ rs) ch k = 0 := by
  induction rs using List.reverseRecOn with
  | nil => simpa using h0
  | append_singleton rs r ih =>
    rw [← List.append_assoc, ccValue_append_singleton]
    have ih' := ih fun r' hr' => hrs r' (List.mem_append_left _ hr')
    have hr := hrs r (by simp)
    cases r with
    | controlChange c k' x =>
      dsimp only
      split
      · rename_i hck
        exact hr c k' x rfl (hck.2 ▸ hk)
      · exact ih'
    | _ => exact ih'

theorem Request.rests_noteOff (cc ccNeg : UInt8) (v : Voice) : v.noteOff.Rests cc ccNeg :=
  fun _ _ _ h => nomatch h

theorem Request.rests_noteOn (cc ccNeg c n vel : UInt8) : (Request.noteOn c n vel).Rests cc ccNeg :=
  fun _ _ _ h => nomatch h

theorem Request.rests_pitchBend (cc ccNeg c : UInt8) (x : Float) :
    (Request.pitchBend c x).Rests cc ccNeg :=
  fun _ _ _ h => nomatch h

theorem Request.rests_zero (cc ccNeg c k : UInt8) : (Request.controlChange c k 0).Rests cc ccNeg := by
  intro _ _ _ h _
  cases h
  rfl

/-- A Control Change to a controller other than the two rests them. -/
theorem Request.rests_other {cc ccNeg c k x : UInt8} (hk : k ≠ cc ∧ k ≠ ccNeg) :
    (Request.controlChange c k x).Rests cc ccNeg := by
  intro _ _ _ h hk'
  cases h
  exact absurd hk' (by tauto)

theorem AxisRole.drives_first {r : AxisRole} {c c' : UInt8} {twoSided flip : Bool}
    (hr : r = .controller c c' twoSided flip) : r.Drives c := by
  subst hr
  exact .inl rfl

theorem AxisRole.drives_side {r : AxisRole} {c c' : UInt8} {twoSided flip : Bool}
    (hr : r = .controller c c' twoSided flip) (hts : twoSided = true) (s : Side) :
    r.Drives (s.controller c c') := by
  subst hr hts
  cases s
  · exact .inl rfl
  · exact .inr ⟨rfl, rfl⟩

/-- A Control Change to a controller that a role drives rests the two controllers it does not. -/
theorem Request.rests_of_drives {cc ccNeg : UInt8} {r : AxisRole}
    (hr : ¬r.Drives cc ∧ ¬r.Drives ccNeg) {k : UInt8} (hk : r.Drives k) (c x : UInt8) :
    (Request.controlChange c k x).Rests cc ccNeg :=
  Request.rests_other ⟨fun h => hr.1 (h ▸ hk), fun h => hr.2 (h ▸ hk)⟩

/-- The action an action axis takes in a zone is one of its two, so steady if they are. -/
theorem Action.steady_of_zone {act : Action} {neg : Option Action}
    (h : act.Steady ∧ ∀ a', neg = some a' → a'.Steady) (z : Analog.Zone) {a : Action}
    (hz : z.pick (some act) neg = some a) : a.Steady := by
  cases z with
  | high => exact Option.some_inj.mp hz ▸ h.1
  | low => exact h.2 a hz
  | middle => exact absurd hz (by simp [Analog.Zone.pick])

/-! ## At most one controller away from rest -/

section
variable {out : List Request} {ch cc ccNeg : UInt8}

theorem restsBut_nil (ch cc ccNeg : UInt8) (side : Option Side) : RestsBut [] ch cc ccNeg side :=
  fun _ _ h => absurd rfl h

theorem RestsBut.append_rests {side : Option Side} (h : RestsBut out ch cc ccNeg side)
    {rs : List Request} (hrs : ∀ r ∈ rs, r.Rests cc ccNeg) : RestsBut (out ++ rs) ch cc ccNeg side := by
  intro c s hv
  refine h c s fun h0 => hv ?_
  exact ccValue_append_rests (by cases s <;> simp [Side.controller]) out hrs c h0

/-- Setting the controller of the side the axis is on, or of a first side. -/
theorem RestsBut.set {side : Option Side} (h : RestsBut out ch cc ccNeg side) (hne : cc ≠ ccNeg)
    {s : Side} (hs : side = none ∨ side = some s) (x : UInt8) :
    RestsBut (out ++ [.controlChange ch (s.controller cc ccNeg) x]) ch cc ccNeg (some s) := by
  intro c s' hv
  by_cases hcs : c = ch ∧ s'.controller cc ccNeg = s.controller cc ccNeg
  · exact ⟨hcs.1, congrArg some ((Side.controller_inj hne).mp hcs.2).symm⟩
  · rw [ccValue_append_cc_ne out fun h' => hcs ⟨h'.1.symm, h'.2.symm⟩] at hv
    obtain ⟨hc, hside⟩ := h c s' hv
    rcases hs with hs | hs <;> rw [hs] at hside
    · exact absurd hside (by simp)
    · exact ⟨hc, hside⟩

/-- Setting to rest the controller of the side the axis leaves rests both. -/
theorem RestsBut.cross {prev : Side} (h : RestsBut out ch cc ccNeg (some prev)) :
    RestsBut (out ++ [.controlChange ch (prev.controller cc ccNeg) 0]) ch cc ccNeg none := by
  intro c s hv
  by_cases hcs : c = ch ∧ s.controller cc ccNeg = prev.controller cc ccNeg
  · rw [hcs.1, hcs.2, ccValue_append_cc] at hv
    exact absurd rfl hv
  · rw [ccValue_append_cc_ne out fun h' => hcs ⟨h'.1.symm, h'.2.symm⟩] at hv
    obtain ⟨hc, hside⟩ := h c s hv
    exact absurd ⟨hc, by rw [Option.some_inj.mp hside]⟩ hcs

/-- At most one of the two controllers is away from rest, on every channel. -/
theorem RestsBut.one_rests {side : Option Side} (h : RestsBut out ch cc ccNeg side) (c : UInt8) :
    ccValue out c cc = 0 ∨ ccValue out c ccNeg = 0 := by
  refine or_iff_not_imp_left.mpr fun hpos => ?_
  by_contra hneg
  -- each controller away from rest would be the one of the side the axis is on
  have h₁ := (h c .positive hpos).2
  have h₂ := (h c .negative hneg).2
  exact Side.noConfusion (Option.some_inj.mp (h₁.symm.trans h₂))

end

namespace Engine

/-- The side a two-sided axis is last on, if it has moved to one. -/
def sideOf (e : Engine) (key : InputId) : Option Side := (e.axisMemory? key).bind (·.side)

/-- The outbox of `e'` is that of `e` followed by requests that rest both controllers. -/
def Grows (cc ccNeg : UInt8) (e e' : Engine) : Prop :=
  ∃ rs, e'.outbox.toList = e.outbox.toList ++ rs ∧ ∀ r ∈ rs, r.Rests cc ccNeg

/-- An engine of `p` whose channel and layer are still those it started with, whose axes all
remember that layer, and which holds only steady actions. -/
structure Steady (p : Profile) (e : Engine) : Prop where
  profile_eq : e.profile = p
  channel_eq : e.position.channel = p.defaults.channel % 16
  mapping_eq : e.position.mapping = p.defaults.mapping
  layers_eq : ∀ x ∈ e.axes, x.2.layer = p.defaults.mapping
  held_steady : ∀ a ∈ e.position.heldActions, a.Steady

/-- A steady engine whose history and outbox leave away from rest at most the controller of the
side the axis of `key` is on, on channel `ch`. -/
structure Sided (p : Profile) (key : InputId) (ch cc ccNeg : UInt8) (h : List Request)
    (e : Engine) : Prop extends e.Steady p where
  rests : RestsBut (h ++ e.outbox.toList) ch cc ccNeg (e.sideOf key)

variable {e e' e'' : Engine} {p : Profile} {cc ccNeg : UInt8}

/-! ## The side of an axis -/

theorem sideOf_of_axes (h : e'.axes = e.axes) (key : InputId) : e'.sideOf key = e.sideOf key := by
  simp only [sideOf, axisMemory?, h]

@[simp] theorem sideOf_push (r : Request) (key : InputId) : (e.push r).sideOf key = e.sideOf key :=
  rfl

@[simp] theorem sideOf_storeAxis_self (key : InputId) (m : AxisMemory) :
    (e.storeAxis key m).sideOf key = m.side := by
  simp [sideOf]

/-- Storing the memory of another axis leaves the memory of this one. -/
theorem axisMemory?_storeAxis_ne {k key : InputId} (hk : k ≠ key) (m : AxisMemory) :
    (e.storeAxis k m).axisMemory? key = e.axisMemory? key := by
  unfold storeAxis axisMemory?
  split
  · rw [List.find?_map]
    have hp : ((·.1 == key) ∘ fun a : InputId × AxisMemory => if a.1 == k then (k, m) else a) =
        (·.1 == key) := by
      funext a
      by_cases hak : a.1 = k
      · simp [hak]
      · simp [hak]
    rw [hp]
    cases hf : e.axes.find? (·.1 == key) with
    | none => rfl
    | some a =>
      have hak : a.1 = key := by simpa using List.find?_some hf
      simp [hak, Ne.symm hk]
  · rw [List.find?_append]
    simp [hk]

theorem sideOf_storeAxis_ne {k key : InputId} (hk : k ≠ key) (m : AxisMemory) :
    (e.storeAxis k m).sideOf key = e.sideOf key := by
  simp only [sideOf, axisMemory?_storeAxis_ne hk]

/-- Silencing axes keeps their sides. -/
@[simp] theorem sideOf_silenceAxes (keep : Option Nat) (key : InputId) :
    (e.silenceAxes keep).sideOf key = e.sideOf key := by
  simp only [sideOf, axisMemory?, silenceAxes, List.find?_map]
  have hp : ((·.1 == key) ∘ fun a : InputId × AxisMemory =>
      if a.2.sounds keep then (a.1, a.2.silence) else a) = (·.1 == key) := by
    funext a
    simp only [Function.comp_apply]
    split <;> rfl
  rw [hp]
  cases e.axes.find? (·.1 == key) with
  | none => rfl
  | some a =>
    simp only [Option.map_some, Option.bind_some]
    split <;> rfl

/-- The side of a recalled memory is the side the axis is on. -/
theorem recallAxis_side (key : InputId) (layer : Nat) :
    (e.recallAxis key layer).1.side = e.sideOf key := by
  unfold recallAxis sideOf
  split <;> simp_all

@[simp] theorem sideOf_recallAxis (k key : InputId) (layer : Nat) :
    (e.recallAxis k layer).2.sideOf key = e.sideOf key := by
  unfold recallAxis
  split
  · rfl
  · rename_i hnone
    by_cases hk : k = key
    · subst hk
      simp [sideOf, hnone]
    · exact sideOf_storeAxis_ne hk _

@[simp] theorem sideOf_releasedAll (key : InputId) : e.releasedAll.sideOf key = e.sideOf key := by
  rw [sideOf_of_axes (releasedAll_axes e), sideOf_silenceAxes]

@[simp] theorem sideOf_takeNotes (keep : Option Nat) (key : InputId) :
    (e.takeNotes keep).sideOf key = e.sideOf key := by
  rw [sideOf_of_axes (takeNotes_axes e keep), sideOf_silenceAxes]

@[simp] theorem sideOf_applied (a : Action) (key : InputId) :
    (e.applied a).sideOf key = e.sideOf key := by
  rcases e.applied_axes a with h | h <;> rw [sideOf_of_axes h]
  exact sideOf_silenceAxes none key

@[simp] theorem sideOf_pressed (a : Action) (key : InputId) :
    (e.pressed a).sideOf key = e.sideOf key := by
  rcases e.pressed_cases a with ⟨-, h⟩ | ⟨-, h⟩ <;> simp [h]

/-- A key event keeps the side of every axis. -/
theorem sideOf_keyed (k : InputId) (value : Int) (key : InputId) :
    (e.keyed k value).sideOf key = e.sideOf key := by
  rw [keyed_keeps e (·.sideOf key) (fun e a => sideOf_of_axes (released_axes e a) key)
    (fun e k => sideOf_of_axes (releaseKey_axes e k) key) (fun e a => sideOf_pressed a key)
    (fun e k t => sideOf_of_axes (pressKey_axes e k t) key)]
  split_ifs
  · rfl
  · exact sideOf_of_axes (holdKey_axes e k) key
  · rfl

/-! ## Requests that rest the two controllers -/

theorem grows_of_outbox (h : e'.outbox = e.outbox) : e.Grows cc ccNeg e' :=
  ⟨[], by simp [h], by simp⟩

theorem Grows.trans (h₁ : e.Grows cc ccNeg e') (h₂ : e'.Grows cc ccNeg e'') :
    e.Grows cc ccNeg e'' := by
  obtain ⟨rs₁, he₁, hr₁⟩ := h₁
  obtain ⟨rs₂, he₂, hr₂⟩ := h₂
  refine ⟨rs₁ ++ rs₂, by rw [he₂, he₁, List.append_assoc], fun r hr => ?_⟩
  rcases List.mem_append.mp hr with hr | hr
  · exact hr₁ r hr
  · exact hr₂ r hr

theorem grows_pushAll {rs : List Request} (hrs : ∀ r ∈ rs, r.Rests cc ccNeg) :
    e.Grows cc ccNeg (e.pushAll rs) :=
  ⟨rs, pushAll_outbox e rs, hrs⟩

theorem grows_push {r : Request} (hr : r.Rests cc ccNeg) : e.Grows cc ccNeg (e.push r) :=
  ⟨[r], push_outbox e r, by simpa using hr⟩

/-- A fold of steps that each grow the outbox so grows it. -/
theorem grows_foldl {α : Type} (f : Engine → α → Engine) (hf : ∀ (e : Engine) a, e.Grows cc ccNeg (f e a))
    (l : List α) (e : Engine) : e.Grows cc ccNeg (l.foldl f e) := by
  induction l generalizing e with
  | nil => exact grows_of_outbox rfl
  | cons a l ih => exact (hf e a).trans (ih (f e a))

theorem grows_dropVoice (e : Engine) (v : Voice) : e.Grows cc ccNeg (e.dropVoice v) := by
  refine ⟨_, dropVoice_outbox (e := e) v, fun r hr => ?_⟩
  split at hr
  · rw [List.mem_singleton.mp hr]
    exact Request.rests_noteOff cc ccNeg v
  · exact absurd hr (List.not_mem_nil)

theorem grows_strikeVoice (vel : UInt8) (e : Engine) (v : Voice) :
    e.Grows cc ccNeg (e.strikeVoice vel v) := by
  refine ⟨_, strikeVoice_outbox (e := e) vel v, fun r hr => ?_⟩
  rcases List.mem_append.mp hr with hr | hr <;> split at hr
  · rw [List.mem_singleton.mp hr]
    exact Request.rests_noteOff cc ccNeg v
  · exact absurd hr (List.not_mem_nil)
  · rw [List.mem_singleton.mp hr]
    exact Request.rests_noteOn cc ccNeg _ _ _
  · exact absurd hr (List.not_mem_nil)

theorem grows_releaseKey (e : Engine) (key : InputId) : e.Grows cc ccNeg (e.releaseKey key) := by
  unfold releaseKey
  split
  · exact grows_of_outbox rfl
  · exact (grows_of_outbox rfl).trans (grows_foldl _ grows_dropVoice _ _)

theorem grows_pressKey (e : Engine) (key : InputId) (t : NoteTarget) :
    e.Grows cc ccNeg (e.pressKey key t) := by
  have hs : e.Grows cc ccNeg (((e.releaseKey key).position.pressVoices t).foldl
      (strikeVoice (e.releaseKey key).position.velocity) (e.releaseKey key)) :=
    (grows_releaseKey e key).trans (grows_foldl _ (grows_strikeVoice _) _ _)
  unfold pressKey
  dsimp only
  split
  · exact hs
  · exact hs.trans (grows_of_outbox rfl)

theorem grows_takeNotes (e : Engine) (keep : Option Nat) : e.Grows cc ccNeg (e.takeNotes keep) := by
  refine ⟨(e.takenNotes keep).map Voice.noteOff, by simp [takeNotes], fun r hr => ?_⟩
  obtain ⟨v, -, rfl⟩ := List.mem_map.mp hr
  exact Request.rests_noteOff cc ccNeg v

theorem grows_releasedAll (e : Engine) : e.Grows cc ccNeg e.releasedAll := by
  refine ⟨_, by rw [releasedAll_outbox, List.append_assoc], fun r hr => ?_⟩
  rcases List.mem_append.mp hr with hr | hr <;> obtain ⟨v, -, rfl⟩ := List.mem_map.mp hr
  · exact Request.rests_noteOff cc ccNeg v
  · exact Request.rests_noteOff cc ccNeg v

/-- An action acting sends at most the panic: note offs, then All Notes Off. -/
theorem grows_act (e : Engine) (a : Action) : e.Grows cc ccNeg (e.act a) := by
  cases a
  case panic =>
    refine (grows_releasedAll e).trans (grows_pushAll fun r hr => ?_)
    obtain ⟨c, -, rfl⟩ := List.mem_map.mp hr
    exact Request.rests_zero cc ccNeg _ _
  all_goals exact grows_of_outbox rfl

theorem grows_applied (e : Engine) (a : Action) : e.Grows cc ccNeg (e.applied a) := by
  rcases e.applied_cases a with ⟨-, h⟩ | ⟨-, h | ⟨par, h⟩ | h⟩ <;> rw [h]
  · exact grows_of_outbox rfl
  · exact grows_of_outbox rfl
  · exact grows_of_outbox (by simp)
  · exact grows_act _ a

theorem grows_pressed (e : Engine) (a : Action) : e.Grows cc ccNeg (e.pressed a) := by
  rcases e.pressed_cases a with ⟨-, h⟩ | ⟨-, h⟩ <;> rw [h]
  · exact grows_applied e a
  · exact (grows_applied e a).trans (grows_takeNotes _ _)

/-- A key event sends only notes and the panic. -/
theorem grows_keyed (e : Engine) (key : InputId) (value : Int) :
    e.Grows cc ccNeg (e.keyed key value) := by
  unfold keyed
  split_ifs
  · split
    · exact grows_of_outbox (released_outbox _ _)
    · exact (grows_of_outbox rfl).trans (grows_releaseKey _ key)
  · split
    · exact (grows_of_outbox (holdKey_outbox e key)).trans (grows_pressed _ _)
    · split
      · exact (grows_of_outbox (holdKey_outbox e key)).trans (grows_pressKey _ key _)
      · exact grows_of_outbox (holdKey_outbox e key)
  · exact grows_of_outbox rfl

/-! ## A steady channel and layer -/

/-- The pair a press resets has its first half held. -/
theorem resetFor_held {a : Action} {isHeld : Action → Bool} {par : Parameter}
    (h : resetFor a isHeld = some par) : isHeld par.pair.1 = true := by
  unfold resetFor at h
  obtain ⟨_, -, hf⟩ := Option.bind_eq_some_iff.mp h
  have hp := List.find?_some hf
  simp only [Bool.and_eq_true] at hp
  exact hp.1

/-- The memory found for an axis is one of the axes. -/
theorem exists_mem_of_axisMemory? {key : InputId} {m : AxisMemory} (h : e.axisMemory? key = some m) :
    ∃ x ∈ e.axes, x.2 = m := by
  obtain ⟨x, hx, rfl⟩ := Option.map_eq_some_iff.mp h
  exact ⟨x, List.mem_of_find?_eq_some hx, rfl⟩

theorem released_channel (a : Action) : (e.released a).position.channel = e.position.channel := by
  unfold released
  split
  · cases a <;> rfl
  · rfl

namespace Steady

theorem frame (hs : e.Steady p) (hp : e'.profile = e.profile) (hpos : e'.position = e.position)
    (ha : e'.axes = e.axes) : e'.Steady p where
  profile_eq := hp.trans hs.profile_eq
  channel_eq := hpos ▸ hs.channel_eq
  mapping_eq := hpos ▸ hs.mapping_eq
  layers_eq := ha ▸ hs.layers_eq
  held_steady := hpos ▸ hs.held_steady

theorem withPosition (hs : e.Steady p) {f : Position → Position}
    (hc : (f e.position).channel = e.position.channel)
    (hm : (f e.position).mapping = e.position.mapping)
    (hh : ∀ b ∈ (f e.position).heldActions, b.Steady) : (e.withPosition f).Steady p where
  profile_eq := hs.profile_eq
  channel_eq := hc.trans hs.channel_eq
  mapping_eq := hm.trans hs.mapping_eq
  layers_eq := hs.layers_eq
  held_steady := hh

theorem pushAll (hs : e.Steady p) (rs : List Request) : (e.pushAll rs).Steady p :=
  hs.frame (by simp) (by simp) (by simp)

/-- Silencing axes keeps the layers they remember. -/
theorem silenceAxes (hs : e.Steady p) (keep : Option Nat) : (e.silenceAxes keep).Steady p :=
  { hs with
    layers_eq := fun x hx => by
      obtain ⟨y, hy, rfl⟩ := List.mem_map.mp hx
      split
      · exact hs.layers_eq y hy
      · exact hs.layers_eq y hy }

theorem releasedAll (hs : e.Steady p) : e.releasedAll.Steady p :=
  (hs.silenceAxes none).frame (by simp) (by simp) (releasedAll_axes e)

theorem takeNotes (hs : e.Steady p) (keep : Option Nat) : (e.takeNotes keep).Steady p :=
  (hs.silenceAxes keep).pushAll _

theorem storeAxis (hs : e.Steady p) (key : InputId) {m : AxisMemory}
    (hl : m.layer = p.defaults.mapping) : (e.storeAxis key m).Steady p :=
  { hs with
    profile_eq := (storeAxis_profile e key m).trans hs.profile_eq
    channel_eq := (congrArg (·.channel) (storeAxis_position e key m)).trans hs.channel_eq
    mapping_eq := (congrArg (·.mapping) (storeAxis_position e key m)).trans hs.mapping_eq
    held_steady := (storeAxis_position e key m) ▸ hs.held_steady
    layers_eq := fun x hx => by
      rcases mem_storeAxis_axes e hx with rfl | hx
      · exact hl
      · exact hs.layers_eq x hx }

/-- The memory an axis recalls under the active layer belongs to the starting layer. -/
theorem recallAxis_layer (hs : e.Steady p) (key : InputId) :
    (e.recallAxis key e.position.mapping).1.layer = p.defaults.mapping := by
  unfold Engine.recallAxis
  split
  · rename_i m hm
    obtain ⟨x, hx, rfl⟩ := exists_mem_of_axisMemory? hm
    exact hs.layers_eq x hx
  · exact hs.mapping_eq

theorem recallAxis (hs : e.Steady p) (key : InputId) :
    (e.recallAxis key e.position.mapping).2.Steady p := by
  unfold Engine.recallAxis
  split
  · exact hs
  · exact hs.storeAxis key hs.mapping_eq

/-- Every axis already remembers the active layer: settling an axis does nothing. -/
theorem settled_eq (hs : e.Steady p) (key : InputId) : e.settled key = e := by
  unfold settled
  split
  · rfl
  · rename_i m hm
    obtain ⟨x, hx, rfl⟩ := exists_mem_of_axisMemory? hm
    rw [if_pos ((hs.layers_eq x hx).trans hs.mapping_eq.symm)]

theorem holdAction (hs : e.Steady p) {a : Action} (ha : a.Steady) : (e.holdAction a).Steady p :=
  hs.withPosition rfl rfl fun b hb =>
    (List.mem_cons.mp hb).elim (fun h => h ▸ ha) (hs.held_steady b)

/-- A reset of a parameter other than the channel and the layer. -/
theorem resetTo (hs : e.Steady p) {par : Parameter} (hpar : par ≠ .mapping ∧ par ≠ .channel) :
    (e.resetTo par).Steady p := by
  cases par
  case mapping => exact absurd rfl hpar.1
  case channel => exact absurd rfl hpar.2
  all_goals
    dsimp only [Engine.resetTo]
    exact hs.withPosition rfl rfl hs.held_steady

/-- A steady action acting moves neither the channel nor the layer. -/
theorem act (hs : e.Steady p) {a : Action} (ha : a.Steady) : (e.act a).Steady p := by
  cases a
  case panic => exact hs.releasedAll.pushAll _
  case channelUp => exact absurd rfl ha.1
  case channelDown => exact absurd rfl ha.1
  case mappingUp => exact absurd rfl ha.2
  case mappingDown => exact absurd rfl ha.2
  case multinote => exact hs
  all_goals
    dsimp only [Engine.act]
    exact hs.withPosition rfl rfl hs.held_steady

theorem applied (hs : e.Steady p) {a : Action} (ha : a.Steady) : (e.applied a).Steady p := by
  have hh := hs.holdAction ha
  unfold Engine.applied
  split
  · exact hs
  · dsimp only
    split
    · rename_i par hpar
      have hmem : par.pair.1 ∈ a :: e.position.heldActions := by simpa using resetFor_held hpar
      have hst : par.pair.1.Steady :=
        (List.mem_cons.mp hmem).elim (fun h => h ▸ ha) (hs.held_steady _)
      refine hh.resetTo ⟨?_, ?_⟩ <;> rintro rfl <;>
        simp [Parameter.pair, Action.Steady, Action.parameter] at hst
    · split
      · exact hh
      · exact hh.act ha

theorem pressed (hs : e.Steady p) {a : Action} (ha : a.Steady) : (e.pressed a).Steady p := by
  rcases e.pressed_cases a with ⟨-, h⟩ | ⟨-, h⟩ <;> rw [h]
  · exact hs.applied ha
  · exact (hs.applied ha).takeNotes _

theorem released (hs : e.Steady p) (a : Action) : (e.released a).Steady p := by
  rw [released_eq_withPosition]
  refine hs.withPosition (released_channel a) (released_mapping e a) fun b hb => ?_
  rw [released_heldActions] at hb
  exact hs.held_steady b (List.mem_of_mem_erase hb)

theorem layer?_eq (hs : e.Steady p) : e.layer? = p.layers[p.defaults.mapping]? := by
  simp only [Engine.layer?, hs.profile_eq, hs.mapping_eq]

/-- A key event of a profile whose key actions are steady. -/
theorem keyed (hs : e.Steady p)
    (hkeys : ∀ (k : InputId) a, p.actions.find? k.handler k.code = some a → a.Steady)
    (key : InputId) (value : Int) : (e.keyed key value).Steady p := by
  have hhold : (e.holdKey key).Steady p := hs.frame (by simp) (by simp) (by simp)
  have hup : ({ e with heldKeys := e.heldKeys.erase key } : Engine).Steady p := hs.frame rfl rfl rfl
  unfold Engine.keyed
  split_ifs
  · split
    · exact hup.released _
    · exact hup.frame (by simp) (by simp) (by simp)
  · split
    · exact hhold.pressed (hkeys key _ (hs.profile_eq ▸ ‹_›))
    · split
      · exact hhold.frame (by simp) (by simp) (by simp)
      · exact hhold
  · exact hs

end Steady

/-! ## Keeping the invariant -/

/-- With the channel the device started on, the channel of a binding is the one it started with. -/
theorem Steady.channelFor (hs : e.Steady p) (offset : UInt8) :
    e.position.channelFor offset = (Position.initial p.defaults).channelFor offset := by
  simp only [Position.channelFor, hs.channel_eq, Position.initial]

namespace Sided

variable {key : InputId} {ch : UInt8} {h : List Request}

/-- A step that keeps the engine steady and the side of the axis, and adds requests that rest
both controllers, keeps the invariant. -/
theorem grow (hs : e.Sided p key ch cc ccNeg h) (hst : e'.Steady p) (hg : e.Grows cc ccNeg e')
    (hside : e'.sideOf key = e.sideOf key) : e'.Sided p key ch cc ccNeg h := by
  obtain ⟨rs, ho, hrs⟩ := hg
  refine ⟨hst, ?_⟩
  rw [ho, hside, ← List.append_assoc]
  exact hs.rests.append_rests hrs

theorem push (hs : e.Sided p key ch cc ccNeg h) {r : Request} (hr : r.Rests cc ccNeg) :
    (e.push r).Sided p key ch cc ccNeg h :=
  hs.grow (hs.toSteady.frame rfl rfl rfl) (grows_push hr) rfl

/-- Storing a memory under the starting layer, that of another axis or one on the same side. -/
theorem storeAxis (hs : e.Sided p key ch cc ccNeg h) (k : InputId) {m : AxisMemory}
    (hl : m.layer = p.defaults.mapping) (hside : k = key → m.side = e.sideOf key) :
    (e.storeAxis k m).Sided p key ch cc ccNeg h := by
  refine hs.grow (hs.toSteady.storeAxis k hl) (grows_of_outbox (storeAxis_outbox e k m)) ?_
  by_cases hk : k = key
  · subst hk
    rw [sideOf_storeAxis_self, hside rfl]
  · exact sideOf_storeAxis_ne hk m

theorem recallAxis (hs : e.Sided p key ch cc ccNeg h) (k : InputId) :
    (e.recallAxis k e.position.mapping).2.Sided p key ch cc ccNeg h := by
  refine hs.grow (hs.toSteady.recallAxis k) (grows_of_outbox ?_) (sideOf_recallAxis k key _)
  unfold Engine.recallAxis
  split <;> simp

theorem settled (hs : e.Sided p key ch cc ccNeg h) (k : InputId) :
    (e.settled k).Sided p key ch cc ccNeg h := by
  rw [hs.toSteady.settled_eq]
  exact hs

theorem released (hs : e.Sided p key ch cc ccNeg h) (a : Action) :
    (e.released a).Sided p key ch cc ccNeg h :=
  hs.grow (hs.toSteady.released a) (grows_of_outbox (released_outbox e a))
    (sideOf_of_axes (released_axes e a) key)

theorem pressed (hs : e.Sided p key ch cc ccNeg h) {a : Action} (ha : a.Steady) :
    (e.pressed a).Sided p key ch cc ccNeg h :=
  hs.grow (hs.toSteady.pressed ha) (grows_pressed e a) (sideOf_pressed a key)

theorem keyed (hs : e.Sided p key ch cc ccNeg h)
    (hkeys : ∀ (k : InputId) a, p.actions.find? k.handler k.code = some a → a.Steady)
    (k : InputId) (value : Int) : (e.keyed k value).Sided p key ch cc ccNeg h :=
  hs.grow (hs.toSteady.keyed hkeys k value) (grows_keyed e k value) (sideOf_keyed k value key)

theorem releasedAll (hs : e.Sided p key ch cc ccNeg h) :
    e.releasedAll.Sided p key ch cc ccNeg h :=
  hs.grow hs.toSteady.releasedAll (grows_releasedAll e) (sideOf_releasedAll key)

/-- The axis takes a first side, or stays on its side, and sets the controller of that side. -/
theorem turn (hs : e.Sided p key ch cc ccNeg h) (hne : cc ≠ ccNeg) {m : AxisMemory}
    (hl : m.layer = p.defaults.mapping) {s : Side} (hm : m.side = some s)
    (hside : e.sideOf key = none ∨ e.sideOf key = some s) {c : UInt8} (hc : c = ch) (x : UInt8) :
    ((e.storeAxis key m).push (.controlChange c (s.controller cc ccNeg) x)).Sided
      p key ch cc ccNeg h := by
  refine ⟨(hs.toSteady.storeAxis key hl).frame rfl rfl rfl, ?_⟩
  rw [push_outbox, storeAxis_outbox, sideOf_push, sideOf_storeAxis_self, hm, hc,
    ← List.append_assoc]
  exact hs.rests.set hne hside x

/-- The axis crosses rest: the controller of the side it leaves goes back to rest, then the
controller of the side it takes is set. -/
theorem cross (hs : e.Sided p key ch cc ccNeg h) (hne : cc ≠ ccNeg) {m : AxisMemory}
    (hl : m.layer = p.defaults.mapping) {prev s : Side} (hm : m.side = some s)
    (hprev : e.sideOf key = some prev) {c : UInt8} (hc : c = ch) (x : UInt8) :
    (((e.storeAxis key m).push (.controlChange c (prev.controller cc ccNeg) 0)).push
      (.controlChange c (s.controller cc ccNeg) x)).Sided p key ch cc ccNeg h := by
  refine ⟨((hs.toSteady.storeAxis key hl).frame rfl rfl rfl).frame rfl rfl rfl, ?_⟩
  have hr := hs.rests
  rw [hprev] at hr
  rw [push_outbox, push_outbox, storeAxis_outbox, sideOf_push, sideOf_push, sideOf_storeAxis_self,
    hm, hc, ← List.append_assoc, ← List.append_assoc]
  exact hr.cross.set hne (.inl rfl) x

/-- Publishing the status keeps the invariant. -/
theorem withShown (hs : e.Sided p key ch cc ccNeg h) (st : Status) :
    ({ e with shown := st } : Engine).Sided p key ch cc ccNeg h :=
  ⟨hs.toSteady.frame rfl rfl rfl, hs.rests⟩

/-- Taking the requests out of the outbox adds them to the history. -/
theorem clear (hs : e.Sided p key ch cc ccNeg h) :
    ({ e with outbox := #[] } : Engine).Sided p key ch cc ccNeg (h ++ e.outbox.toList) :=
  ⟨hs.toSteady.frame rfl rfl rfl, by simpa [sideOf, axisMemory?] using hs.rests⟩

end Sided

theorem sided_new (p : Profile) (key : InputId) (ch cc ccNeg : UInt8) :
    (Engine.new p).Sided p key ch cc ccNeg [] where
  profile_eq := rfl
  channel_eq := rfl
  mapping_eq := rfl
  layers_eq _ hx := nomatch hx
  held_steady _ ha := nomatch ha
  rests := restsBut_nil ch cc ccNeg _

end Engine

/-! ## An axis sample -/

namespace Engine.Sided

variable {p : Profile} {layer : Layer} {key : InputId} {b : AxisBinding} {ch cc ccNeg : UInt8}
  {h : List Request} {e : Engine}

/-- Crossing rest on another axis rests a controller of that axis. -/
theorem leftSide (hs : e.Sided p key ch cc ccNeg h) (channel c c' : UInt8) (side : Side)
    (prev : Option Side) : (e.leftSide channel c c' side prev).Sided p key ch cc ccNeg h := by
  cases prev with
  | some prev =>
    rw [Engine.leftSide]
    split
    · exact hs.push (Request.rests_zero _ _ _ _)
    · exact hs
  | none => exact hs

theorem silencedOpt (hs : e.Sided p key ch cc ccNeg h) (v : Option Voice) :
    (e.silencedOpt v).Sided p key ch cc ccNeg h := by
  cases v with
  | some v => exact hs.push (Request.rests_noteOff _ _ _)
  | none => exact hs

/-- Another axis strikes a note, with its memory under the starting layer. -/
theorem struckOpt (hs : e.Sided p key ch cc ccNeg h) {k : InputId} (hk : k ≠ key)
    {m : AxisMemory} (hl : m.layer = p.defaults.mapping) (pos : Position) (channel : UInt8)
    (n : Option UInt8) : (e.struckOpt k m pos channel n).Sided p key ch cc ccNeg h := by
  cases n with
  | some n => exact (hs.push (Request.rests_noteOn _ _ _ _ _)).storeAxis k hl fun h => absurd h hk
  | none => exact hs

theorem releasedOpt (hs : e.Sided p key ch cc ccNeg h) (a : Option Action) :
    (e.releasedOpt a).Sided p key ch cc ccNeg h := by
  cases a with
  | some a => exact hs.released a
  | none => exact hs

theorem pressedOpt (hs : e.Sided p key ch cc ccNeg h) {a : Option Action}
    (ha : ∀ a', a = some a' → a'.Steady) : (e.pressedOpt a).Sided p key ch cc ccNeg h := by
  cases a with
  | some a => exact hs.pressed (ha a rfl)
  | none => exact hs

/-- Another axis, under the starting layer, stores its own memories, sends only what rests the
two controllers, and presses only steady actions. -/
theorem played_other (hs : e.Sided p key ch cc ccNeg h) {k : InputId} (hk : k ≠ key)
    {m : AxisMemory} (hl : m.layer = p.defaults.mapping) (pos : Position) (channel : UInt8)
    (signed : Bool) (value centered : Float) {role : AxisRole}
    (halone : ¬role.Drives cc ∧ ¬role.Drives ccNeg)
    (hact : ∀ a neg twoSided, role = .action a neg twoSided →
      a.Steady ∧ ∀ a', neg = some a' → a'.Steady) :
    (e.played k m pos channel signed value centered role).Sided p key ch cc ccNeg h := by
  cases role with
  | controller c c' twoSided flip =>
    cases twoSided with
    | false => exact hs.push (Request.rests_of_drives halone (.inl rfl) _ _)
    | true =>
      dsimp only [Engine.played]
      rw [if_pos rfl]
      refine ((hs.leftSide channel c c' _ m.side).storeAxis k (by exact hl) fun h => absurd h hk).push ?_
      exact Request.rests_of_drives halone (AxisRole.drives_side rfl rfl _) _ _
  | pitchBend flip => exact hs.push (Request.rests_pitchBend _ _ _ _)
  | note n nNeg twoSided =>
    dsimp only [Engine.played]
    generalize Zone.ofLevel (if twoSided then centered else value) twoSided = zone
    split
    · exact hs
    · exact ((hs.storeAxis k (by exact hl) fun h => absurd h hk).silencedOpt m.note).struckOpt hk
        (by exact hl) pos channel _
  | action a aNeg twoSided =>
    dsimp only [Engine.played]
    generalize Zone.ofLevel (if twoSided then centered else value) twoSided = zone
    split
    · exact hs
    · refine ((hs.storeAxis k (by exact hl) fun h => absurd h hk).releasedOpt m.action).pressedOpt ?_
      exact fun a' ha' => Action.steady_of_zone (hact a aNeg twoSided rfl) zone ha'

/-- The axis itself, bound to the two-sided controller: a sample on the side it is on, or a first
side, sets the controller of that side; a sample across rest first rests the side it leaves. -/
theorem played_own (hs : e.Sided p key ch cc ccNeg h) (hne : cc ≠ ccNeg) {m : AxisMemory}
    (hside : e.sideOf key = m.side) (hl : m.layer = p.defaults.mapping) (pos : Position)
    {channel : UInt8} (hc : channel = ch) (signed : Bool) (value centered : Float) (flip : Bool) :
    (e.played key m pos channel signed value centered (.controller cc ccNeg true flip)).Sided
      p key ch cc ccNeg h := by
  dsimp only [Engine.played]
  rw [if_pos rfl]
  generalize (if centered < 0.0 then Side.negative else Side.positive) = side
  cases hprev : m.side with
  | none =>
    exact hs.turn hne (by exact hl) (by rfl) (.inl (hside.trans hprev)) hc _
  | some prev =>
    by_cases hsame : prev = side
    · subst hsame
      rw [Engine.leftSide, if_neg (by simp)]
      exact hs.turn hne (by exact hl) (by rfl) (.inr (hside.trans hprev)) hc _
    · -- crossing rest: the side left goes back to rest first
      rw [Engine.leftSide, if_pos (by simpa using hsame), push_storeAxis]
      exact hs.cross hne (by exact hl) (by rfl) (hside.trans hprev) hc _

/-- A sample under the starting layer: the axis of the claim plays its two-sided controller, any
other axis only what rests the two controllers. -/
theorem sampled (hs : e.Sided p key ch cc ccNeg h) (hp : p.Lone layer key b ch cc ccNeg)
    (k : InputId) (raw : Int) (bounds : Analog.Bounds) :
    (e.sampled k raw bounds).Sided p key ch cc ccNeg h := by
  rcases e.sampled_cases k raw bounds with he | he | ⟨layer', b', value, hl, hb, he⟩ <;> rw [he]
  · exact hs
  · exact hs.recallAxis k
  · have hL : layer' = layer :=
      Option.some_inj.mp (hl.symm.trans (hs.toSteady.layer?_eq.trans hp.layer_eq))
    subst hL
    have hm := hs.toSteady.recallAxis_layer k
    by_cases hk : k = key
    · subst hk
      have hB : b' = b := Option.some_inj.mp (hb.symm.trans hp.binding_eq)
      subst hB
      obtain ⟨flip, hrole⟩ := hp.twoSided
      rw [hrole]
      exact (hs.storeAxis k (by exact hm) fun _ => by exact recallAxis_side k _).played_own hp.distinct
        (sideOf_storeAxis_self k _) (by exact hm) _ ((hs.toSteady.channelFor _).trans hp.channel_eq)
        _ _ _ _
    · exact (hs.storeAxis k (by exact hm) fun h => absurd h hk).played_other hk (by exact hm) _ _ _
        _ _
        (hp.alone k b' hk hb) fun a neg twoSided hr => hp.steady.2 k b' a neg twoSided hb hr

theorem moved (hs : e.Sided p key ch cc ccNeg h) (hp : p.Lone layer key b ch cc ccNeg)
    (k : InputId) (raw : Int) (bounds : Option Analog.Bounds) :
    (e.moved k raw bounds).Sided p key ch cc ccNeg h := by
  cases bounds with
  | none => exact hs
  | some bounds => exact (hs.settled k).sampled hp k raw bounds

theorem handled (hs : e.Sided p key ch cc ccNeg h) (hp : p.Lone layer key b ch cc ccNeg)
    (ev : InputEvent) : (e.handled ev).Sided p key ch cc ccNeg h := by
  cases ev with
  | key k value => exact (hs.keyed hp.steady.1 k value).withShown _
  | axis k raw bounds => exact (hs.moved hp k raw bounds).withShown _

end Engine.Sided

/-! ## The steps of the engine -/

namespace EngineM

variable {p : Profile} {layer : Layer} {key : InputId} {b : AxisBinding} {ch cc ccNeg : UInt8}

theorem handle_sided (hp : p.Lone layer key b ch cc ccNeg) (h : List Request) (ev : InputEvent) :
    ⦃fun e => ⌜e.Sided p key ch cc ccNeg h⌝⦄ handle ev ⦃⇓ _ e => ⌜e.Sided p key ch cc ccNeg h⌝⦄ :=
  triple_of_run fun e hs => by
    rw [handle_run]
    exact hs.handled hp ev

theorem releaseAll_sided (h : List Request) {key : InputId} :
    ⦃fun e => ⌜e.Sided p key ch cc ccNeg h⌝⦄ releaseAll ⦃⇓ _ e => ⌜e.Sided p key ch cc ccNeg h⌝⦄ :=
  triple_of_run fun e hs => by
    rw [releaseAll_run]
    exact hs.releasedAll

end EngineM

/-! ## Runs -/

namespace Engine

variable {p : Profile} {layer : Layer} {key : InputId} {b : AxisBinding} {ch cc ccNeg : UInt8}
  {h : List Request} {e : Engine}

/-- A call on an engine between calls runs a step that keeps the invariant, and takes the
requests out again. -/
theorem Sided.request (hs : e.Sided p key ch cc ccNeg h) (he : e.outbox = #[]) {step : EngineM Unit}
    (hstep : ∀ h, ⦃fun e => ⌜e.Sided p key ch cc ccNeg h⌝⦄ step ⦃⇓ _ e => ⌜e.Sided p key ch cc ccNeg h⌝⦄) :
    (e.request step).1.Sided p key ch cc ccNeg (h ++ (e.request step).2) := by
  have hs' : ({ e with outbox := #[] } : Engine).Sided p key ch cc ccNeg h := by
    simpa [he] using hs.clear
  exact (EngineM.post_of_triple (hstep h) hs').clear

/-- **Every engine of a run** keeps the invariant, with the requests made as its history and
nothing left in its outbox. -/
theorem Run.sided (hp : p.Lone layer key b ch cc ccNeg) {out : List Request} (hr : Run p e out) :
    e.Sided p key ch cc ccNeg out ∧ e.outbox = #[] := by
  induction hr with
  | new => exact ⟨sided_new p key ch cc ccNeg, rfl⟩
  | process ev _ ih => exact ⟨ih.1.request ih.2 (EngineM.handle_sided hp · ev), rfl⟩
  | flush _ ih => exact ⟨ih.1.request ih.2 (EngineM.releaseAll_sided ·), rfl⟩

/-- **A two-sided controller axis never holds both of its controllers away from rest**, on any
channel, after any run of a profile whose starting layer binds the axis alone to its two distinct
controllers and binds no action that moves the channel or the layer. -/
theorem Run.bidirectional_cc_rest {p : Profile} {layer : Layer} {key : InputId} {b : AxisBinding}
    {cc ccNeg : UInt8} {flip : Bool} (hl : p.layers[p.defaults.mapping]? = some layer)
    (hb : layer.axes.find? key.handler key.code = some b)
    (hrole : b.role = .controller cc ccNeg true flip) (hne : cc ≠ ccNeg)
    (halone : ∀ (k : InputId) b', k ≠ key → layer.axes.find? k.handler k.code = some b' →
      ¬b'.role.Drives cc ∧ ¬b'.role.Drives ccNeg)
    (hsteady : p.SteadyActions layer) {e : Engine} {out : List Request} (hr : Run p e out)
    (c : UInt8) : ccValue out c cc = 0 ∨ ccValue out c ccNeg = 0 := by
  obtain ⟨hs, he⟩ := hr.sided ⟨hl, hb, ⟨flip, hrole⟩, rfl, hne, halone, hsteady⟩
  have hrests := hs.rests
  rw [he] at hrests
  simpa using hrests.one_rests c

/-- A two-sided axis pushed to one end, then across rest to the other: it leaves the positive
side for the negative one, resting the controller of the side it leaves, and the two controllers
are never both away from rest. -/
theorem Run.bidirectional_cc_rest_crossing :
    let layer : Layer :=
      { name := "first", axes := ⟨[("pad", [(0, { role := .controller 1 2 true false })])]⟩ }
    let p : Profile := { name := "pad", kind := .gamepad, layers := [layer] }
    let high : InputEvent := .axis ⟨"pad", 0⟩ 255 (some ⟨0, 255⟩)
    let low : InputEvent := .axis ⟨"pad", 0⟩ 0 (some ⟨0, 255⟩)
    let out := (Engine.new p).requests [high, low]
    ((Engine.new p).feed [high]).sideOf ⟨"pad", 0⟩ = some .positive ∧
      ((Engine.new p).feed [high, low]).sideOf ⟨"pad", 0⟩ = some .negative ∧
      (out.map Request.packet)[1]? = some (.controlChange 0 1 0) ∧
      ∀ c, ccValue out c 1 = 0 ∨ ccValue out c 2 = 0 := by
  intro layer p high low out
  have hrun : ((Engine.new p).feed [high]).sideOf ⟨"pad", 0⟩ = some .positive ∧
      ((Engine.new p).feed [high, low]).sideOf ⟨"pad", 0⟩ = some .negative ∧
      (out.map Request.packet)[1]? = some (.controlChange 0 1 0) := by
    decide +kernel
  have hr : Run p ((Engine.new p).feed [high, low]) out := Run.feed_new p [high, low]
  have halone : ∀ (k : InputId) b', k ≠ ⟨"pad", 0⟩ → layer.axes.find? k.handler k.code = some b' →
      ¬b'.role.Drives 1 ∧ ¬b'.role.Drives 2 := by
    intro k b' hk hb'
    obtain ⟨hd, c⟩ := k
    by_cases hh : "pad" = hd
    · by_cases hc : 0 = c
      · exact absurd (by rw [← hh, ← hc]) hk
      · simp [layer, CodeMap.find?, hh, hc] at hb'
    · simp [layer, CodeMap.find?, hh] at hb'
  have hsteady : p.SteadyActions layer := by
    refine ⟨fun k a h => by simp [p, CodeMap.find?, CodeMap.empty] at h,
      fun k b' a neg ts hf hrole => ?_⟩
    by_cases hh : "pad" = k.handler
    · by_cases hc : 0 = k.code
      · simp only [layer, CodeMap.find?, hh, hc] at hf
        simp at hf
        subst hf
        cases hrole
      · simp [layer, CodeMap.find?, hh, hc] at hf
    · simp [layer, CodeMap.find?, hh] at hf
  exact ⟨hrun.1, hrun.2.1, hrun.2.2, fun c =>
    @Run.bidirectional_cc_rest p _ ⟨"pad", 0⟩ _ 1 2 false rfl rfl rfl (by decide) halone hsteady _ _
      hr c⟩

end Engine

end KeyMidi
