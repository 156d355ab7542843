import Mathlib
import KeyMidi.Proofs.Engine.Collision
import KeyMidi.Proofs.Engine.Silence
/-!
# No stuck action

An action is held while something holds it down: a key that is down and bound to it, or an axis
whose memory holds it (`Engine.Sources`). `Engine.SourcedBut P e` says that every action held has
such a live source, except those of `P`, whose release is under way; it also keeps each action
held once and one memory per axis, so that a release takes an action out for good and a memory
stored replaces the only one of its axis.

Actions enter the held ones only by a press (`Engine.applied`), from a key that is down or an
axis whose memory was just given the action; they lose a source when a key goes up or a memory
is replaced, and each step then releases what that source held (`SourcedBut.released`). So every
step keeps `SourcedBut []` (`SourcedBut.settled`, `SourcedBut.played`, `SourcedBut.keyed`),
and so does every run (`Run.sourced`).

Once no key that is down is bound to an action and no axis holds one, no action is held, and an
action pressed then acts instead of being ignored (`applied_of_none_held`): the main statement
is `Run.no_stuck_action`.
-/

namespace KeyMidi

open Std.Do

namespace Engine

/-- The actions that axes hold. -/
def axisActions (e : Engine) : List Action := e.axes.filterMap (·.2.action)

/-- A live source of an action: a key that is down and bound to it, or an axis that holds it. -/
def Sources (e : Engine) (a : Action) : Prop :=
  (∃ k ∈ e.heldKeys, e.profile.actions.find? k.handler k.code = some a) ∨ a ∈ e.axisActions

/-- Every action held has a live source, except those of `P`, whose release is under way. -/
structure SourcedBut (P : List Action) (e : Engine) : Prop where
  held_nodup : e.position.heldActions.Nodup
  axes_nodup : (e.axes.map (·.1)).Nodup
  sourced : ∀ a ∈ e.position.heldActions, e.Sources a ∨ a ∈ P

variable {P Q : List Action} {e e' : Engine}

/-! ## Actions of axes -/

theorem mem_axisActions {a : Action} : a ∈ e.axisActions ↔ ∃ x ∈ e.axes, x.2.action = some a := by
  simp [axisActions]

@[simp] theorem axisActions_push (r : Request) : (e.push r).axisActions = e.axisActions := rfl

@[simp] theorem axisActions_pushAll (rs : List Request) :
    (e.pushAll rs).axisActions = e.axisActions := by
  simp [axisActions]

/-- Silencing axes keeps the actions they hold. -/
@[simp] theorem axisActions_silenceAxes (keep : Option Nat) :
    (e.silenceAxes keep).axisActions = e.axisActions := by
  simp only [axisActions, silenceAxes, List.filterMap_map]
  congr 1
  funext x
  by_cases hs : x.2.sounds keep <;> simp [hs, AxisMemory.silence]

/-- An action an axis holds after a memory is stored is the new memory's or was held before. -/
theorem mem_axisActions_storeAxis {key : InputId} {m : AxisMemory} {a : Action}
    (ha : a ∈ (e.storeAxis key m).axisActions) : m.action = some a ∨ a ∈ e.axisActions := by
  rw [mem_axisActions] at ha ⊢
  obtain ⟨x, hx, hxa⟩ := ha
  rcases mem_storeAxis_axes _ hx with rfl | hx
  · exact .inl hxa
  · exact .inr ⟨x, hx, hxa⟩

theorem action_mem_axisActions_storeAxis {key : InputId} {m : AxisMemory} {a : Action}
    (ha : m.action = some a) : a ∈ (e.storeAxis key m).axisActions := by
  rw [mem_axisActions]
  unfold storeAxis
  split
  · rename_i hany
    obtain ⟨x, hx, hxk⟩ := List.any_eq_true.mp hany
    exact ⟨(key, m), List.mem_map.mpr ⟨x, hx, by simp [hxk]⟩, ha⟩
  · exact ⟨(key, m), by simp, ha⟩

/-- With one memory per axis, an action another axis holds is still held once a memory is
stored. -/
theorem mem_axisActions_storeAxis_of_mem (hnd : (e.axes.map (·.1)).Nodup) (key : InputId)
    (m : AxisMemory) {a : Action} (ha : a ∈ e.axisActions) :
    (e.axisMemory? key).bind (·.action) = some a ∨ a ∈ (e.storeAxis key m).axisActions := by
  obtain ⟨x, hx, hxa⟩ := mem_axisActions.mp ha
  by_cases hxk : x.1 = key
  · left
    rw [← hxk, axisMemory?_of_mem hnd hx]
    exact hxa
  · right
    rw [mem_axisActions]
    unfold storeAxis
    split
    · exact ⟨x, List.mem_map.mpr ⟨x, hx, by simp [hxk]⟩, hxa⟩
    · exact ⟨x, List.mem_append_left _ hx, hxa⟩

/-- The action of a recalled memory is the action the axis held. -/
theorem recallAxis_action (key : InputId) (layer : Nat) :
    (e.recallAxis key layer).1.action = (e.axisMemory? key).bind (·.action) := by
  unfold recallAxis; split <;> simp_all

/-! ## Keeping the sources -/

/-- A source stays a source while no key goes up, the bindings stay and no axis lets go of an
action. -/
theorem Sources.mono {a : Action} (ha : e.Sources a) (hk : ∀ k ∈ e.heldKeys, k ∈ e'.heldKeys)
    (hp : e'.profile.actions = e.profile.actions) (hx : ∀ b ∈ e.axisActions, b ∈ e'.axisActions) :
    e'.Sources a := by
  rcases ha with ⟨k, hk', hka⟩ | hax
  · exact .inl ⟨k, hk k hk', hp ▸ hka⟩
  · exact .inr (hx a hax)

/-- The invariant looks only at the actions held, the keys down, the bindings and the axes. -/
theorem SourcedBut.frame (hs : e.SourcedBut P) (hheld : e'.position.heldActions = e.position.heldActions)
    (hk : ∀ k ∈ e.heldKeys, k ∈ e'.heldKeys) (hp : e'.profile = e.profile)
    (hx : e'.axisActions = e.axisActions) (hnd : e'.axes.map (·.1) = e.axes.map (·.1)) :
    e'.SourcedBut P where
  held_nodup := hheld ▸ hs.held_nodup
  axes_nodup := hnd ▸ hs.axes_nodup
  sourced a ha := (hs.sourced a (hheld ▸ ha)).imp_left fun hsrc =>
    hsrc.mono hk (by simp [hp]) (by simp [hx])

theorem SourcedBut.mono (hs : e.SourcedBut P) (hPQ : ∀ b ∈ P, b ∈ Q) : e.SourcedBut Q :=
  ⟨hs.held_nodup, hs.axes_nodup, fun a ha => (hs.sourced a ha).imp_right (hPQ a)⟩

theorem SourcedBut.push (hs : e.SourcedBut P) (r : Request) : (e.push r).SourcedBut P :=
  hs.frame rfl (fun _ hk => hk) rfl rfl rfl

@[simp] theorem sourcedBut_push (r : Request) : (e.push r).SourcedBut P ↔ e.SourcedBut P :=
  ⟨fun hs => hs.frame rfl (fun _ hk => hk) rfl rfl rfl, fun hs => hs.push r⟩

theorem SourcedBut.pushAll (hs : e.SourcedBut P) (rs : List Request) : (e.pushAll rs).SourcedBut P :=
  hs.frame (by simp) (by simp) (by simp) (by simp) (by simp)

theorem SourcedBut.silenceAxes (hs : e.SourcedBut P) (keep : Option Nat) :
    (e.silenceAxes keep).SourcedBut P :=
  hs.frame rfl (fun _ hk => hk) rfl (by simp) (axes_keys_silenceAxes keep)

theorem SourcedBut.takeNotes (hs : e.SourcedBut P) (keep : Option Nat) :
    (e.takeNotes keep).SourcedBut P :=
  (hs.silenceAxes keep).pushAll _

/-- A memory stored for an axis: the action of the memory it replaces joins the ones whose
release is under way, unless the new memory holds it too. -/
theorem SourcedBut.storeAxis (hs : e.SourcedBut P) (key : InputId) (m : AxisMemory)
    (hm : ∀ b, (e.axisMemory? key).bind (·.action) = some b → m.action = some b ∨ b ∈ Q)
    (hPQ : ∀ b ∈ P, b ∈ Q) : (e.storeAxis key m).SourcedBut Q where
  held_nodup := by simpa using hs.held_nodup
  axes_nodup := axes_nodup_storeAxis hs.axes_nodup key m
  sourced a ha := by
    rw [storeAxis_position] at ha
    rcases hs.sourced a ha with (⟨k, hk, hka⟩ | hax) | hP
    · exact .inl (.inl ⟨k, by simpa using hk, by simpa using hka⟩)
    · rcases mem_axisActions_storeAxis_of_mem hs.axes_nodup key m hax with hold | hnew
      · rcases hm a hold with hma | hq
        · exact .inl (.inr (action_mem_axisActions_storeAxis hma))
        · exact .inr hq
      · exact .inl (.inr hnew)
    · exact .inr (hPQ a hP)

/-- A memory that holds what the axis held. -/
theorem SourcedBut.storeAxis_keep (hs : e.SourcedBut P) (key : InputId) {m : AxisMemory}
    (hm : m.action = (e.axisMemory? key).bind (·.action)) : (e.storeAxis key m).SourcedBut P :=
  hs.storeAxis key m (fun _ hb => .inl (hm.trans hb)) fun _ hb => hb

theorem SourcedBut.recallAxis (hs : e.SourcedBut P) (key : InputId) (layer : Nat) :
    (e.recallAxis key layer).2.SourcedBut P := by
  unfold Engine.recallAxis
  split
  · exact hs
  · rename_i hm
    exact hs.storeAxis key _ (fun b hb => by simp [hm] at hb) fun _ hb => hb

/-- An action joins the held ones while it has a source. -/
theorem SourcedBut.holdAction (hs : e.SourcedBut P) {a : Action} (hn : a ∉ e.position.heldActions)
    (ha : e.Sources a) : (e.holdAction a).SourcedBut P where
  held_nodup := by simpa using List.nodup_cons.mpr ⟨hn, hs.held_nodup⟩
  axes_nodup := hs.axes_nodup
  sourced b hb := by
    rcases List.mem_cons.mp (by simpa using hb) with rfl | hb
    · exact .inl (ha.mono (by simp) (by simp) (by simp [axisActions]))
    · exact (hs.sourced b hb).imp_left fun hsrc =>
        hsrc.mono (by simp) (by simp) (by simp [axisActions])

theorem Sources.storeAxis {key : InputId} {m : AxisMemory} {a : Action} (hm : m.action = some a) :
    (e.storeAxis key m).Sources a :=
  .inr (action_mem_axisActions_storeAxis hm)

/-- An action pressed while it has a source. -/
theorem SourcedBut.applied (hs : e.SourcedBut P) {a : Action} (ha : e.Sources a) :
    (e.applied a).SourcedBut P := by
  rcases e.applied_cases a with ⟨-, h⟩ | ⟨hn, h | ⟨par, h⟩ | h⟩ <;> rw [h]
  · exact hs
  · exact hs.holdAction hn ha
  · exact (hs.holdAction hn ha).frame (by simp) (by simp) (by simp) (by simp [axisActions])
      (by simp)
  · have hh := hs.holdAction hn ha
    rcases (e.holdAction a).act_axes a with hax | hax
    · exact hh.frame (by simp) (by simp) (by simp) (by simp [axisActions, hax]) (by simp [hax])
    · refine (hh.silenceAxes none).frame (by simp) (by simp) (by simp) ?_ ?_
      · simp only [axisActions] at hax ⊢; rw [hax]
      · rw [hax]

theorem SourcedBut.pressed (hs : e.SourcedBut P) {a : Action} (ha : e.Sources a) :
    (e.pressed a).SourcedBut P := by
  rcases e.pressed_cases a with ⟨-, h⟩ | ⟨-, h⟩ <;> rw [h]
  · exact hs.applied ha
  · exact (hs.applied ha).takeNotes _

/-- A key let go of was a source only of the action it is bound to, whose release is then under
way. -/
theorem SourcedBut.eraseKey (hs : e.SourcedBut P) (key : InputId) :
    ({ e with heldKeys := e.heldKeys.erase key } : Engine).SourcedBut
      ((e.profile.actions.find? key.handler key.code).toList ++ P) where
  held_nodup := hs.held_nodup
  axes_nodup := hs.axes_nodup
  sourced a ha := by
    rcases hs.sourced a ha with (⟨k, hk, hka⟩ | hax) | hP
    · by_cases hkk : k = key
      · subst hkk
        exact .inr (List.mem_append_left _ (by simp [hka]))
      · exact .inl (.inl ⟨k, (List.mem_erase_of_ne hkk).mpr hk, hka⟩)
    · exact .inl (.inr hax)
    · exact .inr (List.mem_append_right _ hP)

/-- A key held is one more source. -/
theorem SourcedBut.holdKey (hs : e.SourcedBut P) (key : InputId) : (e.holdKey key).SourcedBut P :=
  hs.frame (by simp) (fun _ hk => (mem_holdKey_heldKeys _).mpr (.inr hk)) (by simp)
    (by simp [axisActions]) (by simp)

theorem SourcedBut.releaseKey (hs : e.SourcedBut P) (key : InputId) :
    (e.releaseKey key).SourcedBut P :=
  hs.frame (by simp) (by simp) (by simp) (by simp [axisActions]) (by simp)

theorem SourcedBut.pressKey (hs : e.SourcedBut P) (key : InputId) (t : NoteTarget) :
    (e.pressKey key t).SourcedBut P :=
  hs.frame (by simp) (by simp) (by simp) (by simp [axisActions]) (by simp)

/-- Letting go of every note silences the axes and keeps what they hold. -/
theorem SourcedBut.releasedAll (hs : e.SourcedBut P) : e.releasedAll.SourcedBut P := by
  refine (hs.silenceAxes none).frame (by simp) (by simp) (by simp) ?_ ?_
  · simp only [axisActions, releasedAll_axes]
  · rw [releasedAll_axes]

theorem SourcedBut.withOutbox (hs : e.SourcedBut P) (o : Array Request) :
    ({ e with outbox := o } : Engine).SourcedBut P :=
  hs.frame rfl (fun _ hk => hk) rfl rfl rfl

/-- A release ends the release under way of its action. -/
theorem SourcedBut.released {a : Action} (hs : e.SourcedBut (a :: P)) : (e.released a).SourcedBut P where
  held_nodup := by simpa [released_heldActions] using hs.held_nodup.erase a
  axes_nodup := by simpa using hs.axes_nodup
  sourced b hb := by
    rw [released_heldActions, hs.held_nodup.mem_erase_iff] at hb
    rcases hs.sourced b hb.2 with hsrc | hP
    · exact .inl (hsrc.mono (by simp) (by simp) (by simp [axisActions]))
    · exact .inr ((List.mem_cons.mp hP).resolve_left hb.1)

theorem Sources.released {a : Action} (ha : e.Sources a) (b : Action) : (e.released b).Sources a :=
  ha.mono (by simp) (by simp) (by simp [axisActions])

/-- An axis whose memory `m` is replaced lets go of the action `m` held. -/
theorem SourcedBut.storeAxis_releasedOpt (hs : e.SourcedBut []) {key : InputId} {m : AxisMemory}
    (hm : e.axisMemory? key = some m) (m' : AxisMemory) :
    ((e.storeAxis key m').releasedOpt m.action).SourcedBut [] := by
  cases ha : m.action with
  | none => exact hs.storeAxis key m' (fun b hb => by simp [hm, ha] at hb) fun _ hb => hb
  | some a =>
    refine SourcedBut.released (hs.storeAxis key m' (fun b hb => .inr ?_) fun _ hb => nomatch hb)
    rw [hm, Option.bind_some, ha, Option.some_inj] at hb
    exact List.mem_singleton.mpr hb.symm

theorem Sources.releasedOpt {a : Action} (ha : e.Sources a) (b : Option Action) :
    (e.releasedOpt b).Sources a := by
  cases b with
  | some b => exact ha.released b
  | none => exact ha

/-- Settling an axis replaces a memory under another layer by a fresh one, which holds no
action, and releases the action the old one held. -/
theorem SourcedBut.settled (hs : e.SourcedBut P) (key : InputId) : (e.settled key).SourcedBut P := by
  unfold Engine.settled
  split
  · exact hs
  · rename_i m hm
    split
    · exact hs
    · have h₁ : (e.storeAxis key { layer := e.position.mapping }).SourcedBut (m.action.toList ++ P) :=
        hs.storeAxis key _ (fun b hb => .inr (by simp_all)) fun b hb => List.mem_append_right _ hb
      dsimp only
      cases m.note <;> cases ha : m.action <;> dsimp only
      · simpa [ha] using h₁
      · exact SourcedBut.released (by simpa [ha] using h₁)
      · simpa [ha] using h₁
      · exact SourcedBut.released (by simpa [ha] using h₁)

/-- A key let go of releases the action it is bound to; a key held is the source of the action
it presses. -/
theorem SourcedBut.keyed (hs : e.SourcedBut []) (key : InputId) (value : Int) :
    (e.keyed key value).SourcedBut [] := by
  unfold Engine.keyed
  split_ifs
  · have he := hs.eraseKey key
    split
    · rename_i a ha
      exact SourcedBut.released (by simpa [ha] using he)
    · rename_i ha
      exact (by simpa [ha] using he : SourcedBut [] _).releaseKey key
  · have hk := hs.holdKey key
    split
    · rename_i a ha
      exact hk.pressed (.inl ⟨key, (mem_holdKey_heldKeys _).mpr (.inl rfl), by simpa using ha⟩)
    · split
      · exact hk.pressKey key _
      · exact hk
  · exact hs

/-! ## An axis sample -/

theorem SourcedBut.leftSide (hs : e.SourcedBut P) (channel cc ccNeg : UInt8) (side : Side)
    (prev : Option Side) : (e.leftSide channel cc ccNeg side prev).SourcedBut P := by
  cases prev with
  | some prev =>
    rw [Engine.leftSide]
    split
    · exact hs.push _
    · exact hs
  | none => exact hs

theorem SourcedBut.silencedOpt (hs : e.SourcedBut P) (v : Option Voice) :
    (e.silencedOpt v).SourcedBut P := by
  cases v with
  | some v => exact hs.push _
  | none => exact hs

/-- A note struck stores a memory that holds what the axis held. -/
theorem SourcedBut.struckOpt (hs : e.SourcedBut P) {key : InputId} {m : AxisMemory}
    (hm : m.action = (e.axisMemory? key).bind (·.action)) (pos : Position) (channel : UInt8)
    (n : Option UInt8) : (e.struckOpt key m pos channel n).SourcedBut P := by
  cases n with
  | some n => exact (hs.push _).storeAxis_keep key hm
  | none => exact hs

theorem SourcedBut.pressedOpt (hs : e.SourcedBut P) {next : Option Action}
    (hn : ∀ a, next = some a → e.Sources a) : (e.pressedOpt next).SourcedBut P := by
  cases next with
  | some a => exact hs.pressed (hn a rfl)
  | none => exact hs

/-- A sample stores memories that hold the action the axis held, but for an action axis entering
a zone: it lets go of the action it held and presses the one of the zone, which its memory now
holds. -/
theorem SourcedBut.played (hs : e.SourcedBut []) {key : InputId} {m : AxisMemory}
    (hm : e.axisMemory? key = some m) (pos : Position) (channel : UInt8) (signed : Bool)
    (value centered : Float) (role : AxisRole) :
    (e.played key m pos channel signed value centered role).SourcedBut [] := by
  have hold : (e.axisMemory? key).bind (·.action) = m.action := by rw [hm]; rfl
  cases role with
  | controller cc ccNeg twoSided flip =>
    cases twoSided with
    | false => exact hs.push _
    | true =>
      dsimp only [Engine.played]
      rw [if_pos rfl]
      refine ((hs.leftSide channel cc ccNeg _ m.side).storeAxis_keep key ?_).push _
      rw [leftSide_keeps e (·.axisMemory? key) (fun _ _ => rfl), hold]
  | pitchBend flip => exact hs.push _
  | note n nNeg twoSided =>
    dsimp only [Engine.played]
    generalize Analog.Zone.ofLevel (if twoSided then centered else value) twoSided = zone
    split
    · exact hs
    · refine ((hs.storeAxis_keep key ?_).silencedOpt m.note).struckOpt ?_ pos channel _
      · exact hold.symm
      · rw [silencedOpt_keeps _ (·.axisMemory? key) (fun _ _ => rfl), axisMemory?_storeAxis_self]
        rfl
  | action a aNeg twoSided =>
    dsimp only [Engine.played]
    generalize Analog.Zone.ofLevel (if twoSided then centered else value) twoSided = zone
    split
    · exact hs
    · refine (hs.storeAxis_releasedOpt hm _).pressedOpt fun b hb => ?_
      exact (Sources.storeAxis (by exact hb)).releasedOpt m.action

theorem SourcedBut.sampled (hs : e.SourcedBut []) (key : InputId) (raw : Int)
    (bounds : Analog.Bounds) : (e.sampled key raw bounds).SourcedBut [] := by
  rcases e.sampled_cases key raw bounds with h | h | ⟨layer, b, value, -, -, h⟩ <;> rw [h]
  · exact hs
  · exact hs.recallAxis key _
  · exact (hs.storeAxis_keep key (by exact recallAxis_action key _)).played
      (axisMemory?_storeAxis_self key _) _ _ _ _ _ _

theorem SourcedBut.moved (hs : e.SourcedBut []) (key : InputId) (raw : Int)
    (bounds : Option Analog.Bounds) : (e.moved key raw bounds).SourcedBut [] := by
  cases bounds with
  | none => exact hs
  | some bounds => exact (hs.settled key).sampled key raw bounds

/-- An event, then the status published, which the invariant does not read. -/
theorem SourcedBut.handled (hs : e.SourcedBut []) (ev : InputEvent) :
    (e.handled ev).SourcedBut [] := by
  cases ev with
  | key key value => exact (hs.keyed key value).frame rfl (fun _ hk => hk) rfl rfl rfl
  | axis key raw bounds => exact (hs.moved key raw bounds).frame rfl (fun _ hk => hk) rfl rfl rfl

end Engine

namespace EngineM

theorem handle_sourced (ev : InputEvent) :
    ⦃fun e => ⌜e.SourcedBut []⌝⦄ handle ev ⦃⇓ _ e => ⌜e.SourcedBut []⌝⦄ :=
  triple_of_run fun e hs => by
    rw [handle_run]
    exact hs.handled ev

theorem releaseAll_sourced :
    ⦃fun e => ⌜e.SourcedBut []⌝⦄ releaseAll ⦃⇓ _ e => ⌜e.SourcedBut []⌝⦄ :=
  triple_of_run fun e hs => by
    rw [releaseAll_run]
    exact hs.releasedAll

end EngineM

namespace Engine

variable {p : Profile} {e : Engine}

theorem sourced_new (p : Profile) : (Engine.new p).SourcedBut [] where
  held_nodup := List.nodup_nil
  axes_nodup := List.nodup_nil
  sourced _ ha := nomatch ha

/-- A call keeps the invariant when its step does: the outbox plays no part in it. -/
theorem SourcedBut.request (hs : e.SourcedBut []) {step : EngineM Unit}
    (hstep : ⦃fun e => ⌜e.SourcedBut []⌝⦄ step ⦃⇓ _ e => ⌜e.SourcedBut []⌝⦄) :
    (e.request step).1.SourcedBut [] :=
  (EngineM.post_of_triple hstep (hs.withOutbox #[])).withOutbox #[]

/-- Every engine of a run holds only actions with a live source. -/
theorem Run.sourced {out : List Request} (hr : Run p e out) : e.SourcedBut [] := by
  induction hr with
  | new => exact sourced_new p
  | process ev _ ih => exact ih.request (EngineM.handle_sourced ev)
  | flush _ ih => exact ih.request EngineM.releaseAll_sourced

/-- **No stuck action.** In every run, each action held has a live source: a key that is down
and bound to it, or an axis whose memory holds it. So once no key that is down is bound to an
action and no axis holds one, no action is held, and an action pressed is not ignored but acts. -/
theorem Run.no_stuck_action {out : List Request} (hr : Run p e out) :
    (∀ a ∈ e.position.heldActions,
        (∃ k ∈ e.heldKeys, e.profile.actions.find? k.handler k.code = some a) ∨
          ∃ x ∈ e.axes, x.2.action = some a) ∧
      ((∀ k ∈ e.heldKeys, e.profile.actions.find? k.handler k.code = none) →
        (∀ x ∈ e.axes, x.2.action = none) →
        e.position.heldActions = [] ∧
          ∀ a, (EngineM.applyAction a).run e = pure ((), (e.holdAction a).act a)) := by
  have hs := hr.sourced
  refine ⟨fun a ha => ?_, fun hk hx => ?_⟩
  · rcases hs.sourced a ha with hsrc | hnil
    · exact hsrc.imp_right mem_axisActions.mp
    · exact absurd hnil List.not_mem_nil
  · have hnone : e.position.heldActions = [] := by
      refine List.eq_nil_iff_forall_not_mem.mpr fun a ha => ?_
      rcases hs.sourced a ha with (⟨k, hk', hka⟩ | hax) | hnil
      · simp [hk k hk'] at hka
      · obtain ⟨x, hx', hxa⟩ := mem_axisActions.mp hax
        simp [hx x hx'] at hxa
      · exact List.not_mem_nil hnil
    exact ⟨hnone, fun a => by rw [EngineM.applyAction_run, applied_of_none_held hnone]⟩

/-- Octave up is held by its key, and the panic, pressed by an axis while octave up is held, is
held by the axis and does nothing more; once the key and the axis are let go of, no action is held
and the next press acts. -/
theorem Run.no_stuck_action_sample :
    let evs : List InputEvent := [.key ⟨"kbd", 31⟩ 1, .axis ⟨"pad", 1⟩ 255 (some ⟨0, 255⟩)]
    let rest : List InputEvent := [.key ⟨"kbd", 31⟩ 0, .axis ⟨"pad", 1⟩ 0 (some ⟨0, 255⟩)]
    let e := (Engine.new .sample).feed evs
    let e' := e.feed rest
    e.position.heldActions = [.panic, .octaveUp] ∧ e.position.octave = 1 ∧
      (∀ a ∈ e.position.heldActions,
        (∃ k ∈ e.heldKeys, e.profile.actions.find? k.handler k.code = some a) ∨
          ∃ x ∈ e.axes, x.2.action = some a) ∧
      e'.position.heldActions = [] ∧
      ∀ a, (EngineM.applyAction a).run e' = pure ((), (e'.holdAction a).act a) := by
  intro evs rest e e'
  have hr : Run .sample e ((Engine.new .sample).requests evs) := Run.feed_new .sample evs
  have hr' : Run .sample e' ((Engine.new .sample).requests evs ++ e.requests rest) := hr.feed rest
  have hrun : e.position.heldActions = [.panic, .octaveUp] ∧ e.position.octave = 1 ∧
      (∀ k ∈ e'.heldKeys, e'.profile.actions.find? k.handler k.code = none) ∧
      ∀ x ∈ e'.axes, x.2.action = none := by
    decide +kernel
  exact ⟨hrun.1, hrun.2.1, (Run.no_stuck_action hr).1,
    (Run.no_stuck_action hr').2 hrun.2.2.1 hrun.2.2.2⟩

end Engine

end KeyMidi
