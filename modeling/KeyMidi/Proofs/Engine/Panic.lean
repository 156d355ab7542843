import Mathlib
import KeyMidi.Proofs.Engine.Silence
/-!
# No stuck notes

A listener of a run holds only what a key or an axis of the engine holds (`Run.held_mem`), and
nothing once the engine holds no note (`Run.heldCount_eq_zero`). A flush lets go of every note.
The panic lets go of every note as well, but only when it acts: an action pressed while another
one is held is held and does nothing more, the panic included.

An event lets go of actions, then presses one action at most (`PressesOnce`): a key event the
action of its key, an axis sample the action of the zone it enters, once the action of the zone
it leaves is let go of. So after an event that leaves the panic the only action held, when it
was not held before, the panic was pressed with no action held and acted: the engine holds no
note (`PressesOnce.silent`). Along every run such an event, a key or an axis sample, leaves the
listener holding nothing (`Run.no_stuck_notes`).
-/

namespace KeyMidi

open KeyMidi.Analog

namespace Engine

/-- The engine `e'` is reached from `e` by letting go of actions, then pressing one action at
most. -/
def PressesOnce (e e' : Engine) : Prop :=
  e'.position.heldActions.Sublist e.position.heldActions ∨
    ∃ (e₁ : Engine) (a : Action), e₁.position.heldActions.Sublist e.position.heldActions ∧ e' = e₁.pressed a

variable {e e' e₁ : Engine}

/-- The panic pressed with no action held acts, and lets go of every note. -/
theorem pressed_silent (hp : .panic ∉ e.position.heldActions) {a : Action}
    (h1 : (e.pressed a).position.heldActions = [.panic]) :
    (e.pressed a).notes = .empty ∧ (e.pressed a).axisNotes = [] := by
  rw [pressed_position, applied_heldActions] at h1
  split_ifs at h1 with ha
  · exact absurd (h1 ▸ List.mem_singleton_self _) hp
  obtain ⟨rfl, hnil⟩ := List.cons_eq_cons.mp h1
  have happ := applied_of_none_held hnil Action.panic
  have hpr : e.pressed .panic = e.applied .panic := by
    simp [pressed, happ, act]
  rw [hpr, happ]
  exact ⟨by simp [act], by simp [act]⟩

theorem released_sublist (a : Action) :
    (e.released a).position.heldActions.Sublist e.position.heldActions := by
  rw [released_heldActions]
  exact List.erase_sublist

/-- Settling an axis at most lets go of the action it held. -/
theorem settled_sublist (key : InputId) :
    (e.settled key).position.heldActions.Sublist e.position.heldActions := by
  unfold settled
  split
  · exact .refl _
  · split
    · exact .refl _
    · dsimp only
      split <;> split <;> simp [released_heldActions, List.erase_sublist]

theorem releasedOpt_sublist (prev : Option Action) :
    (e.releasedOpt prev).position.heldActions.Sublist e.position.heldActions := by
  cases prev with
  | some a => exact released_sublist a
  | none => exact .refl _

namespace PressesOnce

theorem refl (e : Engine) : PressesOnce e e := Or.inl (.refl _)

theorem of_sublist (h : e'.position.heldActions.Sublist e.position.heldActions) : PressesOnce e e' :=
  Or.inl h

theorem pressed (h : e₁.position.heldActions.Sublist e.position.heldActions) (a : Action) :
    PressesOnce e (e₁.pressed a) :=
  Or.inr ⟨e₁, a, h, rfl⟩

theorem pressedOpt (h : e₁.position.heldActions.Sublist e.position.heldActions)
    (next : Option Action) : PressesOnce e (e₁.pressedOpt next) := by
  cases next with
  | some a => exact .pressed h a
  | none => exact .of_sublist h

/-- Letting go of actions first. -/
theorem sublist_trans (h : e₁.position.heldActions.Sublist e.position.heldActions)
    (h' : PressesOnce e₁ e') : PressesOnce e e' := by
  rcases h' with h' | ⟨e₂, a, h₂, rfl⟩
  · exact Or.inl (h'.trans h)
  · exact Or.inr ⟨e₂, a, h₂.trans h, rfl⟩

/-- Reached so, an engine whose only action held is the panic, not held before, holds no note. -/
theorem silent (h : PressesOnce e e') (hp : .panic ∉ e.position.heldActions)
    (h1 : e'.position.heldActions = [.panic]) : e'.notes = .empty ∧ e'.axisNotes = [] := by
  rcases h with hs | ⟨e₁, a, hs, rfl⟩
  · exact absurd (hs.subset (h1 ▸ List.mem_singleton_self _)) hp
  · exact pressed_silent (fun h => hp (hs.subset h)) h1

end PressesOnce

variable (e)

theorem played_pressesOnce (key : InputId) (m : AxisMemory) (pos : Position) (channel : UInt8)
    (signed : Bool) (value centered : Float) (role : AxisRole) :
    PressesOnce e (e.played key m pos channel signed value centered role) := by
  have hpush : ∀ (e : Engine) r, (e.push r).position = e.position := fun _ _ => rfl
  have hstore : ∀ (e : Engine) k m, (e.storeAxis k m).position = e.position := fun _ _ _ => by simp
  cases role with
  | controller cc ccNeg twoSided flip =>
    refine .of_sublist ?_
    cases twoSided with
    | false => exact .refl _
    | true =>
      dsimp only [played]
      rw [if_pos rfl, hpush, hstore, leftSide_keeps _ (·.position) hpush]
  | pitchBend flip => exact .of_sublist (.refl _)
  | note n nNeg twoSided =>
    dsimp only [played]
    generalize Zone.ofLevel (if twoSided then centered else value) twoSided = zone
    split
    · exact .refl e
    · refine .of_sublist ?_
      rw [struckOpt_keeps _ (·.position.heldActions) (fun e k m => by simp) (fun e r => rfl),
        silencedOpt_keeps _ (·.position.heldActions) (fun e r => rfl), hstore]
  | action a aNeg twoSided =>
    dsimp only [played]
    generalize Zone.ofLevel (if twoSided then centered else value) twoSided = zone
    split
    · exact .refl e
    · exact .pressedOpt ((releasedOpt_sublist _).trans (by simp)) _

theorem sampled_pressesOnce (key : InputId) (raw : Int) (bounds : Bounds) :
    PressesOnce e (e.sampled key raw bounds) := by
  rcases e.sampled_cases key raw bounds with hs | hs | ⟨layer, b, value, -, -, hs⟩ <;> rw [hs]
  · exact .refl e
  · exact .of_sublist (by simp)
  · exact .sublist_trans (by simp) (played_pressesOnce _ ..)

theorem moved_pressesOnce (key : InputId) (raw : Int) (bounds : Option Bounds) :
    PressesOnce e (e.moved key raw bounds) := by
  cases bounds with
  | none => exact .refl e
  | some bounds => exact .sublist_trans (settled_sublist key) (sampled_pressesOnce _ key raw bounds)

theorem keyed_pressesOnce (key : InputId) (value : Int) : PressesOnce e (e.keyed key value) := by
  unfold keyed
  by_cases h0 : value = 0
  · rw [if_pos h0]
    refine .of_sublist ?_
    split
    · exact released_sublist _
    · simp
  by_cases h1 : value = 1
  · rw [if_neg h0, if_pos h1]
    split
    · exact .pressed (by simp) _
    · split <;> exact .of_sublist (by simp)
  · rw [if_neg h0, if_neg h1]
    exact .refl e

variable {e}

/-- An event that leaves the panic the only action held, when it was not held before, lets go of
every note. -/
theorem request_handle_silent (ev : InputEvent) (hp : .panic ∉ e.position.heldActions)
    (h1 : (e.process ev).1.position.heldActions = [.panic]) :
    (e.request (EngineM.handle ev)).1.notes = .empty ∧
      (e.request (EngineM.handle ev)).1.axisNotes = [] := by
  change (e.request (EngineM.handle ev)).1.position.heldActions = [.panic] at h1
  rw [request_handle] at h1 ⊢
  cases ev with
  | key key value => exact (keyed_pressesOnce _ key value).silent hp h1
  | axis key raw bounds => exact (moved_pressesOnce _ key raw bounds).silent hp h1

end Engine

end KeyMidi
