import Mathlib
import KeyMidi.Proofs.Engine.Steps
/-!
# Runs of the engine

`Engine.Run p e out` says that the engine `e` is reached from `Engine.new p` by processing events
(`Engine.process`) and flushing (`Engine.flush`), and that `out` is every request those calls
made, in order; the packets they sent are the requests encoded (`process_snd`, `flush_snd`).

Every engine of a run meets the invariant, with the requests made as its history and nothing
left in its outbox, and every request made fits the profile (`Run.good`): a fresh engine meets
it (`good_new`), and each call runs a step that keeps it on the engine with its outbox emptied,
then takes the requests out again (`Good.request`).
-/

namespace KeyMidi

open Std.Do

/-- A triple read back on a run of the step: from an engine that meets the precondition, the step
ends in one that meets the postcondition. -/
theorem EngineM.post_of_triple {α : Type} {x : EngineM α} {P : Engine → Prop}
    {Q : α → Engine → Prop} (hx : ⦃fun e => ⌜P e⌝⦄ x ⦃⇓ a e => ⌜Q a e⌝⦄) {e : Engine}
    (he : P e) : Q (x.run e).1 (x.run e).2 :=
  hx e he

/-- A channel taken modulo 16 is a channel. -/
theorem UInt8.mod_sixteen_le (c : UInt8) : c % 16 ≤ 15 := by
  rw [UInt8.le_iff_toNat_le, UInt8.toNat_mod]
  have := Nat.mod_lt c.toNat (by decide : 16 > 0)
  simp only [UInt8.reduceToNat]
  omega

namespace Engine

theorem process_snd (e : Engine) (ev : InputEvent) :
    (e.process ev).2 = (e.request (EngineM.handle ev)).2.map Request.packet := rfl

theorem flush_snd (e : Engine) : e.flush.2 = (e.request EngineM.releaseAll).2.map Request.packet :=
  rfl

/-- The engines reached from a fresh engine for `p` by processing events and flushing, with every
request those calls made, in order. -/
inductive Run (p : Profile) : Engine → List Request → Prop
  | new : Run p (Engine.new p) []
  | process {e : Engine} {out : List Request} (ev : InputEvent) :
      Run p e out → Run p (e.process ev).1 (out ++ (e.request (EngineM.handle ev)).2)
  | flush {e : Engine} {out : List Request} :
      Run p e out → Run p e.flush.1 (out ++ (e.request EngineM.releaseAll).2)

variable {p : Profile} {h : List Request} {e : Engine}

/-- **A fresh engine** holds nothing and has sent nothing. -/
theorem good_new (p : Profile) : (Engine.new p).Good p [] where
  sound :=
    { counts_eq := fun _ => rfl
      keyed := List.nodup_nil
      entry_ne_nil := fun _ hx => nomatch hx
      entry_nodup := fun _ hx => nomatch hx
      entry_unbound := fun _ hx => nomatch hx
      voices_addressed := fun _ hv => nomatch hv
      axisNotes_addressed := fun _ hv => nomatch hv
      axes_nodup := List.nodup_nil
      chord_nodup := List.nodup_nil
      velocity_eq := rfl
      bounded := fun hw => ⟨UInt8.mod_sixteen_le _, hw.mapping_lt⟩ }
  covers _ hw := by simp [Engine.new] at hw
  fits _ hr := by simp [Engine.new] at hr
  profile_eq := rfl
  fresh _ _ := by simpa [Engine.new] using StrikesSilent.nil

/-- Taking the requests out of the outbox adds them to the history. -/
theorem Good.clear (hg : e.Good p h) :
    ({ e with outbox := #[] } : Engine).Good p (h ++ e.outbox.toList) where
  sound := hg.sound.frame rfl rfl rfl rfl hg.sound.chord_nodup rfl hg.sound.bounded
  covers w hw := hg.covers w (by simpa using hw)
  fits _ hr := by simp at hr
  profile_eq := hg.profile_eq
  fresh hax hm := by simpa using hg.fresh hax hm

/-- A call runs a step that keeps the invariant on the engine with its outbox emptied, and takes
the requests out again: they join the history, and each fits the profile. -/
theorem Good.request (hg : e.Good p h) {step : EngineM Unit}
    (hs : ∀ h, ⦃fun e => ⌜e.Good p h⌝⦄ step ⦃⇓ _ e => ⌜e.Good p h⌝⦄) :
    (e.request step).1.Good p (h ++ e.outbox.toList ++ (e.request step).2) ∧
      ∀ r ∈ (e.request step).2, r.Fits p := by
  have hg' := EngineM.post_of_triple (hs _) hg.clear
  exact ⟨hg'.clear, fun r hr => hg'.profile_eq ▸ hg'.fits r hr⟩

/-- A call on an engine between calls, whose outbox is empty. -/
theorem Good.request_of_empty (hg : e.Good p h) (he : e.outbox = #[]) {step : EngineM Unit}
    (hs : ∀ h, ⦃fun e => ⌜e.Good p h⌝⦄ step ⦃⇓ _ e => ⌜e.Good p h⌝⦄) :
    (e.request step).1.Good p (h ++ (e.request step).2) ∧ ∀ r ∈ (e.request step).2, r.Fits p := by
  simpa [he] using hg.request hs

/-- **Every engine of a run** meets the invariant, with the requests made so far as its history
and an empty outbox, and every request made fits the profile. -/
theorem Run.good {out : List Request} (hr : Run p e out) :
    e.Good p out ∧ e.outbox = #[] ∧ ∀ r ∈ out, r.Fits p := by
  induction hr with
  | new => exact ⟨good_new p, rfl, fun _ hr => nomatch hr⟩
  | process ev _ ih =>
    obtain ⟨hg, he, hf⟩ := ih
    obtain ⟨hg', hf'⟩ := hg.request_of_empty he (EngineM.handle_good p · ev)
    exact ⟨hg', rfl, fun r hr => (List.mem_append.mp hr).elim (hf r) (hf' r)⟩
  | flush _ ih =>
    obtain ⟨hg, he, hf⟩ := ih
    obtain ⟨hg', hf'⟩ := hg.request_of_empty he (EngineM.releaseAll_good p)
    exact ⟨hg', rfl, fun r hr => (List.mem_append.mp hr).elim (hf r) (hf' r)⟩

/-! ## Runs on a list of events -/

/-- The engine after processing the events, one after the other. -/
def feed (e : Engine) (evs : List InputEvent) : Engine := evs.foldl (fun e ev => (e.process ev).1) e

/-- The requests made processing the events, one after the other. -/
def requests (e : Engine) : List InputEvent → List Request
  | [] => []
  | ev :: evs => (e.request (EngineM.handle ev)).2 ++ (e.process ev).1.requests evs

@[simp] theorem feed_nil : e.feed [] = e := rfl

@[simp] theorem requests_nil : e.requests [] = [] := rfl

theorem feed_cons (ev : InputEvent) (evs : List InputEvent) :
    e.feed (ev :: evs) = (e.process ev).1.feed evs := rfl

theorem feed_append_singleton (evs : List InputEvent) (ev : InputEvent) :
    e.feed (evs ++ [ev]) = ((e.feed evs).process ev).1 := by
  simp [feed]

/-- Processing events one after the other extends a run by their requests. -/
theorem Run.feed {out : List Request} (hr : Run p e out) (evs : List InputEvent) :
    Run p (e.feed evs) (out ++ e.requests evs) := by
  induction evs generalizing e out with
  | nil => simpa using hr
  | cons ev evs ih =>
    rw [feed_cons, requests, ← List.append_assoc]
    exact ih (hr.process ev)

/-- A fresh engine fed a list of events is a run. -/
theorem Run.feed_new (p : Profile) (evs : List InputEvent) :
    Run p ((Engine.new p).feed evs) ((Engine.new p).requests evs) := by
  simpa using Run.new.feed evs

end Engine

/-! ## A sample profile -/

/-- A small profile to play runs on. Keys 30 to 36 of `kbd` are bound to the panic, octave up,
layer up and down, multinote, and channel up and down. The first layer binds keys 1 to 4 to the
notes 60, 64, 67 and again 60, and the axes of `pad` to a note (0), the panic (1) and a two-sided
controller (2); the second binds key 1 to 48 and axis 0 to another note. -/
def Profile.sample : Profile where
  name := "sample"
  kind := .keyboard
  actions := ⟨[("kbd", [(30, .panic), (31, .octaveUp), (32, .mappingUp), (33, .mappingDown),
    (34, .multinote), (35, .channelUp), (36, .channelDown)])]⟩
  layers :=
    [{ name := "lower"
       keys := ⟨[("kbd", [(1, { note := 60 }), (2, { note := 64 }), (3, { note := 67 }),
         (4, { note := 60 })])]⟩
       axes := ⟨[("pad", [(0, { role := .note 72 0 false }),
         (1, { role := .action .panic none false }),
         (2, { role := .controller 1 2 true false })])]⟩ },
     { name := "upper"
       keys := ⟨[("kbd", [(1, { note := 48 })])]⟩
       axes := ⟨[("pad", [(0, { role := .note 74 0 false })])]⟩ }]

end KeyMidi
