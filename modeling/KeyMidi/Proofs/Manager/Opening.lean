import Mathlib
import KeyMidi.Proofs.Manager.Runs
/-!
# Opening a device, retrying until the open timeout

A device task opens its device in attempts (`Sim.attemptOpen`). The rig counts every attempt;
one it refuses (`Rig.refuses`) ends the task once the open timeout has passed since the first
attempt, or once shutdown has fired, and otherwise sets a timer to try again after the retry
interval. While the task waits for that timer, shutdown wakes it and ends it.

`World.openStep k` wakes device task `k` once in virtual time, where attempts take no time: the
clock moves on to the time its retry timer was set for, and the task runs. Each such wake-up is
made of steps of the system (`openStep_steps`). What the open loop reads and changes is
`World.openView`; as long as the rig refuses the device, one wake-up changes it as
`OpenView.wake` says (`openView_openStep`), so the loop is a function of the settings alone
(`openView_iterate`, `OpenView.wake_iterate`, `refused_open_retries`).

An attempt the rig accepts attaches the task, which runs its engine from then on. What a task
does past opening never touches the rig and never takes it back to opening (`Sim.Settles`, one
lemma per step, as `Sim.Keeps` is for the books), so the accepted attempt is the last
(`openStep_accepted`, `Opened.pollDevice`). Firing shutdown only wakes tasks (`Sim.Wakes`),
among them every task waiting to open its device (`fireShutdown_opening`).

The main statement, `World.open_retry_laws`: with a nonzero retry interval, a loop whose every
attempt is refused makes exactly `⌈timeout / retry⌉ + 1` attempts, the last one once the timeout
has passed; an attempt that succeeds is the last one, and the task gets its input; and shutdown
during a wait wakes the task, which then ends without another attempt.
-/

namespace KeyMidi

open Sim

/-- The rig refuses to open a device: it is marked failing, or no device of its identity is
plugged in. -/
def Rig.refuses (r : Rig) (i : Identity) : Bool :=
  r.failing.contains i || !r.plugged.any (·.identity == i)

namespace World

/-- The stage of device task `k`, if there is one. -/
def stageOf (w : World) (k : Nat) : Option Stage := w.tasks[k]?.map (·.stage)

/-- Device task `k` woken once in virtual time, where attempts to open take no time: a task not
yet run runs now, and a task waiting to try again runs when its retry timer fires, the clock
having moved on to the time the timer was set for. A task past opening its device is left
alone: its open loop is over. -/
def openStep (k : Nat) (w : World) : World :=
  match w.stageOf k with
  | some .fresh => ((pollDevice k).run w).run.2
  | some (.opening _ resumeAt) => ((pollDevice k).run { w with now := resumeAt }).run.2
  | _ => w

end World

/-- What the open loop of a device task reads and changes: the clock, the settings, whether
shutdown has fired, whether the rig refuses the task's device, the task's stage, and the number
of attempts the rig has seen. -/
@[ext] structure OpenView where
  now : Nat
  settings : DeviceSettings
  cancelled : Bool
  refuses : Bool
  stage : Option Stage
  opens : Nat

/-- The open loop of device task `k` in a world. -/
def World.openView (w : World) (k : Nat) : OpenView :=
  ⟨w.now, w.settings, w.shutdown.fired, w.rig.refuses (w.tasks[k]?.getD default).device.identity,
    w.stageOf k, w.rig.opens⟩

section
variable (w : World) (k : Nat)

@[simp] theorem World.openView_now : (w.openView k).now = w.now := rfl
@[simp] theorem World.openView_settings : (w.openView k).settings = w.settings := rfl
@[simp] theorem World.openView_cancelled : (w.openView k).cancelled = w.shutdown.fired := rfl
@[simp] theorem World.openView_stage : (w.openView k).stage = w.stageOf k := rfl
@[simp] theorem World.openView_opens : (w.openView k).opens = w.rig.opens := rfl

end

namespace OpenView

/-- An attempt the rig refused, made now by a loop whose first attempt was at `started`: it is
counted, and the task ends once the open timeout has passed since `started` or shutdown has
fired, and otherwise waits for the retry interval. -/
def refused (v : OpenView) (started : Nat) : OpenView :=
  { v with
    opens := v.opens + 1
    stage := v.stage.map fun _ =>
      if v.settings.openTimeoutMs ≤ v.now - started ∨ v.cancelled = true then .done
      else .opening started (v.now + v.settings.openRetryMs) }

/-- One wake-up of an open loop whose attempts the rig refuses: a fresh task makes its first
attempt; a waiting task, at the time its timer was set for, ends if shutdown has fired and
otherwise tries again. -/
def wake (v : OpenView) : OpenView :=
  match v.stage with
  | some .fresh => v.refused v.now
  | some (.opening started resumeAt) =>
    if v.cancelled then { v with now := resumeAt, stage := some .done }
    else { v with now := resumeAt }.refused started
  | _ => v

end OpenView

namespace World

variable {k : Nat} {w : World}

/-- Changing device task `k` without touching its device changes its open loop through its
stage only. -/
theorem openView_modify (g : DeviceTask → DeviceTask) (hg : ∀ t, (g t).device = t.device) :
    ({ w with tasks := w.tasks.modify k g } : World).openView k =
      { w.openView k with stage := w.tasks[k]?.map fun t => (g t).stage } := by
  cases hk : w.tasks[k]? <;> simp [openView, stageOf, Array.getElem?_modify, hk, hg]

end World

namespace Sim

variable (k : Nat) (w : World)

@[simp] theorem openView_wake (t : TaskId) :
    (((wake t).run w).run.2).openView k = w.openView k := by
  simp only [wake, StateT.run_modify, Id.run_pure]
  split <;> rfl

@[simp] theorem openView_setTimer (at_ : Nat) (alarm : Alarm) :
    (((setTimer at_ alarm).run w).run.2).openView k = w.openView k := rfl

@[simp] theorem openView_closeInput (t : DeviceTask) :
    (((closeInput t).run w).run.2).openView k = w.openView k := by
  obtain ⟨_, h⟩ := closeInput_eq t w
  rw [h]
  rfl

/-- Ending a task marks it done and leaves the rest of its open loop. -/
theorem openView_completeTask :
    (((completeTask k).run w).run.2).openView k =
      { w.openView k with stage := (w.stageOf k).map fun _ => .done } := by
  simp only [completeTask, StateT.run_bind, Id.run_bind, run_task, modifyTask, StateT.run_modify,
    Id.run_pure, openView_wake]
  change (((closeInput _).run _).run.2).openView k = _
  rw [openView_closeInput,
    World.openView_modify (fun t => { t with stage := .done, listening := false }) fun _ => rfl]
  simp [World.stageOf, Option.map_map, Function.comp_def]

/-- An attempt the rig refuses changes the open loop as `OpenView.refused` says. -/
theorem openView_attemptOpen_refused (started : Nat) (h : (w.openView k).refuses = true) :
    (((attemptOpen k started).run w).run.2).openView k = (w.openView k).refused started := by
  let w₁ : World := { w with rig := { w.rig with opens := w.rig.opens + 1 } }
  have hv₁ : w₁.openView k = { w.openView k with opens := w.rig.opens + 1 } := rfl
  have hr : (w.rig.failing.contains (w.tasks[k]?.getD default).device.identity ||
      !w.rig.plugged.any (·.identity == (w.tasks[k]?.getD default).device.identity)) = true := h
  simp only [attemptOpen, StateT.run_bind, StateT.run_get, Id.run_bind, Id.run_pure, run_task,
    StateT.run_set, hr, if_true]
  change ((if _ then completeTask k else _ : Sim Unit).run w₁).run.2.openView k = _
  split
  · rename_i hc
    rw [openView_completeTask, hv₁]
    have hc' : w.settings.openTimeoutMs ≤ w.now - started ∨ w.shutdown.fired = true := by
      simpa using hc
    simp [OpenView.refused, World.openView, World.stageOf, hc']
    rfl
  · rename_i hc
    have hc' : ¬ (w.settings.openTimeoutMs ≤ w.now - started ∨ w.shutdown.fired = true) := by
      simpa using hc
    simp only [modifyTask, StateT.run_bind, StateT.run_modify, Id.run_bind, openView_setTimer]
    change ({ w₁ with tasks := w₁.tasks.modify k _ } : World).openView k = _
    rw [World.openView_modify
      (fun t => { t with stage := .opening started (w.now + w.settings.openRetryMs) })
      fun _ => rfl, hv₁]
    simp [OpenView.refused, World.openView, World.stageOf, hc', Option.map_map, Function.comp_def]
    rfl

section Polling

variable {k : Nat} {w : World} {t : DeviceTask}

/-- A task not yet run makes its first attempt now. -/
theorem pollDevice_fresh (hk : w.tasks[k]? = some t) (hs : t.stage = .fresh) :
    ((pollDevice k).run w).run.2 = ((attemptOpen k w.now).run w).run.2 := by
  simp only [pollDevice, StateT.run_bind, StateT.run_get, Id.run_bind, Id.run_pure, run_task, hk,
    Option.getD_some, hs]

/-- A waiting task run once shutdown has fired ends, without another attempt. -/
theorem pollDevice_cancelled {started resumeAt : Nat} (hk : w.tasks[k]? = some t)
    (hs : t.stage = .opening started resumeAt) (hf : w.shutdown.fired = true) :
    ((pollDevice k).run w).run.2 = ((completeTask k).run w).run.2 := by
  simp only [pollDevice, StateT.run_bind, StateT.run_get, Id.run_bind, Id.run_pure, run_task, hk,
    Option.getD_some, hs, hf, if_true]

/-- A waiting task run at or after the time its timer was set for tries again. -/
theorem pollDevice_due {started resumeAt : Nat} (hk : w.tasks[k]? = some t)
    (hs : t.stage = .opening started resumeAt) (hf : w.shutdown.fired = false)
    (hd : resumeAt ≤ w.now) :
    ((pollDevice k).run w).run.2 = ((attemptOpen k started).run w).run.2 := by
  simp only [pollDevice, StateT.run_bind, StateT.run_get, Id.run_bind, Id.run_pure, run_task, hk,
    Option.getD_some, hs, hf, hd, Bool.false_eq_true, if_false, if_true]

end Polling

end Sim

namespace OpenView

/-- A wake-up leaves the rig's verdict on the device as it was. -/
@[simp] theorem refuses_wake (v : OpenView) : v.wake.refuses = v.refuses := by
  unfold wake
  split
  · rfl
  · split <;> rfl
  · rfl

end OpenView

namespace World

variable {k : Nat} {w : World}

theorem stageOf_of_task {t : DeviceTask} (hk : w.tasks[k]? = some t) :
    w.stageOf k = some t.stage := by
  simp [stageOf, hk]

/-- As long as the rig refuses the device, one wake-up of device task `k` changes its open loop
as `OpenView.wake` says. -/
theorem openView_openStep (h : (w.openView k).refuses = true) :
    (w.openStep k).openView k = (w.openView k).wake := by
  cases hk : w.tasks[k]? with
  | none => simp [openStep, OpenView.wake, openView, stageOf, hk]
  | some t =>
    have hst := stageOf_of_task hk
    cases hs : t.stage with
    | fresh =>
      simp only [openStep, hst, hs]
      rw [pollDevice_fresh hk hs, openView_attemptOpen_refused _ _ _ h]
      simp only [OpenView.wake, openView_stage, hst, hs]
      rfl
    | opening started resumeAt =>
      simp only [openStep, hst, hs]
      have hk' : ({ w with now := resumeAt } : World).tasks[k]? = some t := hk
      cases hf : w.shutdown.fired
      · rw [pollDevice_due hk' hs hf le_rfl,
          openView_attemptOpen_refused k { w with now := resumeAt } started h]
        simp only [OpenView.wake, openView_stage, hst, hs, openView_cancelled, hf,
          Bool.false_eq_true, if_false]
        simp [openView, stageOf, hk, hs, hf]
      · rw [pollDevice_cancelled hk' hs hf, openView_completeTask]
        simp only [OpenView.wake, openView_stage, hst, hs, openView_cancelled, hf, if_true]
        simp [openView, stageOf, hk]
    | running | detached | done =>
      simp only [openStep, hst, hs]
      simp [OpenView.wake, hst, hs]

/-- Wake-ups of a loop whose every attempt the rig refuses follow `OpenView.wake`. -/
theorem openView_iterate (h : (w.openView k).refuses = true) (n : Nat) :
    ((openStep k)^[n] w).openView k = OpenView.wake^[n] (w.openView k) := by
  induction n generalizing w with
  | zero => rfl
  | succ n ih =>
    have h' : ((w.openStep k).openView k).refuses = true := by
      rw [openView_openStep h, OpenView.refuses_wake, h]
    rw [Function.iterate_succ_apply, Function.iterate_succ_apply, ih h', openView_openStep h]

end World

/-- With a nonzero retry interval, the open timeout has passed by attempt `j` (made `j` retry
intervals after the first) just when `j` has reached `timeout ⌈/⌉ retry`. -/
theorem DeviceSettings.openTimeoutMs_le_iff (s : DeviceSettings) (hr : 0 < s.openRetryMs)
    (j : Nat) : s.openTimeoutMs ≤ j * s.openRetryMs ↔ s.openTimeoutMs ⌈/⌉ s.openRetryMs ≤ j := by
  rw [ceilDiv_le_iff_le_mul hr, Nat.mul_comm]

namespace OpenView

variable (v : OpenView)

/-- The open loop of a task first run at `v.now`, every attempt refused, right after its attempt
`j` (counting from `0`, made at `v.now + j * retry`): it has given up if the timeout had passed by
then, and otherwise waits until the next attempt is due. -/
def afterRefused (j : Nat) : OpenView :=
  { v with
    now := v.now + j * v.settings.openRetryMs
    stage := some (if v.settings.openTimeoutMs ≤ j * v.settings.openRetryMs then .done
      else .opening v.now (v.now + (j + 1) * v.settings.openRetryMs))
    opens := v.opens + (j + 1) }

variable {v} {j : Nat}

/-- The first attempt of a task not yet run. -/
theorem wake_fresh (hs : v.stage = some .fresh) (hc : v.cancelled = false) :
    v.wake = v.afterRefused 0 := by
  simp [wake, refused, afterRefused, hs, hc]

/-- A loop still waiting tries again once it is due. -/
theorem wake_afterRefused (hc : v.cancelled = false)
    (hj : ¬ v.settings.openTimeoutMs ≤ j * v.settings.openRetryMs) :
    (v.afterRefused j).wake = v.afterRefused (j + 1) := by
  simp only [wake, afterRefused, hj, if_false, hc, Bool.false_eq_true, refused]
  ext <;> simp [Nat.add_mul, Nat.add_assoc, Nat.two_mul]

/-- A loop that has given up stays as it is. -/
theorem wake_afterRefused_of_le (hj : v.settings.openTimeoutMs ≤ j * v.settings.openRetryMs) :
    (v.afterRefused j).wake = v.afterRefused j := by
  simp [wake, afterRefused, hj]

/-- Every attempt refused and shutdown not firing, the loop of a task not yet run makes one
attempt each retry interval and gives up at attempt `timeout ⌈/⌉ retry`, the first made once the
timeout has passed. -/
theorem wake_iterate (hs : v.stage = some .fresh) (hc : v.cancelled = false)
    (hr : 0 < v.settings.openRetryMs) (n : Nat) :
    wake^[n + 1] v =
      v.afterRefused (min n (v.settings.openTimeoutMs ⌈/⌉ v.settings.openRetryMs)) := by
  have key := v.settings.openTimeoutMs_le_iff hr
  induction n with
  | zero => rw [Function.iterate_one, wake_fresh hs hc, Nat.zero_min]
  | succ n ih =>
    rw [Function.iterate_succ_apply', ih]
    by_cases hn : n < v.settings.openTimeoutMs ⌈/⌉ v.settings.openRetryMs
    · rw [Nat.min_eq_left hn.le, wake_afterRefused hc (by rw [key]; omega), Nat.min_eq_left hn]
    · rw [Nat.min_eq_right (by omega), wake_afterRefused_of_le ((key _).2 le_rfl),
        Nat.min_eq_right (by omega)]

end OpenView

/-! ## After an attempt the rig accepts -/

namespace World

variable {k : Nat}

/-- Device task `k` is there and past opening its device: it runs, has detached, or has ended. -/
def Opened (w : World) (k : Nat) : Prop := ∃ t, w.tasks[k]? = some t ∧ t.stage.phase ≠ .waiting

/-- A task past opening is left alone by its open loop. -/
theorem openStep_of_opened {w : World} (h : w.Opened k) : w.openStep k = w := by
  obtain ⟨t, hk, ht⟩ := h
  unfold openStep
  rw [stageOf_of_task hk]
  cases hs : t.stage with
  | fresh | opening => simp [hs] at ht
  | running | detached | done => rfl

/-- Changing a task so that one past opening stays past it keeps task `k` past opening. -/
theorem Opened.modify {w : World} {j : Nat} {g : DeviceTask → DeviceTask}
    (hg : ∀ t, t.stage.phase ≠ .waiting → (g t).stage.phase ≠ .waiting) (h : w.Opened k) :
    ({ w with tasks := w.tasks.modify j g } : World).Opened k := by
  obtain ⟨t, hk, ht⟩ := h
  by_cases hj : j = k
  · subst hj
    exact ⟨g t, by simp [Array.getElem?_modify, hk], hg t ht⟩
  · exact ⟨t, by simp [Array.getElem?_modify, hj, hk], ht⟩

/-- Moving a task that is there to a stage past opening. -/
theorem opened_modify {w : World} {t : DeviceTask} {g : DeviceTask → DeviceTask}
    (hk : w.tasks[k]? = some t) (hg : (g t).stage.phase ≠ .waiting) :
    ({ w with tasks := w.tasks.modify k g } : World).Opened k :=
  ⟨g t, by simp [Array.getElem?_modify, hk], hg⟩

theorem opened_of_stageOf {w : World} {s : Stage} (h : w.stageOf k = some s)
    (hs : s.phase ≠ .waiting) : w.Opened k := by
  obtain ⟨t, hk, rfl⟩ := Option.map_eq_some_iff.mp h
  exact ⟨t, hk, hs⟩

/-- What a device task does once its device is open leaves of the open loops: the rig as it was,
and task `k` still there if it was, and still past opening its device if it was. -/
structure Settled (k : Nat) (w w' : World) : Prop where
  rig : w'.rig = w.rig
  present : k < w.tasks.size → k < w'.tasks.size
  opened : w.Opened k → w'.Opened k

theorem Settled.refl (k : Nat) (w : World) : w.Settled k w := ⟨rfl, id, id⟩

theorem Settled.trans {w₁ w₂ w₃ : World} (h₁ : w₁.Settled k w₂) (h₂ : w₂.Settled k w₃) :
    w₁.Settled k w₃ :=
  ⟨h₂.rig.trans h₁.rig, h₂.present ∘ h₁.present, h₂.opened ∘ h₁.opened⟩

end World

namespace Sim

open World

variable {k : Nat}

/-- A step that settles from every world. -/
def Settles {α : Type} (k : Nat) (x : Sim α) : Prop := ∀ w : World, w.Settled k ((x.run w).run.2)

theorem settles_pure {α : Type} (a : α) : Settles k (pure a : Sim α) := fun w => .refl k w

theorem Settles.bind {α β : Type} {x : Sim α} {f : α → Sim β} (hx : Settles k x)
    (hf : ∀ a, Settles k (f a)) : Settles k (x >>= f) := by
  intro w
  simp only [StateT.run_bind, Id.run_bind]
  exact (hx w).trans (hf _ _)

theorem settles_ite {α : Type} {c : Prop} [Decidable c] {x y : Sim α} (hx : Settles k x)
    (hy : Settles k y) : Settles k (if c then x else y) := by
  split <;> assumption

theorem settles_forIn {α β : Type} (l : List α) (b : β) {body : α → β → Sim (ForInStep β)}
    (h : ∀ a b, Settles k (body a b)) : Settles k (forIn l b body) := by
  intro w
  induction l generalizing b w with
  | nil => exact .refl k w
  | cons a l ih =>
    simp only [List.forIn_cons, StateT.run_bind, Id.run_bind]
    split
    · exact h a b w
    · exact (h a b w).trans (ih _ _)

theorem settles_get_bind {α : Type} {f : World → Sim α}
    (h : ∀ w : World, w.Settled k (((f w).run w).run.2)) : Settles k (get >>= f) :=
  fun w => after_get (h w)

/-- A step that leaves the rig and the tasks settles. -/
theorem settles_quiet {α : Type} {x : Sim α}
    (h : ∀ w : World, ((x.run w).run.2).rig = w.rig ∧ ((x.run w).run.2).tasks = w.tasks) :
    Settles k x := by
  intro w
  obtain ⟨hr, ht⟩ := h w
  exact ⟨hr, fun hk => ht ▸ hk, fun ⟨t, hk, hp⟩ => ⟨t, ht ▸ hk, hp⟩⟩

theorem settles_wake (t : TaskId) : Settles k (wake t) :=
  settles_quiet fun w => by
    simp only [wake, StateT.run_modify, Id.run_pure]
    split <;> exact ⟨rfl, rfl⟩

theorem settles_task (j : Nat) : Settles k (task j) := settles_quiet fun w => by simp

theorem settles_modifyTask {j : Nat} {g : DeviceTask → DeviceTask}
    (hg : ∀ t, t.stage.phase ≠ .waiting → (g t).stage.phase ≠ .waiting) :
    Settles k (modifyTask j g) :=
  fun _ => ⟨rfl, fun hk => by simpa [modifyTask] using hk, Opened.modify hg⟩

theorem settles_modifyStream (s : Nat) (g : Stream → Stream) : Settles k (modifyStream s g) :=
  settles_quiet fun w => by simp [modifyStream]

theorem settles_sendMidi (ps : List Midi.Packet) : Settles k (sendMidi ps) :=
  settles_quiet fun w => by simp [sendMidi]

theorem settles_closeInput (t : DeviceTask) : Settles k (closeInput t) :=
  settles_quiet fun w => by
    obtain ⟨_, h⟩ := closeInput_eq t w
    rw [h]
    exact ⟨rfl, rfl⟩

theorem settles_completeTask (j : Nat) : Settles k (completeTask j) := by
  refine (settles_task j).bind fun _ => (settles_modifyTask ?_).bind fun _ =>
    (settles_closeInput _).bind fun _ => (settles_quiet fun w => by simp).bind fun _ =>
      settles_wake _
  simp

theorem settles_retire (j : Nat) : Settles k (retire j) :=
  (settles_quiet fun w => by simp).bind fun _ => settles_completeTask j

theorem settles_detachOutput (t : DeviceTask) : Settles k (detachOutput t) := by
  unfold detachOutput
  refine settles_get_bind fun w => ?_
  split
  · exact ⟨rfl, id, id⟩
  · exact .refl k w

theorem settles_takeInput (j : Nat) : Settles k (takeInput j) := by
  unfold takeInput
  refine (settles_task j).bind fun t => settles_ite ?_ ?_
  · exact (settles_modifyTask fun _ h => by exact h).bind fun _ => settles_pure _
  · split
    · exact settles_pure _
    · exact (settles_quiet fun w => by simp).bind fun _ =>
        (settles_modifyStream _ _).bind fun _ => settles_pure _

theorem settles_fireShutdown : Settles k fireShutdown := by
  unfold fireShutdown
  refine settles_get_bind fun w => ?_
  split
  · exact .refl k w
  have h₁ : w.Settled k { w with shutdown := w.shutdown.fire } := ⟨rfl, id, id⟩
  refine after_set (P := fun W => w.Settled k W) (h₁.trans ?_)
  refine ((settles_wake _).bind fun _ => (settles_forIn _ _ fun _ _ => ?_).bind fun _ =>
    (settles_forIn _ _ fun _ _ => (settles_wake _).bind fun _ => settles_pure _).bind fun _ =>
      settles_pure _) _
  dsimp only
  split
  · exact (settles_wake _).bind fun _ => settles_pure _
  · exact settles_pure _

theorem settles_triggerExit : Settles k triggerExit := by
  unfold triggerExit
  refine (settles_quiet fun w => by simp).bind fun mode => ?_
  split
  · exact settles_pure _
  · exact settles_quiet fun w => by simp
  · exact settles_fireShutdown

theorem settles_runEngine (j : Nat) : Settles k (runEngine j) := by
  unfold runEngine
  refine (settles_takeInput j).bind fun ⟨events, ended⟩ => ?_
  refine (settles_forIn _ _ fun ev _ => ?_).bind fun _ => settles_ite ?_ (settles_pure _)
  · refine (settles_task j).bind fun t => ?_
    split
    refine (settles_modifyTask fun _ h => by exact h).bind fun _ =>
      (settles_sendMidi _).bind fun _ => ?_
    exact settles_ite (settles_triggerExit.bind fun _ => settles_pure _) (settles_pure _)
  · refine (settles_task j).bind fun t => ?_
    split
    refine (settles_sendMidi _).bind fun _ => (settles_modifyTask fun _ _ => ?_).bind fun _ => ?_
    · simp
    refine (settles_closeInput _).bind fun _ => (settles_detachOutput _).bind fun _ => ?_
    refine (settles_wake _).bind fun _ => (settles_task j).bind fun _ => ?_
    exact settles_ite (settles_retire j) (settles_pure _)

theorem settles_attach (j : Nat) : Settles k (attach j) := by
  unfold attach
  refine settles_get_bind fun w => ?_
  split
  · exact settles_completeTask j w
  · rename_i f n h _
    have h₁ : w.Settled k
        { w with loopback := f, nextId := w.nextId + 1, table := w.table ++ [(w.nextId, j)] } :=
      ⟨rfl, id, id⟩
    refine after_set (P := fun W => w.Settled k W) (h₁.trans ?_)
    refine ((settles_modifyTask fun _ _ => ?_).bind fun _ => (settles_wake _).bind fun _ =>
      settles_runEngine j) _
    simp

/-- Dropping the stream of an identity changes the rig's list of streams only: the tasks and the
count of attempts stay. -/
theorem dropStreamOf_keeps (i : Identity) (w : World) :
    (((dropStreamOf i).run w).run.2).tasks = w.tasks ∧
      (((dropStreamOf i).run w).run.2).rig.opens = w.rig.opens := by
  simp only [dropStreamOf, StateT.run_bind, StateT.run_get, Id.run_bind, Id.run_pure]
  split
  · exact ⟨rfl, rfl⟩
  · simp only [StateT.run_bind, StateT.run_set, Id.run_bind]
    split <;> simp [modifyStream, wake]
    split <;> simp

/-- A step that takes task `k`, when it is there, past opening its device. -/
def Opens {α : Type} (k : Nat) (x : Sim α) : Prop :=
  ∀ w : World, k < w.tasks.size → ((x.run w).run.2).Opened k

theorem Settles.bind_opens {α β : Type} {x : Sim α} {f : α → Sim β} (hx : Settles k x)
    (hf : ∀ a, Opens k (f a)) : Opens k (x >>= f) := by
  intro w hk
  simp only [StateT.run_bind, Id.run_bind]
  exact hf _ _ ((hx w).present hk)

theorem opens_ite {α : Type} {c : Prop} [Decidable c] {x y : Sim α} (hx : Opens k x)
    (hy : Opens k y) : Opens k (if c then x else y) := by
  split <;> assumption

/-- After a step that settles and takes task `k` past opening, the rig is as it was and the task
past opening. -/
theorem after_opens {α : Type} {x : Sim α} (hs : Settles k x) (ho : Opens k x) {w : World}
    {P : World → Prop} (hk : k < w.tasks.size) (h : ∀ W, W.rig = w.rig → W.Opened k → P W) :
    P ((x.run w).run.2) :=
  h _ (hs w).rig (ho w hk)

theorem opens_completeTask : Opens k (completeTask k) := by
  intro w hk
  have h := congrArg OpenView.stage (openView_completeTask k w)
  rw [openView_stage, stageOf_of_task (Array.getElem?_eq_getElem hk)] at h
  exact opened_of_stageOf h (by simp)

/-- Attaching a task that is there takes it past opening, whether it gets an output of the
loopback input and runs, or ends. -/
theorem opens_attach : Opens k (attach k) := by
  intro w hk
  unfold attach
  refine after_get (P := (World.Opened · k)) ?_
  split
  · exact opens_completeTask w hk
  · dsimp only
    refine after_set (P := (World.Opened · k)) ?_
    simp only [modifyTask, StateT.run_bind, StateT.run_modify, Id.run_bind]
    exact (((settles_wake _).bind fun _ => settles_runEngine k) _).opened
      (opened_modify (Array.getElem?_eq_getElem hk) (by simp))

/-- An attempt the rig accepts: it is counted, the rig records the stream it opens for the device,
and the task attaches, which takes it past opening; what it does then leaves the rig. -/
theorem attemptOpen_accepted {w : World} {t : DeviceTask} (started : Nat)
    (hk : w.tasks[k]? = some t) (h : (w.openView k).refuses = false) :
    (((attemptOpen k started).run w).run.2).rig.opens = w.rig.opens + 1 ∧
      (t.device.identity, w.streams.size) ∈ (((attemptOpen k started).run w).run.2).rig.streams ∧
      (((attemptOpen k started).run w).run.2).Opened k := by
  have hr : (w.rig.failing.contains t.device.identity ||
      !w.rig.plugged.any (·.identity == t.device.identity)) = false := by
    simpa [World.openView, Rig.refuses, hk] using h
  let P : World → Prop := fun W => W.rig.opens = w.rig.opens + 1 ∧
    (t.device.identity, w.streams.size) ∈ W.rig.streams ∧ W.Opened k
  show P (((attemptOpen k started).run w).run.2)
  unfold attemptOpen
  refine after_get (P := P) (after_task (P := P) hk (after_set (P := P) ?_))
  simp only [hr, Bool.false_eq_true, if_false]
  refine after_get (P := P) ?_
  refine after_bind (P := P) fun _ W₂ h₂ => after_bind (P := P) fun _ W₃ h₃ => ?_
  obtain ⟨ht₂, ho₂⟩ := dropStreamOf_keeps t.device.identity
    { w with rig := { w.rig with opens := w.rig.opens + 1 } }
  rw [h₂] at ht₂ ho₂
  simp only [StateT.run_modify] at h₃
  obtain ⟨-, rfl⟩ := h₃
  have hk₂ : k < W₂.tasks.size := by
    rw [show W₂.tasks = w.tasks from ht₂]
    exact (Array.getElem?_eq_some_iff.mp hk).1
  refine after_opens (P := P) ?_ ?_ hk₂ fun W hW hO => ⟨?_, ?_, hO⟩
  · refine (settles_wake _).bind fun _ =>
      (settles_modifyTask fun _ h => by exact h).bind fun _ => ?_
    exact settles_ite ((settles_wake _).bind fun _ => settles_attach k) (settles_attach k)
  · refine (settles_wake _).bind_opens fun _ =>
      (settles_modifyTask fun _ h => by exact h).bind_opens fun _ => ?_
    exact opens_ite ((settles_wake _).bind_opens fun _ => opens_attach) opens_attach
  · rw [hW]
    exact ho₂
  · simp [hW]

/-! ## Shutdown during a wait -/

/-- A step that only wakes tasks: it leaves everything else, and a ready task stays ready. -/
def Wakes {α : Type} (x : Sim α) : Prop :=
  ∀ w : World, ∃ ready, ((x.run w).run.2) = { w with ready } ∧ w.ready ⊆ ready

theorem wakes_pure {α : Type} (a : α) : Wakes (pure a : Sim α) :=
  fun w => ⟨w.ready, rfl, List.Subset.refl _⟩

theorem Wakes.bind {α β : Type} {x : Sim α} {f : α → Sim β} (hx : Wakes x)
    (hf : ∀ a, Wakes (f a)) : Wakes (x >>= f) := by
  intro w
  simp only [StateT.run_bind, Id.run_bind]
  obtain ⟨r₁, h₁, s₁⟩ := hx w
  obtain ⟨r₂, h₂, s₂⟩ := hf ((x.run w).run.1) ((x.run w).run.2)
  rw [h₁] at s₂
  rw [h₂, h₁]
  exact ⟨r₂, rfl, List.Subset.trans s₁ s₂⟩

theorem wakes_forIn {α β : Type} (l : List α) (b : β) {body : α → β → Sim (ForInStep β)}
    (h : ∀ a b, Wakes (body a b)) : Wakes (forIn l b body) := by
  intro w
  induction l generalizing b w with
  | nil => exact ⟨w.ready, rfl, List.Subset.refl _⟩
  | cons a l ih =>
    simp only [List.forIn_cons, StateT.run_bind, Id.run_bind]
    obtain ⟨r₁, h₁, s₁⟩ := h a b w
    split
    · exact ⟨r₁, h₁, s₁⟩
    · obtain ⟨r₂, h₂, s₂⟩ := ih _ ((((body a b).run w).run.2))
      rw [h₁] at s₂
      rw [h₂, h₁]
      exact ⟨r₂, rfl, List.Subset.trans s₁ s₂⟩

theorem wakes_wake (t : TaskId) : Wakes (wake t) := by
  intro w
  simp only [wake, StateT.run_modify, Id.run_pure]
  split
  · exact ⟨w.ready, rfl, List.Subset.refl _⟩
  · exact ⟨w.ready ++ [t], rfl, List.subset_append_left _ _⟩

theorem mem_ready_wake (t : TaskId) (w : World) : t ∈ (((wake t).run w).run.2).ready := by
  simp only [wake, StateT.run_modify, Id.run_pure]
  split
  · rename_i h
    exact List.contains_iff_mem.mp h
  · simp

/-- After a step that only wakes tasks, the world is the one before but for the ready tasks. -/
theorem after_wakes {α : Type} {x : Sim α} (hx : Wakes x) {w : World} {P : World → Prop}
    (h : ∀ ready, w.ready ⊆ ready → P { w with ready }) : P ((x.run w).run.2) := by
  obtain ⟨r, h₁, h₂⟩ := hx w
  rw [h₁]
  exact h r h₂

/-- A task ready after the first of two steps, the second of which only wakes tasks, is ready
after both. -/
theorem mem_ready_bind {α β : Type} {x : Sim α} {f : α → Sim β} {t : TaskId}
    (hx : ∀ w : World, t ∈ ((x.run w).run.2).ready) (hf : ∀ a, Wakes (f a)) (w : World) :
    t ∈ (((x >>= f).run w).run.2).ready := by
  simp only [StateT.run_bind, Id.run_bind]
  obtain ⟨r, h, hs⟩ := hf ((x.run w).run.1) ((x.run w).run.2)
  rw [h]
  exact hs (hx w)

/-- A loop of steps that only wake tasks and always go on only wakes tasks, among them whatever
one of its turns wakes. -/
theorem mem_ready_forIn {α : Type} {l : List α} {body : α → PUnit → Sim (ForInStep PUnit)}
    (hw : ∀ a, Wakes (body a ⟨⟩)) (hy : ∀ a (w : World), ((body a ⟨⟩).run w).run.1 = .yield ⟨⟩)
    {a : α} (ha : a ∈ l) {t : TaskId} (ht : ∀ w : World, t ∈ (((body a ⟨⟩).run w).run.2).ready)
    (w : World) : ∃ ready, ((forIn l ⟨⟩ body).run w).run.2 = { w with ready } ∧
      w.ready ⊆ ready ∧ t ∈ ready := by
  induction l generalizing w with
  | nil => exact absurd ha List.not_mem_nil
  | cons a' l ih =>
    simp only [List.forIn_cons, StateT.run_bind, Id.run_bind, hy a' w]
    obtain ⟨r₁, h₁, s₁⟩ := hw a' w
    rcases List.mem_cons.mp ha with rfl | ha'
    · obtain ⟨r₂, h₂, s₂⟩ := wakes_forIn l ⟨⟩ (fun a _ => hw a) (((body a ⟨⟩).run w).run.2)
      have hm := ht w
      rw [h₁] at s₂ hm
      rw [h₂, h₁]
      exact ⟨r₂, rfl, List.Subset.trans s₁ s₂, s₂ hm⟩
    · obtain ⟨r₂, h₂, s₂, hm⟩ := ih ha' (((body a' ⟨⟩).run w).run.2)
      rw [h₁] at s₂
      rw [h₂, h₁]
      exact ⟨r₂, rfl, List.Subset.trans s₁ s₂, hm⟩

/-- Firing shutdown touches nothing but the shutdown and the ready tasks, and wakes a task
waiting to open its device again. -/
theorem fireShutdown_opening {k started resumeAt : Nat} {w : World} {t : DeviceTask}
    (hk : w.tasks[k]? = some t) (hs : t.stage = .opening started resumeAt)
    (hf : w.shutdown.fired = false) :
    ∃ ready, (fireShutdown.run w).run.2 = { w with shutdown := w.shutdown.fire, ready } ∧
      TaskId.device k ∈ ready := by
  have hmem : (t, k) ∈ w.tasks.toList.zipIdx := by
    rw [List.mem_zipIdx_iff_getElem?, Array.getElem?_toList]
    exact hk
  let P : World → Prop := fun W =>
    ∃ ready, W = { w with shutdown := w.shutdown.fire, ready } ∧ TaskId.device k ∈ ready
  show P _
  unfold fireShutdown
  refine after_get (P := P) ?_
  simp only [hf, Bool.false_eq_true, if_false]
  refine after_set (P := P)
    (after_bind (P := P) fun _ W₂ h₂ => after_bind (P := P) fun _ W₃ h₃ => ?_)
  obtain ⟨r₂, hW₂, -⟩ := wakes_wake .manager { w with shutdown := w.shutdown.fire }
  rw [h₂] at hW₂
  obtain ⟨r₃, hW₃, -, hm₃⟩ : ∃ r₃, W₃ = { W₂ with ready := r₃ } ∧ W₂.ready ⊆ r₃ ∧
      TaskId.device k ∈ r₃ := by
    have e₃ := congrArg Prod.snd h₃
    dsimp only at e₃
    rw [← e₃]
    refine mem_ready_forIn ?_ ?_ hmem ?_ W₂
    · intro x
      split
      · exact (wakes_wake _).bind fun _ => wakes_pure _
      · exact wakes_pure _
    · intro x W
      split <;> rfl
    · intro W
      simp only [hs]
      exact mem_ready_bind (mem_ready_wake _) (fun _ => wakes_pure _) W
  refine after_wakes (P := P) ((wakes_forIn _ _ fun _ _ => (wakes_wake _).bind fun _ =>
    wakes_pure _).bind fun _ => wakes_pure _) fun r hr => ⟨r, ?_, hr (hW₃ ▸ hm₃)⟩
  rw [hW₃, show W₂ = _ from hW₂]

end Sim

/-! ## The open loop in virtual time -/

namespace World

open Sim

variable {k : Nat}

/-- Each wake-up is made of steps of the system: the clock moves on to the time the retry timer
was set for, and the task runs. -/
theorem openStep_steps (k : Nat) (w : World) : Relation.ReflTransGen Step w (w.openStep k) := by
  unfold openStep
  cases hk : w.tasks[k]? with
  | none =>
    rw [show w.stageOf k = none by simp [stageOf, hk]]
  | some t =>
    have hsize : k < w.tasks.size := (Array.getElem?_eq_some_iff.mp hk).1
    rw [stageOf_of_task hk]
    cases t.stage with
    | fresh => exact .single (.poll (.device k) hsize)
    | opening started resumeAt => exact .head (.clock resumeAt) (.single (.poll (.device k) hsize))
    | running | detached | done => exact .refl

/-- As long as the rig refuses the device and shutdown does not fire, wake-up `n + 1` of a task
not yet run leaves its open loop right after attempt `min n (timeout ⌈/⌉ retry)`. -/
theorem openView_iterate_refused {w : World} (hs : w.stageOf k = some .fresh)
    (h : (w.openView k).refuses = true) (hf : w.shutdown.fired = false)
    (hr : 0 < w.settings.openRetryMs) (n : Nat) :
    ((openStep k)^[n + 1] w).openView k = (w.openView k).afterRefused
      (min n (w.settings.openTimeoutMs ⌈/⌉ w.settings.openRetryMs)) := by
  rw [openView_iterate h, OpenView.wake_iterate hs hf hr]
  rfl

/-- Every attempt refused and shutdown not firing, a task not yet run, with a nonzero retry
interval, makes one attempt each retry interval, `timeout ⌈/⌉ retry + 1` in all: after each of the
first `timeout ⌈/⌉ retry` it waits for the next, the timeout not yet passed, and after the last it
has ended, the timeout passed and shutdown not fired. -/
theorem refused_open_retries {w : World} (hs : w.stageOf k = some .fresh)
    (h : (w.openView k).refuses = true) (hf : w.shutdown.fired = false)
    (hr : 0 < w.settings.openRetryMs) :
    (∀ n, ((openStep k)^[n] w).rig.opens =
      w.rig.opens + min n (w.settings.openTimeoutMs ⌈/⌉ w.settings.openRetryMs + 1)) ∧
    (∀ n, n < w.settings.openTimeoutMs ⌈/⌉ w.settings.openRetryMs →
      ((openStep k)^[n + 1] w).stageOf k =
        some (.opening w.now (w.now + (n + 1) * w.settings.openRetryMs)) ∧
      ((openStep k)^[n + 1] w).now = w.now + n * w.settings.openRetryMs ∧
      n * w.settings.openRetryMs < w.settings.openTimeoutMs) ∧
    (∀ n, w.settings.openTimeoutMs ⌈/⌉ w.settings.openRetryMs ≤ n →
      ((openStep k)^[n + 1] w).stageOf k = some .done ∧
      ((openStep k)^[n + 1] w).now =
        w.now + w.settings.openTimeoutMs ⌈/⌉ w.settings.openRetryMs * w.settings.openRetryMs ∧
      w.settings.openTimeoutMs ≤
        w.settings.openTimeoutMs ⌈/⌉ w.settings.openRetryMs * w.settings.openRetryMs ∧
      ((openStep k)^[n + 1] w).shutdown.fired = false) := by
  have key := w.settings.openTimeoutMs_le_iff hr
  have hv := openView_iterate_refused hs h hf hr
  refine ⟨fun n => ?_, fun n hn => ?_, fun n hn => ?_⟩
  · cases n with
    | zero => simp
    | succ n =>
      have ho := congrArg OpenView.opens (hv n)
      simp only [openView_opens, OpenView.afterRefused] at ho
      rw [ho]
      omega
  · have hj : ¬ w.settings.openTimeoutMs ≤ n * w.settings.openRetryMs := by
      rw [key]
      omega
    have hvn := hv n
    rw [Nat.min_eq_left hn.le] at hvn
    have hst := congrArg OpenView.stage hvn
    have hnow := congrArg OpenView.now hvn
    simp only [openView_stage, openView_now, openView_settings, OpenView.afterRefused, hj,
      if_false] at hst hnow
    exact ⟨hst, hnow, Nat.lt_of_not_le hj⟩
  · -- the loop ended at attempt `timeout ⌈/⌉ retry`, the first once the timeout had passed
    have hj := (key _).2 le_rfl
    have hvn := hv n
    rw [Nat.min_eq_right hn] at hvn
    have hst := congrArg OpenView.stage hvn
    have hnow := congrArg OpenView.now hvn
    have hc := congrArg OpenView.cancelled hvn
    simp only [openView_stage, openView_now, openView_cancelled, openView_settings,
      OpenView.afterRefused, hj, if_true] at hst hnow hc
    exact ⟨hst, hnow, hj, hc.trans hf⟩

/-- A due task whose device the rig accepts: one wake-up makes one attempt, which opens the
device's stream, and takes the task past opening. -/
theorem openStep_accepted {w : World} {t : DeviceTask} (hk : w.tasks[k]? = some t)
    (h : (w.openView k).refuses = false)
    (hdue : t.stage = .fresh ∨
      ∃ started resumeAt, t.stage = .opening started resumeAt ∧ w.shutdown.fired = false) :
    (w.openStep k).rig.opens = w.rig.opens + 1 ∧
      (t.device.identity, w.streams.size) ∈ (w.openStep k).rig.streams ∧
      (w.openStep k).Opened k := by
  rcases hdue with hs | ⟨started, resumeAt, hs, hf⟩
  · simp only [openStep, stageOf_of_task hk, hs]
    rw [pollDevice_fresh hk hs]
    exact attemptOpen_accepted w.now hk h
  · simp only [openStep, stageOf_of_task hk, hs]
    have hk' : ({ w with now := resumeAt } : World).tasks[k]? = some t := hk
    rw [pollDevice_due hk' hs hf le_rfl]
    exact attemptOpen_accepted started hk' h

/-- Running a task past opening its device never touches the rig again, and leaves it past
opening. -/
theorem Opened.pollDevice {w : World} (h : w.Opened k) :
    w.Settled k (((Sim.pollDevice k).run w).run.2) := by
  obtain ⟨t, hk, ht⟩ := h
  unfold Sim.pollDevice
  refine after_get (P := w.Settled k) (after_task (P := w.Settled k) hk ?_)
  split
  · rename_i hs
    simp [hs] at ht
  · rename_i hs
    simp [hs] at ht
  · exact settles_runEngine k w
  · split
    · exact settles_retire k w
    · exact .refl k w
  · exact .refl k w

/-- Shutdown fired while task `k` waits to open its device again wakes the task, and its open
loop is then as before but for the shutdown. -/
theorem openView_fireShutdown {w : World} {t : DeviceTask} {started resumeAt : Nat}
    (hk : w.tasks[k]? = some t) (hs : t.stage = .opening started resumeAt)
    (ha : w.shutdown.armed = true) (hf : w.shutdown.fired = false) :
    TaskId.device k ∈ ((fireShutdown.run w).run.2).ready ∧
      ((fireShutdown.run w).run.2).tasks = w.tasks ∧
      ((fireShutdown.run w).run.2).openView k = { w.openView k with cancelled := true } := by
  obtain ⟨ready, hW, hm⟩ := fireShutdown_opening hk hs hf
  have hfired : w.shutdown.fire.fired = true := by simp [Scope.fire, ha]
  rw [hW]
  exact ⟨hm, rfl, by simp [openView, stageOf, hfired]⟩

/-- The task woken by shutdown during its wait ends at once: without another attempt, and without
waiting for its timer. -/
theorem pollDevice_after_fireShutdown {w : World} {t : DeviceTask} {started resumeAt : Nat}
    (hk : w.tasks[k]? = some t) (hs : t.stage = .opening started resumeAt)
    (ha : w.shutdown.armed = true) (hf : w.shutdown.fired = false) :
    (((Sim.pollDevice k).run (fireShutdown.run w).run.2).run.2).stageOf k = some .done ∧
      (((Sim.pollDevice k).run (fireShutdown.run w).run.2).run.2).rig.opens = w.rig.opens ∧
      (((Sim.pollDevice k).run (fireShutdown.run w).run.2).run.2).now = w.now := by
  obtain ⟨-, ht, hv⟩ := openView_fireShutdown hk hs ha hf
  have hk' : ((fireShutdown.run w).run.2).tasks[k]? = some t := by rw [ht, hk]
  have hfired := congrArg OpenView.cancelled hv
  rw [openView_cancelled] at hfired
  have hend := openView_completeTask k (fireShutdown.run w).run.2
  rw [← pollDevice_cancelled hk' hs hfired, hv] at hend
  refine ⟨?_, congrArg OpenView.opens hend, congrArg OpenView.now hend⟩
  rw [← openView_stage, hend]
  simp [stageOf, hk']

/-- **Bounded retries when opening a device.** In virtual time, where an attempt takes no time and
each wake-up of device task `k` is made of steps of the system:
* when the rig refuses every attempt and shutdown does not fire, a task not yet run, with a
  nonzero retry interval, makes one attempt each retry interval, `timeout ⌈/⌉ retry + 1` in all:
  after each of the first `timeout ⌈/⌉ retry` it waits for the next, the timeout not yet passed,
  and after the last it has ended, the timeout passed and shutdown not fired;
* an attempt the rig accepts, by a task not yet run or due again, is counted once, the rig
  records the stream it opens, and the task is past opening: its open loop is over, and running
  the task again never touches the rig;
* shutdown fired while the task waits wakes it, and it ends at once, without another attempt. -/
theorem open_retry_laws (k : Nat) :
    (∀ w : World, Relation.ReflTransGen Step w (w.openStep k)) ∧
    -- every attempt refused: `timeout ⌈/⌉ retry + 1` attempts, one each retry interval
    (∀ w : World, w.stageOf k = some .fresh → (w.openView k).refuses = true →
      w.shutdown.fired = false → 0 < w.settings.openRetryMs →
      (∀ n, ((openStep k)^[n] w).rig.opens =
        w.rig.opens + min n (w.settings.openTimeoutMs ⌈/⌉ w.settings.openRetryMs + 1)) ∧
      (∀ n, n < w.settings.openTimeoutMs ⌈/⌉ w.settings.openRetryMs →
        ((openStep k)^[n + 1] w).stageOf k =
          some (.opening w.now (w.now + (n + 1) * w.settings.openRetryMs)) ∧
        ((openStep k)^[n + 1] w).now = w.now + n * w.settings.openRetryMs ∧
        n * w.settings.openRetryMs < w.settings.openTimeoutMs) ∧
      (∀ n, w.settings.openTimeoutMs ⌈/⌉ w.settings.openRetryMs ≤ n →
        ((openStep k)^[n + 1] w).stageOf k = some .done ∧
        ((openStep k)^[n + 1] w).now =
          w.now + w.settings.openTimeoutMs ⌈/⌉ w.settings.openRetryMs * w.settings.openRetryMs ∧
        w.settings.openTimeoutMs ≤
          w.settings.openTimeoutMs ⌈/⌉ w.settings.openRetryMs * w.settings.openRetryMs ∧
        ((openStep k)^[n + 1] w).shutdown.fired = false)) ∧
    (∀ (w : World) (t : DeviceTask), w.tasks[k]? = some t → (w.openView k).refuses = false →
      (t.stage = .fresh ∨
        ∃ started resumeAt, t.stage = .opening started resumeAt ∧ w.shutdown.fired = false) →
      (w.openStep k).rig.opens = w.rig.opens + 1 ∧
      (t.device.identity, w.streams.size) ∈ (w.openStep k).rig.streams ∧
      (w.openStep k).openStep k = w.openStep k ∧
      ∀ W : World, W.Opened k → (((pollDevice k).run W).run.2).rig = W.rig ∧
        (((pollDevice k).run W).run.2).Opened k) ∧
    (∀ (w : World) (t : DeviceTask) (started resumeAt : Nat), w.tasks[k]? = some t →
      t.stage = .opening started resumeAt → w.shutdown.armed = true → w.shutdown.fired = false →
      TaskId.device k ∈ ((fireShutdown.run w).run.2).ready ∧
      (((pollDevice k).run (fireShutdown.run w).run.2).run.2).stageOf k = some .done ∧
      (((pollDevice k).run (fireShutdown.run w).run.2).run.2).rig.opens = w.rig.opens ∧
      (((pollDevice k).run (fireShutdown.run w).run.2).run.2).now = w.now) := by
  refine ⟨openStep_steps k, fun w hs h hf hr => refused_open_retries hs h hf hr,
    fun w t hk h hdue => ?_, fun w t started resumeAt hk hs ha hf =>
      ⟨(openView_fireShutdown hk hs ha hf).1, pollDevice_after_fireShutdown hk hs ha hf⟩⟩
  obtain ⟨ho, hstream, hopen⟩ := openStep_accepted hk h hdue
  exact ⟨ho, hstream, openStep_of_opened hopen, fun W hW =>
    ⟨hW.pollDevice.rig, hW.pollDevice.opened hW⟩⟩

/-- A keypad with the default settings: never plugged in, its task ends after its 51st attempt,
five seconds after the first; plugged in, it opens at the first; and shutdown fired while it
waits wakes it. -/
theorem open_retry_laws_keypad :
    let keypad : Device := { identity := {}, name := "keypad", kind := .keyboard }
    let w : World :=
      { settings := {}
        store := { userDir := "user", factoryDir := "factory" }
        tasks := #[{ device := keypad, profile := default }] }
    ((openStep 0)^[51] w).rig.opens = 51 ∧ ((openStep 0)^[51] w).stageOf 0 = some .done ∧
      ((openStep 0)^[51] w).now = 5000 ∧
      ({ w with rig := { plugged := [keypad] } }.openStep 0).rig.opens = 1 ∧
      TaskId.device 0 ∈ ((fireShutdown.run { w with
        tasks := #[{ device := keypad, profile := default, stage := .opening 0 100 }] }).run.2).ready := by
  intro keypad w
  have ha := (open_retry_laws 0).2.1 w rfl rfl rfl (by decide)
  have hb :=
    (open_retry_laws 0).2.2.1 { w with rig := { plugged := [keypad] } } _ rfl rfl (.inl rfl)
  have hc := (open_retry_laws 0).2.2.2
    { w with tasks := #[{ device := keypad, profile := default, stage := .opening 0 100 }] } _ 0 100
    rfl rfl rfl rfl
  have hdone := ha.2.2 50 (by decide)
  exact ⟨(ha.1 51).trans (by decide), hdone.1, hdone.2.1.trans (by decide), hb.1, hc.1⟩

end World

end KeyMidi
