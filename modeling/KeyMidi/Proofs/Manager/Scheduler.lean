import KeyMidi.Proofs.Manager.Runs
/-!
# The scheduler runs only tasks that exist

The runs of `World.Step` may run any device task that has been spawned. The session's scheduler
runs the tasks on its ready list, so it is one of those runs as long as every device task on the
list exists. It does, and so does every device task a retry timer will wake (`World.Tracks`):
a device task is woken only by its own steps (a throttle handing it input, its echo draining, a
retry), by its stream, by shutdown while it opens, or when it is spawned, and the number of
tasks never goes down.

`Sim.Sound m x` says that `x` keeps this once there are at least `m` tasks; a step of device task
`k` is sound once there are `k + 1` (`sound_pollDevice`), and a throttle, an emitter or an echo
runs only for a task that exists, because the default task it would read otherwise has no
throttle and is not detached (`lt_size_of_getD`). From there the scheduler's turns, an instant
and a whole session are runs (`Sim.Runs`, `runs_go`), and a session from a blank world keeps the
books to its end (`Blank.session_good`).
-/

namespace KeyMidi

open KeyMidi.Midi

namespace World

/-- The scheduler's references to device tasks name tasks that exist, and there are at least
`n` of them: every device task that is ready to run, and every device task a retry timer will
wake. -/
def Tracks (n : Nat) (w : World) : Prop :=
  n ≤ w.tasks.size ∧ (∀ k, TaskId.device k ∈ w.ready → k < w.tasks.size) ∧
    ∀ tm ∈ w.timers, ∀ k, tm.alarm = .retry k → k < w.tasks.size

theorem Tracks.narrow {n m : Nat} {w : World} (h : w.Tracks m) (hn : n ≤ m) : w.Tracks n :=
  ⟨hn.trans h.1, h.2⟩

theorem Tracks.widen {n : Nat} {w : World} (h : w.Tracks n) : w.Tracks w.tasks.size :=
  ⟨le_rfl, h.2⟩

end World

namespace Sim

open World

/-- A step that keeps the scheduler's references sound once there are at least `m` tasks. -/
def Sound {α : Type} (m : Nat) (x : Sim α) : Prop :=
  ∀ n, m ≤ n → ∀ w : World, w.Tracks n → ((x.run w).run.2).Tracks n

theorem Sound.mono {α : Type} {m m' : Nat} {x : Sim α} (h : Sound m x) (hm : m ≤ m') : Sound m' x :=
  fun n hn => h n (hm.trans hn)

/-- A step sound once the tasks of a world exist may run there. -/
theorem Sound.here {α : Type} {n : Nat} {x : Sim α} {w : World} (h : Sound w.tasks.size x)
    (hw : w.Tracks n) : ((x.run w).run.2).Tracks n :=
  (h _ le_rfl w hw.widen).narrow hw.1

/-- A step sound once task `k` exists may run where it does. -/
theorem Sound.at {α : Type} {k n : Nat} {x : Sim α} (h : Sound (k + 1) x) {w : World}
    (hk : k < w.tasks.size) (hw : w.Tracks n) : ((x.run w).run.2).Tracks n :=
  (h.mono hk).here hw

theorem sound_pure {α : Type} (m : Nat) (a : α) : Sound m (pure a : Sim α) := fun _ _ _ hw => hw

theorem Sound.bind {α β : Type} {m : Nat} {x : Sim α} {f : α → Sim β} (hx : Sound m x)
    (hf : ∀ a, Sound m (f a)) : Sound m (x >>= f) := by
  intro n hn w hw
  simp only [StateT.run_bind, Id.run_bind]
  exact hf _ n hn _ (hx n hn w hw)

theorem Sound.map {α β : Type} {m : Nat} {x : Sim α} (f : α → β) (hx : Sound m x) :
    Sound m (f <$> x) := by
  rw [← bind_pure_comp]
  exact hx.bind fun _ => sound_pure _ _

theorem sound_ite {α : Type} {m : Nat} {c : Prop} [Decidable c] {x y : Sim α} (hx : Sound m x)
    (hy : Sound m y) : Sound m (if c then x else y) := by
  split <;> assumption

theorem sound_forIn {α β : Type} {m : Nat} (l : List α) (b : β) {body : α → β → Sim (ForInStep β)}
    (h : ∀ a ∈ l, ∀ b, Sound m (body a b)) : Sound m (forIn l b body) := by
  intro n hn w hw
  induction l generalizing b w with
  | nil => exact hw
  | cons a l ih =>
    simp only [List.forIn_cons, StateT.run_bind, Id.run_bind]
    have ha := h a List.mem_cons_self b n hn w hw
    split
    · exact ha
    · exact ih _ (fun a' ha' => h a' (List.mem_cons_of_mem _ ha')) _ ha

/-- A step that reads the world and then acts is sound when it is from every world it can read. -/
theorem sound_get_bind {α : Type} {m : Nat} {f : World → Sim α}
    (h : ∀ w n, m ≤ n → w.Tracks n → (((f w).run w).run.2).Tracks n) : Sound m (get >>= f) := by
  intro n hn w hw
  simp only [StateT.run_bind, StateT.run_get, Id.run_bind, Id.run_pure]
  exact h w n hn hw

/-- Sound steps can be stepped over; the tasks there are stay. -/
theorem after_sound {α β : Type} {m n : Nat} {x : Sim α} {f : α → Sim β} {w : World}
    {P : World → Prop} (hx : Sound m x) (hm : m ≤ w.tasks.size) (hw : w.Tracks n)
    (h : ∀ a w', w'.Tracks n → w.tasks.size ≤ w'.tasks.size → P (((f a).run w').run.2)) :
    P (((x >>= f).run w).run.2) := by
  simp only [StateT.run_bind, Id.run_bind]
  have hw' := hx _ hm w hw.widen
  exact h _ _ (hw'.narrow hw.1) hw'.1

/-- A step that leaves the ready tasks, the timers and the number of tasks is sound. -/
theorem sound_quiet {α : Type} {m : Nat} {x : Sim α}
    (h : ∀ w : World, ((x.run w).run.2).ready = w.ready ∧ ((x.run w).run.2).timers = w.timers ∧
      ((x.run w).run.2).tasks.size = w.tasks.size) : Sound m x := by
  intro n _ w hw
  obtain ⟨hr, ht, hs⟩ := h w
  refine ⟨hs ▸ hw.1, fun k hk => ?_, fun tm htm k hk => ?_⟩
  · rw [hs]
    exact hw.2.1 k (hr ▸ hk)
  · rw [hs]
    exact hw.2.2 tm (ht ▸ htm) k hk

/-- Waking a task is sound when it is not a device task beyond the first `m`. -/
theorem sound_wake {m : Nat} (t : TaskId) (h : ∀ k, t = .device k → k < m) : Sound m (wake t) := by
  intro n hn w hw
  simp only [wake, StateT.run_modify, Id.run_pure]
  split
  · exact hw
  · refine ⟨hw.1, fun k hk => ?_, hw.2.2⟩
    rcases List.mem_append.mp hk with hk | hk
    · exact hw.2.1 k hk
    · exact (h k (List.mem_singleton.mp hk).symm).trans_le (hn.trans hw.1)

/-- Setting a timer is sound when it does not retry a device task beyond the first `m`. -/
theorem sound_setTimer {m : Nat} (at_ : Nat) (alarm : Alarm) (h : ∀ k, alarm = .retry k → k < m) :
    Sound m (setTimer at_ alarm) := by
  intro n hn w hw
  refine ⟨hw.1, hw.2.1, fun tm htm k hk => ?_⟩
  simp only [setTimer, StateT.run_modify, Id.run_pure, List.mem_append, List.mem_singleton] at htm
  rcases htm with htm | rfl
  · exact hw.2.2 tm htm k hk
  · exact (h k hk).trans_le (hn.trans hw.1)

theorem sound_clearTimers (m : Nat) (alarm : Alarm) : Sound m (clearTimers alarm) := by
  intro n _ w hw
  refine ⟨hw.1, hw.2.1, fun tm htm k hk => ?_⟩
  simp only [clearTimers, StateT.run_modify, Id.run_pure, List.mem_filter] at htm
  exact hw.2.2 tm htm.1 k hk

theorem sound_task (m k : Nat) : Sound m (task k) :=
  sound_quiet fun w => by simp

theorem sound_modifyTask (m k : Nat) (g : DeviceTask → DeviceTask) : Sound m (modifyTask k g) :=
  sound_quiet fun w => by simp [modifyTask]

theorem sound_modifyStream (m s : Nat) (g : Stream → Stream) : Sound m (modifyStream s g) :=
  sound_quiet fun w => by simp [modifyStream]

theorem sound_sendMidi (m : Nat) (ps : List Packet) : Sound m (sendMidi ps) :=
  sound_quiet fun w => by simp [sendMidi]

/-- The reader of a stream, when it is a device task, is one that exists. -/
theorem streamReader_device {s k : Nat} {w : World}
    (h : ((streamReader s).run w).run.1 = some (.device k)) : k < w.tasks.size := by
  simp only [streamReader, StateT.run_bind, StateT.run_get, Id.run_bind, Id.run_pure] at h
  split at h
  · rename_i t j hfind
    have hj : j < w.tasks.toList.length := by
      simpa using List.snd_lt_of_mem_zipIdx (List.mem_of_find?_eq_some hfind)
    simp only [StateT.run_pure, Id.run_pure, Option.some.injEq] at h
    split at h
    · cases h
    · cases h
      simpa using hj
  · simp at h

/-- What follows the lookup of a stream's reader may rely on the reader existing. -/
theorem sound_streamReader_bind {β : Type} {m s : Nat} {f : Option TaskId → Sim β}
    (hf : ∀ r j, (∀ k, r = some (.device k) → k < j) → m ≤ j → Sound j (f r)) :
    Sound m (streamReader s >>= f) := by
  intro n hn w hw
  simp only [StateT.run_bind, Id.run_bind, run_streamReader_snd]
  exact (hf _ w.tasks.size (fun k hk => streamReader_device hk) (hn.trans hw.1)).here hw

/-- Waking the reader of a stream, if there is one. -/
theorem sound_wake_reader (m s : Nat) :
    Sound m (do if let some r ← streamReader s then wake r) := by
  refine sound_streamReader_bind fun r j hr _ => ?_
  split
  · exact sound_wake _ fun k hk => hr k (hk ▸ rfl)
  · exact sound_pure _ _

theorem sound_dropStreamOf (m : Nat) (i : Identity) : Sound m (dropStreamOf i) := by
  intro n hn w hw
  unfold dropStreamOf
  refine after_get ?_
  split
  · exact hw
  · refine after_set (after_sound (sound_modifyStream m _ _) (hn.trans hw.1) hw fun _ w₂ hw₂ _ => ?_)
    exact sound_wake_reader m _ n hn w₂ hw₂

theorem sound_fireShutdown (m : Nat) : Sound m fireShutdown := by
  intro n hn w hw
  unfold fireShutdown
  refine after_get ?_
  split
  · exact hw
  refine after_set (after_sound (sound_wake .manager (by simp)) (Nat.zero_le _) hw fun _ w₂ hw₂ hs₂ => ?_)
  refine after_sound (sound_forIn _ _ fun p hp _ => ?_) hs₂ hw₂ fun _ w₃ hw₃ _ => ?_
  · obtain ⟨t, k⟩ := p
    have hk : k < w.tasks.size := by
      simpa using List.snd_lt_of_mem_zipIdx hp
    dsimp only
    split
    · refine (sound_wake _ fun j hj => ?_).bind fun _ => sound_pure _ _
      obtain rfl := TaskId.device.inj hj
      exact hk
    · exact sound_pure _ _
  · exact sound_forIn _ _ (fun _ _ _ => (sound_wake _ (by simp)).bind fun _ => sound_pure _ _)
      n (Nat.zero_le _) w₃ hw₃

theorem sound_closeInput (m : Nat) (t : DeviceTask) : Sound m (closeInput t) :=
  sound_quiet fun w => by
    obtain ⟨_, h⟩ := closeInput_eq t w
    rw [h]
    exact ⟨rfl, rfl, rfl⟩

theorem sound_completeTask (m k : Nat) : Sound m (completeTask k) :=
  (sound_task m k).bind fun _ => (sound_modifyTask m k _).bind fun _ =>
    (sound_closeInput m _).bind fun _ => (sound_quiet fun w => by simp).bind fun _ =>
      sound_wake _ (by simp)

/-- A device task's own wake is sound once the task exists. -/
theorem sound_wake_device (k : Nat) : Sound (k + 1) (wake (.device k)) :=
  sound_wake _ fun j hj => by
    obtain rfl := TaskId.device.inj hj
    exact Nat.lt_succ_self _

theorem sound_pass (k : Nat) (ev : InputEvent) : Sound (k + 1) (pass k ev) := by
  unfold pass
  refine (sound_task _ k).bind fun t => sound_ite ?_ (sound_pure _ _)
  exact (sound_modifyTask _ k _).bind fun _ => (sound_wake_device k).bind fun _ => sound_pure _ _

theorem sound_stopThrottle (k : Nat) : Sound (k + 1) (stopThrottle k) := by
  unfold stopThrottle
  refine (sound_task _ k).bind fun t => ?_
  refine (sound_forIn _ _ fun _ _ _ => (sound_clearTimers _ _).bind fun _ => sound_pure _ _).bind
    fun _ => (sound_modifyTask _ k _).bind fun _ => ?_
  dsimp only
  split
  · exact (sound_modifyStream _ _ _).bind fun _ => sound_wake_device k
  · exact sound_wake_device k

theorem sound_takeInput (m k : Nat) : Sound m (takeInput k) := by
  unfold takeInput
  refine (sound_task m k).bind fun t => sound_ite ?_ ?_
  · exact (sound_modifyTask m k _).bind fun _ => sound_pure _ _
  · split
    · exact sound_pure _ _
    · exact (sound_quiet fun w => by simp).bind fun _ =>
        (sound_modifyStream m _ _).bind fun _ => sound_pure _ _

theorem sound_triggerExit (m : Nat) : Sound m triggerExit := by
  unfold triggerExit
  refine (sound_quiet fun w => by simp).bind fun mode => ?_
  split
  · exact sound_pure _ _
  · exact sound_quiet fun w => by simp
  · exact sound_fireShutdown m

theorem sound_retire (m k : Nat) : Sound m (retire k) :=
  (sound_quiet fun w => by simp).bind fun _ => sound_completeTask m k

theorem sound_detachOutput (m : Nat) (t : DeviceTask) : Sound m (detachOutput t) := by
  unfold detachOutput
  refine sound_get_bind fun w n _ hw => ?_
  split
  · exact hw
  · exact hw

theorem sound_runEngine (m k : Nat) : Sound m (runEngine k) := by
  unfold runEngine
  refine (sound_takeInput m k).bind fun ⟨events, ended⟩ => ?_
  refine (sound_forIn _ _ fun ev _ _ => ?_).bind fun _ => sound_ite ?_ (sound_pure _ _)
  · refine (sound_task m k).bind fun t => ?_
    split
    refine (sound_modifyTask m k _).bind fun _ => (sound_sendMidi m _).bind fun _ => ?_
    exact sound_ite ((sound_triggerExit m).bind fun _ => sound_pure _ _) (sound_pure _ _)
  · refine (sound_task m k).bind fun t => ?_
    split
    refine (sound_sendMidi m _).bind fun _ => (sound_modifyTask m k _).bind fun _ => ?_
    refine (sound_closeInput m _).bind fun _ => (sound_detachOutput m _).bind fun _ => ?_
    refine (sound_wake _ (by simp)).bind fun _ => (sound_task m k).bind fun _ => ?_
    exact sound_ite (sound_retire m k) (sound_pure _ _)

/-- A step that reads a task and then acts is sound when it is from every world it can read the
task in. -/
theorem sound_task_bind {α : Type} {m k : Nat} {f : DeviceTask → Sim α}
    (h : ∀ w n, m ≤ n → w.Tracks n → (((f (w.tasks[k]?.getD default)).run w).run.2).Tracks n) :
    Sound m (task k >>= f) := by
  intro n hn w hw
  simp only [StateT.run_bind, Id.run_bind, run_task]
  exact h w n hn hw

/-- A task read with a property the default task lacks is one that exists. -/
theorem lt_size_of_getD {w : World} {k : Nat} {p : DeviceTask → Prop} (hd : ¬ p default)
    (h : p (w.tasks[k]?.getD default)) : k < w.tasks.size := by
  by_contra hk
  rw [Array.getElem?_eq_none (by omega), Option.getD_none] at h
  exact hd h

theorem sound_get (m : Nat) : Sound m (get : Sim World) := sound_quiet fun w => by simp

theorem sound_attach (m k : Nat) : Sound m (attach k) := by
  unfold attach
  refine sound_get_bind fun w n hn hw => ?_
  split
  · exact sound_completeTask m k n hn w hw
  · refine after_set ?_
    exact ((sound_modifyTask m k _).bind fun _ => (sound_wake _ (by simp)).bind fun _ =>
      sound_runEngine m k) n hn _ hw

theorem sound_attemptOpen (k started : Nat) : Sound (k + 1) (attemptOpen k started) := by
  unfold attemptOpen
  refine sound_get_bind fun w n hn hw => ?_
  refine after_sound (sound_task 0 k) (Nat.zero_le _) hw fun t _ _ _ => after_set ?_
  split
  · split
    · exact sound_completeTask _ k n hn _ hw
    · refine ((sound_modifyTask _ k _).bind fun _ => sound_setTimer _ _ fun j hj => ?_) n hn _ hw
      obtain rfl := Alarm.retry.inj hj
      exact Nat.lt_succ_self _
  · refine ((sound_get _).bind fun _ => (sound_dropStreamOf _ _).bind fun _ =>
      (sound_quiet fun w => by simp).bind fun _ => (sound_wake _ (by simp)).bind fun _ =>
        (sound_modifyTask _ k _).bind fun _ => ?_) n hn _ hw
    dsimp only
    exact sound_ite ((sound_wake _ (by simp)).bind fun _ => sound_attach _ k) (sound_attach _ k)

theorem sound_pollDevice (k : Nat) : Sound (k + 1) (pollDevice k) := by
  unfold pollDevice
  refine sound_get_bind fun w n hn hw => ?_
  refine ((sound_task _ k).bind fun t => ?_) n hn w hw
  split
  · exact sound_attemptOpen k _
  · exact sound_ite (sound_completeTask _ k) (sound_ite (sound_attemptOpen k _) (sound_pure _ _))
  · exact sound_runEngine _ k
  · exact sound_ite (sound_retire _ k) (sound_pure _ _)
  · exact sound_pure _ _

/-- A throttle runs only for a device task that exists: the default task has none. -/
theorem sound_pollThrottler (m k : Nat) : Sound m (pollThrottler k) := by
  unfold pollThrottler
  refine sound_task_bind fun w n hn hw => ?_
  split
  · exact hw
  rename_i hth
  have hk : k < w.tasks.size := lt_size_of_getD (p := fun t => t.throttling = true) (by decide)
    (by simpa using hth)
  refine Sound.at ?_ hk hw
  split
  · refine (sound_get _).bind fun _ => (sound_modifyStream _ _ _).bind fun _ => ?_
    refine (sound_forIn _ _ fun ev _ running => ?_).bind fun running =>
      sound_ite (sound_stopThrottle k) (sound_pure _ _)
    refine sound_ite ?_ (sound_pure _ _)
    split
    · exact (sound_pass k _).map _
    · refine (sound_get _).bind fun _ => (sound_task _ k).bind fun _ => ?_
      refine (sound_modifyTask _ k _).bind fun _ => (sound_wake _ (by simp)).bind fun _ => ?_
      split
      · exact (sound_pass k _).map _
      · exact sound_pure _ _
  · exact sound_pure _ _

theorem sound_pollEmitter (m k : Nat) (key : InputId) : Sound m (pollEmitter k key) := by
  unfold pollEmitter
  refine sound_task_bind fun w n hn hw => ?_
  dsimp only
  split
  · exact hw
  rename_i hgate
  have hk : k < w.tasks.size := lt_size_of_getD (p := fun t => t.throttling = true) (by decide)
    (by simp_all)
  refine Sound.at ?_ hk hw
  split
  · refine (sound_modifyTask _ k _).bind fun _ => (sound_clearTimers _ _).bind fun _ => ?_
    split
    · exact sound_setTimer _ _ (by simp)
    · exact sound_pure _ _
  · split
    · refine (sound_get _).bind fun _ => (sound_modifyTask _ k _).bind fun _ => ?_
      split
      · exact (sound_pass k _).bind fun _ => sound_ite (sound_modifyTask _ k _) (sound_pure _ _)
      · exact sound_pure _ _
    · exact sound_pure _ _

theorem sound_pollForwarder (m : Nat) : Sound m pollForwarder := by
  unfold pollForwarder
  refine sound_get_bind fun w n hn hw => after_set ?_
  refine sound_forIn _ _ (fun _ _ _ => ?_) n hn _ hw
  refine sound_ite ?_ (sound_pure _ _)
  refine (sound_quiet fun w => by simp).bind fun _ => ?_
  split
  · exact (sound_wake _ (by simp)).bind fun _ => sound_pure _ _
  · exact sound_pure _ _

/-- An echo wakes its device task only when that task is detached, so it exists. -/
theorem sound_pollEcho (m k : Nat) : Sound m (pollEcho k) := by
  unfold pollEcho
  refine (sound_task m k).bind fun t => sound_ite (sound_pure _ _) ?_
  refine sound_get_bind fun w n hn hw => ?_
  split
  · exact hw
  refine after_set ?_
  refine ((sound_modifyTask m k _).bind fun _ => ?_) n hn _ hw
  dsimp only
  refine sound_ite ((sound_wake _ (by simp)).bind fun _ => ?_) ?_
  -- with the forwarder woken or not, the echo ends once its output is removed
  all_goals
    refine sound_ite ((sound_modifyTask m k _).bind fun _ => ?_) (sound_pure _ _)
    refine sound_task_bind fun w n hn hw => ?_
    split
    · rename_i hd
      have hk : k < w.tasks.size := lt_size_of_getD (p := fun t => t.stage = .detached) (by decide)
        (by simpa using hd)
      exact (sound_wake_device k).at hk hw
    · exact hw

theorem sound_pollCloser (m s : Nat) : Sound m (pollCloser s) := by
  unfold pollCloser
  refine sound_get_bind fun w n hn hw => ?_
  split
  · exact sound_ite ((sound_modifyStream m _ _).bind fun _ => sound_dropStreamOf m _) (sound_pure _ _)
      n hn w hw
  · exact hw

theorem sound_pollDiscovery (m c : Nat) : Sound m (pollDiscovery c) := by
  unfold pollDiscovery
  refine sound_get_bind fun w n hn hw => ?_
  split
  · split
    · exact hw
    refine ((sound_setTimer _ _ (by simp)).bind fun _ => ?_) n hn w hw
    split
    · exact sound_quiet fun w => by simp
    · exact (sound_quiet fun w => by simp).bind fun _ =>
        sound_ite (sound_wake _ (by simp)) (sound_pure _ _)
  · exact hw

theorem sound_startCycle (m : Nat) : Sound m startCycle := by
  unfold startCycle
  exact sound_get_bind fun w n hn hw => after_set ((sound_wake _ (by simp)) n hn _ hw)

theorem sound_endCycle (m : Nat) : Sound m endCycle := by
  unfold endCycle
  refine sound_get_bind fun w n hn hw => ?_
  dsimp only
  split
  · exact ((sound_clearTimers m _).bind fun _ => sound_quiet fun w => by simp) n hn w hw
  · exact (sound_quiet fun w => by simp) n hn w hw

theorem sound_checkDrained (m : Nat) : Sound m checkDrained := by
  unfold checkDrained
  refine sound_get_bind fun w n _ hw => ?_
  split
  · exact hw
  · exact hw

/-- A spawned device task is woken once it exists. -/
theorem sound_spawnDevice (m : Nat) (d : Device) : Sound m (spawnDevice d) := by
  unfold spawnDevice
  refine sound_get_bind fun w n hn hw => ?_
  split
  · exact hw
  split
  · exact hw
  split
  · exact hw
  refine after_set ?_
  have hw₁ : World.Tracks n { w with
      tasks := w.tasks.push { device := d, profile := ‹_› }, claimed := w.claimed ++ [d.identity]
      manager := { w.manager with tasks := w.manager.tasks ++ [w.tasks.size] } } := by
    refine ⟨?_, fun k hk => ?_, fun tm htm k hk => ?_⟩
    · simpa using hw.1.trans (Nat.le_succ _)
    · simpa using Nat.lt_succ_of_lt (hw.2.1 k hk)
    · simpa using Nat.lt_succ_of_lt (hw.2.2 tm htm k hk)
  exact (sound_wake_device w.tasks.size).at (by simp) hw₁

theorem sound_managerLoop (m fuel : Nat) : Sound m (managerLoop fuel) := by
  induction fuel with
  | zero => exact sound_pure _ _
  | succ fuel ih =>
    unfold managerLoop
    refine sound_get_bind fun w n hn hw => ?_
    dsimp only
    split
    · exact ((sound_endCycle m).bind fun _ => (sound_quiet fun w => by simp).bind fun _ =>
        sound_checkDrained m) n hn w hw
    split
    · exact ((sound_endCycle m).bind fun _ => (sound_quiet fun w => by simp).bind fun _ =>
        (sound_startCycle m).bind fun _ => ih) n hn w hw
    split
    · exact ((sound_quiet fun w => by simp).bind fun _ => ih) n hn w hw
    split
    · split
      · exact ((sound_quiet fun w => by simp).bind fun _ => (sound_spawnDevice m _).bind fun _ => ih)
          n hn w hw
      · exact hw
    · exact hw

theorem sound_pollManager (m : Nat) : Sound m pollManager := by
  unfold pollManager
  refine sound_get_bind fun w n hn hw => ?_
  dsimp only
  split
  · split
    · exact hw
    · exact after_set (((sound_startCycle m).bind fun _ => sound_managerLoop m _) n hn _ hw)
  · exact sound_managerLoop m _ n hn w hw
  · exact sound_checkDrained m n hn w hw
  · exact hw

end Sim

namespace World

open Sim

/-- Running a spawned task keeps the scheduler's references sound. -/
theorem Tracks.poll {w : World} {n : Nat} {t : TaskId} (hw : w.Tracks n) (ht : w.Spawned t) :
    (((Sim.poll t).run w).run.2).Tracks n := by
  cases t with
  | manager => exact sound_pollManager 0 n (Nat.zero_le _) w hw
  | discovery c => exact sound_pollDiscovery 0 c n (Nat.zero_le _) w hw
  | device k => exact (sound_pollDevice k).at ht hw
  | throttler k => exact sound_pollThrottler 0 k n (Nat.zero_le _) w hw
  | emitter k key => exact sound_pollEmitter 0 k key n (Nat.zero_le _) w hw
  | forwarder => exact sound_pollForwarder 0 n (Nat.zero_le _) w hw
  | echo k => exact sound_pollEcho 0 k n (Nat.zero_le _) w hw
  | closer s => exact sound_pollCloser 0 s n (Nat.zero_le _) w hw

/-- A task that is ready to run is spawned. -/
theorem Tracks.spawned_of_ready {w : World} {n : Nat} {t : TaskId} (hw : w.Tracks n)
    (ht : t ∈ w.ready) : w.Spawned t := by
  cases t with
  | device k => exact hw.2.1 k ht
  | _ => trivial

end World

namespace Sim

open World

theorem sound_fireTimers (m : Nat) : Sound m fireTimers := by
  unfold fireTimers
  refine sound_get_bind fun w n hn hw => after_set ?_
  have hw₁ : World.Tracks n { w with timers := w.timers.filter (·.at_ > w.now) } :=
    ⟨hw.1, hw.2.1, fun tm htm k hk => hw.2.2 tm (List.mem_filter.mp htm).1 k hk⟩
  refine Sound.here (sound_forIn _ _ fun tm htm _ => ?_) hw₁
  have hdue : tm ∈ w.timers := (List.mem_filter.mp (List.mem_mergeSort.mp htm)).1
  split
  · exact (sound_wake _ (by simp)).bind fun _ => sound_pure _ _
  · rename_i k hk
    refine (sound_wake _ fun j hj => ?_).bind fun _ => sound_pure _ _
    obtain rfl := TaskId.device.inj hj
    exact hw.2.2 tm hdue _ hk
  · exact (sound_modifyTask _ _ _).bind fun _ => (sound_wake _ (by simp)).bind fun _ =>
      sound_pure _ _

/-- Whatever the outside world does keeps the scheduler's references sound. -/
theorem sound_happen (m : Nat) (caps : Capacities) (e : Happening) : Sound m (happen caps e) := by
  cases e with
  | plug d => exact (sound_quiet fun w => by simp).bind fun _ => sound_pure _ _
  | unplug i =>
    exact (sound_quiet fun w => by simp).bind fun _ => (sound_dropStreamOf m i).bind fun _ =>
      sound_pure _ _
  | setFailing i on => exact (sound_quiet fun w => by simp).bind fun _ => sound_pure _ _
  | send i ev =>
    refine sound_get_bind fun w n hn hw => ?_
    split
    · exact hw
    dsimp only
    split
    · exact hw
    split
    · exact hw
    refine ((sound_modifyStream m _ _).bind fun _ => sound_streamReader_bind fun r j hr _ => ?_) n hn w hw
    split
    · exact (sound_wake _ fun k hk => hr k (hk ▸ rfl)).bind fun _ => sound_pure _ _
    · exact sound_pure _ _
  | loopback p =>
    cases p with
    | none => exact sound_pure _ _
    | some p =>
      refine sound_get_bind fun w n hn hw => ?_
      split
      · exact hw
      split
      · exact hw
      exact after_set (((sound_wake _ (by simp)).bind fun _ => sound_pure _ _) n hn _ hw)
  | closeLoopback =>
    exact (sound_quiet fun w => by simp).bind fun _ => (sound_wake _ (by simp)).bind fun _ =>
      sound_pure _ _
  | setEnumerationFails on => exact (sound_quiet fun w => by simp).bind fun _ => sound_pure _ _
  | reconfigure user factory =>
    refine (sound_quiet fun w => by simp).bind fun _ => sound_get_bind fun w n hn hw => ?_
    split
    · exact hw
    split
    · exact hw
    exact after_set (((sound_wake _ (by simp)).bind fun _ => sound_pure _ _) n hn _ hw)
  | closeChanges =>
    exact (sound_quiet fun w => by simp).bind fun _ => (sound_wake _ (by simp)).bind fun _ =>
      sound_pure _ _
  | snapshot =>
    exact (sound_get m).bind fun _ => (sound_quiet fun w => by simp [devices]).bind fun _ =>
      sound_pure _ _
  | shutdown => exact (sound_fireShutdown m).bind fun _ => sound_pure _ _

end Sim

namespace Sim

open World

/-- A part of a session that, from a world whose references are sound, is a run of steps that
keeps them sound. -/
def Runs {α : Type} (x : Sim α) : Prop :=
  ∀ w : World, w.Tracks 0 →
    Relation.ReflTransGen Step w ((x.run w).run.2) ∧ ((x.run w).run.2).Tracks 0

theorem runs_pure {α : Type} (a : α) : Runs (pure a : Sim α) := fun _ hw => ⟨.refl, hw⟩

theorem Runs.bind {α β : Type} {x : Sim α} {f : α → Sim β} (hx : Runs x) (hf : ∀ a, Runs (f a)) :
    Runs (x >>= f) := by
  intro w hw
  simp only [StateT.run_bind, Id.run_bind]
  obtain ⟨h₁, hw₁⟩ := hx w hw
  obtain ⟨h₂, hw₂⟩ := hf _ _ hw₁
  exact ⟨h₁.trans h₂, hw₂⟩

theorem runs_ite {α : Type} {c : Prop} [Decidable c] {x y : Sim α} (hx : Runs x) (hy : Runs y) :
    Runs (if c then x else y) := by
  split <;> assumption

theorem runs_get_bind {α : Type} {f : World → Sim α}
    (h : ∀ w : World, w.Tracks 0 → Relation.ReflTransGen Step w (((f w).run w).run.2) ∧
      (((f w).run w).run.2).Tracks 0) : Runs (get >>= f) := by
  intro w hw
  simp only [StateT.run_bind, StateT.run_get, Id.run_bind, Id.run_pure]
  exact h w hw

theorem runs_happen (caps : Capacities) (e : Happening) : Runs (happen caps e) := fun w hw =>
  ⟨.single (.happen caps e), sound_happen 0 caps e 0 le_rfl w hw⟩

theorem runs_fireTimers : Runs fireTimers := fun w hw =>
  ⟨.single .fireTimers, sound_fireTimers 0 0 le_rfl w hw⟩

/-- Shutting down is what the outside world's shutdown does. -/
theorem runs_fireShutdown (caps : Capacities) : Runs fireShutdown := by
  intro w hw
  have hs : ((fireShutdown.run w).run.2) = (((happen caps .shutdown).run w).run.2) := by
    simp [happen]
  exact ⟨hs ▸ .single (.happen caps .shutdown), sound_fireShutdown 0 0 le_rfl w hw⟩

/-- The scheduler's turns are runs: each turn takes a ready task off the list and runs it, and a
ready task is spawned. -/
theorem runs_runReady (fuel : Nat) : Runs (runReady fuel) := by
  induction fuel with
  | zero => exact runs_pure _
  | succ fuel ih =>
    unfold runReady
    refine runs_get_bind fun w hw => ?_
    split
    · exact ⟨.refl, hw⟩
    · rename_i t rest hready
      simp only [StateT.run_bind, StateT.run_modify, Id.run_bind, Id.run_pure]
      have hw₁ : World.Tracks 0 { w with ready := rest } :=
        ⟨hw.1, fun k hk => hw.2.1 k (hready ▸ List.mem_cons_of_mem _ hk), hw.2.2⟩
      have ht : ({ w with ready := rest } : World).Spawned t :=
        hw.spawned_of_ready (hready ▸ List.mem_cons_self)
      obtain ⟨hr, hw₂⟩ := ih _ (hw₁.poll ht)
      exact ⟨(Relation.ReflTransGen.single (.schedule rest)).trans
        ((Relation.ReflTransGen.single (.poll t ht)).trans hr), hw₂⟩

theorem runs_mapM_happen (caps : Capacities) (cues : List Happening) :
    Runs (cues.mapM (happen caps)) := by
  induction cues with
  | nil => exact runs_pure _
  | cons e cues ih =>
    rw [List.mapM_cons]
    exact (runs_happen caps e).bind fun _ => ih.bind fun _ => runs_pure _

theorem runs_instant (caps : Capacities) (t : Nat) (cues : List Happening) (stopping : Bool) :
    Runs (instant caps t cues stopping) := by
  unfold instant
  refine Runs.bind (fun w hw => ⟨.single (.clock t), hw⟩) fun _ => ?_
  refine runs_fireTimers.bind fun _ => (runs_mapM_happen caps cues).bind fun _ => ?_
  have hrest : Runs (do runReady (runBound (← get))) :=
    runs_get_bind fun w hw => runs_runReady _ w hw
  dsimp only
  exact runs_ite ((runs_fireShutdown caps).bind fun _ => hrest.bind fun _ => runs_pure _)
    (hrest.bind fun _ => runs_pure _)

theorem runs_go (caps : Capacities) (fuel : Nat) :
    ∀ cues stopAt acc, Runs (go caps fuel cues stopAt acc) := by
  induction fuel with
  | zero => exact fun _ _ _ => runs_pure _
  | succ fuel ih =>
    intro cues stopAt acc
    unfold go
    refine runs_get_bind fun w hw => ?_
    dsimp only
    split
    · exact ⟨.refl, hw⟩
    · split
      · exact ⟨.refl, hw⟩
      · exact ((runs_instant caps _ _ _).bind fun _ => ih _ _ _) w hw

end Sim

namespace World

open Sim

/-- **A session is a run.** A session of the manager, from a world whose scheduler refers only
to device tasks that exist, is a sequence of steps: every device task it runs exists, whatever
the cues and the time of shutdown. -/
theorem session_is_run (caps : Capacities) (fuel : Nat) (cues : List Cue) (stopAt : Option Nat)
    (acc : List (Nat × Outcome)) {w : World} (hw : w.Tracks 0) :
    Relation.ReflTransGen Step w (((Sim.go caps fuel cues stopAt acc).run w).run.2) :=
  (runs_go caps fuel cues stopAt acc w hw).1

/-- A session that starts from a blank world with no device task to run keeps the books to its
end. -/
theorem Blank.session_good (caps : Capacities) (fuel : Nat) (cues : List Cue) (stopAt : Option Nat)
    (acc : List (Nat × Outcome)) {w : World} (h₀ : w.Blank) (hw : w.Tracks 0) :
    (((Sim.go caps fuel cues stopAt acc).run w).run.2).Good :=
  reach_good h₀ (session_is_run caps fuel cues stopAt acc hw)

/-- A gamepad plugged in at the start of a session, with a profile for it: by 30 ms it has been
discovered, claimed, opened and attached to the loopback input, and its output can be removed.
Unplugged at 40 ms, by 50 ms its task is done, and its claim, its entry and its output are gone. -/
theorem session_plug_unplug :
    let pad : Device :=
      { identity := { bus := 3, vendor := 4660, product := 1, version := 1 }, name := "pad 1"
        kind := .gamepad }
    let w₀ : World :=
      { settings := { axisThrottleMs := 0, stabilizationMs := 0, pollIntervalMs := 10 }
        userTree := .folder ⟨[(["pad.yaml"],
          .file "name: pad\ndevice_type: gamepad\nmappings:\n  - name: main\n".toUTF8.toList)]⟩
        store := { userDir := "<root>/user", factoryDir := "<root>/factory" }
        ready := [.forwarder, .manager] }
    let cues : List Cue := [⟨0, .plug pad⟩, ⟨40, .unplug pad.identity⟩]
    let w := ((Sim.go {} 4 cues none []).run w₀).run.2
    let w' := ((Sim.go {} 6 cues none []).run w₀).run.2
    w.now = 30 ∧ w.rig.opens = 1 ∧ w.claimed = [pad.identity] ∧ w.table.length = 1 ∧
      w.tasks.toList.map (·.stage == .running) = [true] ∧ w.loopback.count = 1 ∧
      (∀ (k : Nat) (t : DeviceTask), w.tasks[k]? = some t → t.stage = .running →
        ∃ o, w.loopback.outlets[t.outlet]? = some o ∧
          w.loopback.despawn o.id = .ok { w.loopback.modifyOutlet t.outlet
            (fun o => { o with registered := false }) with
              registry := w.loopback.registry.erase t.outlet }) ∧
      w'.now = 50 ∧ w'.tasks.toList.map (·.stage == .done) = [true] ∧ w'.claimed = [] ∧
      w'.table = [] ∧ w'.loopback.count = 0 := by
  intro pad w₀ cues w w'
  have h₀ : w₀.Blank := ⟨rfl, rfl, rfl, 16, _, rfl⟩
  have ht : w₀.Tracks 0 := ⟨Nat.zero_le _, fun k hk => by simp [w₀] at hk, fun tm htm => by
    simp [w₀] at htm⟩
  have hr : Relation.ReflTransGen Step w₀ w := session_is_run {} 4 cues none [] ht
  have hrun : w.now = 30 ∧ w.rig.opens = 1 ∧ w.claimed = [pad.identity] ∧ w.table.length = 1 ∧
      w.tasks.toList.map (·.stage == .running) = [true] ∧ w.loopback.count = 1 ∧ w'.now = 50 ∧
      w'.tasks.toList.map (·.stage == .done) = [true] ∧ w'.claimed = [] ∧ w'.table = [] ∧
      w'.loopback.count = 0 := by
    decide +kernel
  obtain ⟨hn, ho, hc, htab, hst, hcount, hn', hst', hc', htab', hcount'⟩ := hrun
  exact ⟨hn, ho, hc, htab, hst, hcount, (one_task_per_device h₀ hr).2.2.1, hn', hst', hc', htab',
    hcount'⟩

end World

end KeyMidi
