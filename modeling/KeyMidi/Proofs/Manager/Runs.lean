import KeyMidi.Proofs.Manager.Devices
/-!
# One task per device, in every run of the manager

A run of the manager is any sequence of `World.Step`s: a spawned task runs until it waits (the
manager, discovery, a device task, a throttle, an emitter, the forwarder, an echo, a stream's
closer), the outside world does something, the timers due fire, the clock moves, or the runtime
changes which tasks are ready. Nothing fixes the order, so every interleaving of discovery
results, open attempts, device task steps, stream closures, profile changes and shutdown is
one.

Every step keeps `World.Good` (`Good.step`, from the manager's loop and the device tasks'
lemmas), and a blank world has it (`Blank.good`), so every world a run reaches has it
(`reach_good`). `one_task_per_device` reads it back in terms of the tasks themselves; the
registry holds exactly one output per running task (`Books.Good.registry_length`).
-/

namespace KeyMidi

open KeyMidi.Midi

namespace Stage

@[simp] theorem phase_eq_done (s : Stage) : s.phase = .done ↔ s = .done := by
  cases s <;> simp

@[simp] theorem phase_eq_running (s : Stage) : s.phase = .running ↔ s = .running := by
  cases s <;> simp

@[simp] theorem phase_eq_detached (s : Stage) : s.phase = .detached ↔ s = .detached := by
  cases s <;> simp

@[simp] theorem phase_beq_running (s : Stage) : (s.phase == .running) = (s == .running) := by
  cases s <;> simp

end Stage

namespace Books

/-- The registry holds one output for each running task. -/
theorem Good.registry_length {b : Books} (hb : b.Good) :
    b.registry.length = (b.views.toList.filter (·.phase == .running)).length := by
  let l := b.views.toList
  let idx := (List.finRange l.length).filter fun i => l[i].phase == .running
  have hat : ∀ i : Fin l.length, b.views[(i : Nat)]? = some l[i] := fun i => by
    rw [← Array.getElem?_toList]
    exact List.getElem?_eq_getElem i.2
  have hrun : ∀ i ∈ idx, l[i].phase = .running := fun i hi => by
    simpa using (List.mem_filter.mp hi).2
  have hnodup : (idx.map fun i => l[i].outlet).Nodup := by
    refine ((List.nodup_finRange _).filter _).map_on fun i hi j hj he => Fin.ext ?_
    exact hb.outlet_inj i j _ _ (hat i) (hat j) (hrun i hi) (hrun j hj) he
  have hperm : b.registry.Perm (idx.map fun i => l[i].outlet) := by
    refine (List.perm_ext_iff_of_nodup hb.registry_nodup hnodup).mpr fun h => ?_
    rw [hb.registry]
    constructor
    · rintro ⟨k, v, hk, hv, rfl⟩
      have hk' : k < l.length := by
        rw [Array.length_toList]
        exact (Array.getElem?_eq_some_iff.mp hk).1
      have hl : l[k] = v := Option.some.inj ((hat ⟨k, hk'⟩).symm.trans hk)
      refine List.mem_map.mpr ⟨⟨k, hk'⟩, List.mem_filter.mpr ⟨List.mem_finRange _, ?_⟩, ?_⟩
      · simp [hl, hv]
      · simp [hl]
    · intro hh
      obtain ⟨i, hi, rfl⟩ := List.mem_map.mp hh
      exact ⟨i, l[i], hat i, hrun i hi, rfl⟩
  calc b.registry.length = (idx.map fun i => l[i].outlet).length := hperm.length_eq
    _ = idx.length := List.length_map _
    _ = (l.filter (·.phase == .running)).length := by
      conv_rhs => rw [← @List.ofFn_getElem _ l, List.ofFn_eq_map, List.filter_map,
        List.length_map]
      rfl

/-- Books with no task and no output keep every promise. -/
theorem good_blank (nextId : Nat) (idLimit : Int) :
    (⟨#[], [], [], nextId, [], #[], idLimit⟩ : Books).Good := by
  constructor <;> simp

end Books

namespace World

open Sim

/-- A step that keeps the invariant, followed by steps that keep it, keeps it. -/
theorem after_good {α β : Type} {x : Sim α} {f : α → Sim β} {w : World}
    (hx : ((x.run w).run.2).Good) (h : ∀ a w', w'.Good → (((f a).run w').run.2).Good) :
    (((x >>= f).run w).run.2).Good := by
  simp only [StateT.run_bind, Id.run_bind]
  exact h _ _ hx

/-- The manager's loop spawns tasks only for identities nobody holds. -/
theorem Good.managerLoop (fuel : Nat) {w : World} (hw : w.Good) :
    (((Sim.managerLoop fuel).run w).run.2).Good := by
  induction fuel generalizing w with
  | zero => exact hw
  | succ fuel ih =>
    unfold Sim.managerLoop
    refine after_get ?_
    dsimp only
    split
    · exact hw.of_books ((Keeps.bind books_endCycle fun _ =>
        Keeps.bind (fun w => by simp) fun _ => books_checkDrained) w)
    split
    · refine after_keeps books_endCycle fun _ W₁ h₁ => ?_
      refine after_keeps (fun w => by simp) fun _ W₂ h₂ => ?_
      exact after_keeps books_startCycle fun _ W₃ h₃ => ih (hw.of_books (h₃.trans (h₂.trans h₁)))
    split
    · exact after_keeps (fun w => by simp) fun _ W₁ h₁ => ih (hw.of_books h₁)
    split
    · split
      · refine after_keeps (fun w => by simp) fun _ W₁ h₁ => ?_
        exact after_good ((hw.of_books h₁).spawnDevice _) fun _ _ hw₂ => ih hw₂
      · exact hw
    · exact hw

theorem Good.pollManager {w : World} (hw : w.Good) : (((Sim.pollManager).run w).run.2).Good := by
  unfold Sim.pollManager
  refine after_get ?_
  dsimp only
  split
  · split
    · exact hw.of_books (by simp)
    · refine after_set (after_keeps books_startCycle fun _ W₁ h₁ => ?_)
      exact (hw.of_books h₁).managerLoop _
  · exact hw.managerLoop _
  · exact hw.of_books (books_checkDrained w)
  · exact hw

/-- The tasks the runtime can run: a device task once it has been spawned, any other at any
time. -/
def Spawned (w : World) : TaskId → Prop
  | .device k => k < w.tasks.size
  | _ => True

theorem Good.poll {w : World} {t : TaskId} (hw : w.Good) (ht : w.Spawned t) :
    (((Sim.poll t).run w).run.2).Good := by
  cases t with
  | manager => exact hw.pollManager
  | discovery c => exact hw.of_books (books_pollDiscovery c w)
  | device k => exact hw.pollDevice ht
  | throttler k => exact hw.of_books (keeps_pollThrottler k w)
  | emitter k key => exact hw.of_books (books_pollEmitter k key w)
  | forwarder => exact hw.of_books (books_pollForwarder w)
  | echo k => exact hw.of_books (books_pollEcho k w)
  | closer s => exact hw.of_books (books_pollCloser s w)

/-- What can happen to the manager's world, in any order: a spawned task runs until it waits,
the world outside does something (a device is plugged, sends, fails, the profiles change, the
process shuts down, ...), the timers due fire, the clock moves, or the runtime changes which
tasks are ready. -/
inductive Step : World → World → Prop
  | poll {w : World} (t : TaskId) : w.Spawned t → Step w (((Sim.poll t).run w).run.2)
  | happen {w : World} (caps : Capacities) (e : Happening) :
      Step w (((Sim.happen caps e).run w).run.2)
  | fireTimers {w : World} : Step w ((Sim.fireTimers.run w).run.2)
  | clock {w : World} (now : Nat) : Step w { w with now }
  | schedule {w : World} (ready : List TaskId) : Step w { w with ready }

theorem Good.step {w w' : World} (hw : w.Good) (hs : Step w w') : w'.Good := by
  cases hs with
  | poll t ht => exact hw.poll ht
  | happen caps e => exact hw.of_books (books_happen caps e w)
  | fireTimers => exact hw.of_books (books_fireTimers w)
  | clock now => exact hw.of_books rfl
  | schedule ready => exact hw.of_books rfl

/-- A world in which the manager has started no device task yet and the loopback input is new. -/
def Blank (w : World) : Prop :=
  w.tasks = #[] ∧ w.claimed = [] ∧ w.table = [] ∧ ∃ capacity lim, w.loopback = Fanout.create capacity lim

theorem Blank.good {w : World} (h : w.Blank) : w.Good := by
  obtain ⟨ht, hc, htab, capacity, lim, hl⟩ := h
  refine ⟨hl ▸ Fanout.good_create capacity lim, ?_⟩
  have hb : w.books = ⟨#[], [], [], w.nextId, [], #[], lim⟩ := by
    change (⟨w.tasks.map DeviceTask.view, w.claimed, w.table, w.nextId, w.loopback.registry,
      w.loopback.outlets.map Outlet.key, w.loopback.idLimit⟩ : Books) = _
    rw [ht, hc, htab, hl]
    simp [Fanout.create]
  exact hb ▸ Books.good_blank w.nextId lim

/-- Every world reached from a blank one keeps the invariant. -/
theorem reach_good {w₀ w : World} (h₀ : w₀.Blank) (hr : Relation.ReflTransGen Step w₀ w) :
    w.Good := by
  induction hr with
  | refl => exact h₀.good
  | tail _ hs ih => exact ih.step hs

/-- **One task per device.** In every world reached from a blank one, whatever ran and happened
in between, and in whatever order:
* the claimed identities have no repeats and are exactly those of the tasks not done, and two
  tasks not done have different identities;
* the ids in the device table are distinct, and the entries belong to different tasks of
  different identities, each one attached to the loopback input or just detached from it, so
  never to a finished task;
* the output of a running task is registered: removing it by its number succeeds and removes
  exactly that output; and the loopback input has as many outputs as there are running tasks.

Every session of the manager is such a run (`World.session_is_run`). -/
theorem one_task_per_device {w₀ w : World} (h₀ : w₀.Blank) (hr : Relation.ReflTransGen Step w₀ w) :
    (w.claimed.Nodup ∧
      (∀ i, i ∈ w.claimed ↔
        ∃ (k : Nat) (t : DeviceTask), w.tasks[k]? = some t ∧ t.stage ≠ .done ∧ t.device.identity = i) ∧
      (∀ (k₁ k₂ : Nat) (t₁ t₂ : DeviceTask), w.tasks[k₁]? = some t₁ → w.tasks[k₂]? = some t₂ →
        t₁.stage ≠ .done → t₂.stage ≠ .done → t₁.device.identity = t₂.device.identity → k₁ = k₂)) ∧
    ((w.table.map (·.1)).Nodup ∧
      (∀ e ∈ w.table, ∃ t : DeviceTask, w.tasks[e.2]? = some t ∧
        (t.stage = .running ∨ t.stage = .detached)) ∧
      (∀ e₁ ∈ w.table, ∀ e₂ ∈ w.table, ∀ t₁ t₂ : DeviceTask, w.tasks[e₁.2]? = some t₁ →
        w.tasks[e₂.2]? = some t₂ → t₁.device.identity = t₂.device.identity → e₁ = e₂)) ∧
    ((∀ (k : Nat) (t : DeviceTask), w.tasks[k]? = some t → t.stage = .running →
        ∃ o, w.loopback.outlets[t.outlet]? = some o ∧
          w.loopback.despawn o.id = .ok { w.loopback.modifyOutlet t.outlet
            (fun o => { o with registered := false }) with
              registry := w.loopback.registry.erase t.outlet }) ∧
      w.loopback.count = (w.tasks.toList.filter (·.stage == .running)).length) := by
  have hw := reach_good h₀ hr
  have hb := hw.books
  refine ⟨⟨hb.claimed_nodup, fun i => ?_, ?_⟩, ⟨hb.table_ids, ?_, ?_⟩, ?_, ?_⟩
  · simpa [Option.map_eq_some_iff] using hb.claimed i
  · intro k₁ k₂ t₁ t₂ h₁ h₂ hd₁ hd₂ hi
    exact hb.one_task k₁ k₂ _ _ (views_of_tasks h₁) (views_of_tasks h₂) (by simpa using hd₁)
      (by simpa using hd₂) hi
  · intro e he
    obtain ⟨v, hv, hph⟩ := hb.table_attached e he
    obtain ⟨t, ht, rfl⟩ := task_of_view hv
    exact ⟨t, ht, by simpa using hph⟩
  · intro e₁ he₁ e₂ he₂ t₁ t₂ h₁ h₂ hi
    -- the tasks of two entries are not done, so the same identity means the same task
    have hlive : ∀ e ∈ w.table, ∀ t : DeviceTask, w.tasks[e.2]? = some t → t.view.phase ≠ .done := by
      intro e he t ht
      obtain ⟨v, hv, hph⟩ := hb.table_attached e he
      rw [views_of_tasks ht, Option.some.injEq] at hv
      subst hv
      rcases hph with h | h <;> rw [h] <;> decide
    have hk := hb.one_task _ _ _ _ (views_of_tasks h₁) (views_of_tasks h₂) (hlive e₁ he₁ t₁ h₁)
      (hlive e₂ he₂ t₂ h₂) hi
    exact List.inj_on_of_nodup_map hb.table_tasks he₁ he₂ hk
  · intro k t hk hrun
    have hh : t.outlet ∈ w.loopback.registry :=
      (hb.registry _).mpr ⟨k, _, views_of_tasks hk, by simpa using hrun, rfl⟩
    have ho := Array.getElem?_eq_getElem (hw.loopback.handles _ hh)
    exact ⟨_, ho, Fanout.despawn_registered hw.loopback hh ho⟩
  · have := hb.registry_length
    simpa [Fanout.count, List.filter_map, Function.comp_def] using this

end World

end KeyMidi
