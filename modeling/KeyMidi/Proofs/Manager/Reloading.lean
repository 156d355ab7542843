import Mathlib
import KeyMidi.Proofs.Manager.Devices
import KeyMidi.Proofs.Store.Resolution

/-!
# Reloading the profiles

The manager loads the profiles when it starts and again after each change of the profile folders.
A load gives a whole new store, both folders read, or fails; when it fails the manager keeps the
store it had. So whatever the manager does, the store it leaves is the one it found or a successful
load of the folders (`World.Reloaded`), and after a failed load every device finds what it found
before. A failed reload is only logged and the manager's loop goes on; only a failure of the first
load ends the manager with an error.
-/

namespace KeyMidi

namespace ProfileStore

/-- Loading again what a load gave gives the same store: a load reads the folders and the names of
the store's own two folders, which it keeps. -/
theorem load_of_loaded {s s' : ProfileStore} {user factory : Place} (h : s.load user factory = .ok s') :
    s'.load user factory = .ok s' := by
  obtain ⟨hu, hf, hdu, hdf⟩ := load_eq_ok h
  rw [← hdu] at hu
  rw [← hdf] at hf
  simp [load, hu, hf, bind, Except.bind, pure, Except.pure]

end ProfileStore

namespace World

/-- What the manager may do to the profiles between two worlds: the folders and the manager's
failure stay, and the store stays or becomes what loading the folders into it gave. -/
structure Reloaded (w w' : World) : Prop where
  userTree : w'.userTree = w.userTree
  factoryTree : w'.factoryTree = w.factoryTree
  failure : w'.manager.failure = w.manager.failure
  store : w'.store = w.store ∨ w.store.load w.userTree w.factoryTree = .ok w'.store

theorem Reloaded.refl (w : World) : w.Reloaded w := ⟨rfl, rfl, rfl, .inl rfl⟩

/-- Two reloads in a row are one: the second loads the same folders into a store with the same
folder names. -/
theorem Reloaded.trans {w₁ w₂ w₃ : World} (h₁ : w₁.Reloaded w₂) (h₂ : w₂.Reloaded w₃) :
    w₁.Reloaded w₃ := by
  refine ⟨h₂.userTree.trans h₁.userTree, h₂.factoryTree.trans h₁.factoryTree,
    h₂.failure.trans h₁.failure, ?_⟩
  rcases h₂.store with h | h
  · exact h ▸ h₁.store
  · rw [h₁.userTree, h₁.factoryTree] at h
    rcases h₁.store with h' | h'
    · exact .inr (h' ▸ h)
    · rw [ProfileStore.load_of_loaded h', Except.ok.injEq] at h
      exact .inr (h ▸ h')

/-- After a failed load the store is the one before. -/
theorem Reloaded.store_eq {w w' : World} {e : ProfileError} (h : w.Reloaded w')
    (he : w.store.load w.userTree w.factoryTree = .error e) : w'.store = w.store := by
  rcases h.store with h | h
  · exact h
  · rw [he] at h
    cases h

/-- The manager's reload after a change: the store becomes what the load gave, or stays when the
load fails. -/
theorem Reloaded.reload {w w₁ : World} (h : w.Reloaded w₁) (n : Nat) :
    w.Reloaded { w₁ with
      store := match w.store.load w.userTree w.factoryTree with
        | .ok s => s
        | .error _ => w.store
      manager := { w₁.manager with pendingChanges := n } } := by
  refine ⟨h.userTree, h.factoryTree, h.failure, ?_⟩
  split
  · exact .inr ‹_›
  · exact .inl rfl

end World

namespace Sim

/-- A step that touches the profiles only as the manager does: by reloading them. -/
def Reloads {α : Type} (x : Sim α) : Prop := ∀ w : World, w.Reloaded ((x.run w).run.2)

theorem reloads_pure {α : Type} (a : α) : Reloads (pure a : Sim α) := fun w => .refl w

theorem Reloads.bind {α β : Type} {x : Sim α} {f : α → Sim β} (hx : Reloads x)
    (hf : ∀ a, Reloads (f a)) : Reloads (x >>= f) := by
  intro w
  simp only [StateT.run_bind, Id.run_bind]
  exact (hx w).trans (hf _ _)

theorem reloads_get_bind {α : Type} {f : World → Sim α}
    (h : ∀ w : World, w.Reloaded (((f w).run w).run.2)) : Reloads (get >>= f) :=
  fun w => after_get (h w)

theorem reloads_modify {g : World → World} (h : ∀ w : World, w.Reloaded (g w)) : Reloads (modify g) :=
  fun w => h w

theorem reloads_set_bind {α : Type} {w' : World} {f : PUnit → Sim α} (w : World) (h : w.Reloaded w')
    (hf : Reloads (f ⟨⟩)) : w.Reloaded (((set w' >>= f).run w).run.2) :=
  after_set (h.trans (hf w'))

theorem reloads_wake (t : TaskId) : Reloads (wake t) :=
  reloads_modify fun w => by
    split
    · exact .refl w
    · exact ⟨rfl, rfl, rfl, .inl rfl⟩

/-! ## The manager's steps -/

theorem endCycle_run (w : World) :
    ∃ timers, (endCycle.run w).run = ((), { w with discovery := none, timers }) := by
  simp only [endCycle, clearTimers, StateT.run_bind, StateT.run_get, Id.run_bind, Id.run_pure]
  split
  · simp
  · exact ⟨w.timers, rfl⟩

theorem startCycle_run (w : World) :
    ∃ ready, (startCycle.run w).run = ((), { w with
      manager := { w.manager with cycle := w.manager.cycle + 1 }
      discovery := some { cycle := w.manager.cycle + 1, nextTick := w.now }
      ready }) := by
  simp only [startCycle, wake, StateT.run_bind, StateT.run_get, StateT.run_set, StateT.run_modify,
    Id.run_bind, Id.run_pure]
  split
  · exact ⟨_, rfl⟩
  · exact ⟨_, rfl⟩

theorem reloads_endCycle : Reloads endCycle := by
  intro w
  obtain ⟨timers, h⟩ := endCycle_run w
  rw [h]
  exact ⟨rfl, rfl, rfl, .inl rfl⟩

theorem reloads_startCycle : Reloads startCycle := by
  intro w
  obtain ⟨ready, h⟩ := startCycle_run w
  rw [h]
  exact ⟨rfl, rfl, rfl, .inl rfl⟩

theorem reloads_spawnDevice (d : Device) : Reloads (spawnDevice d) := by
  refine reloads_get_bind fun w => ?_
  dsimp only
  split
  · exact .refl w
  · split
    · exact .refl w
    · split
      · exact .refl w
      · exact reloads_set_bind w ⟨rfl, rfl, rfl, .inl rfl⟩ (reloads_wake _)

theorem reloads_checkDrained : Reloads checkDrained := by
  refine reloads_get_bind fun w => ?_
  split
  · exact reloads_set_bind w ⟨rfl, rfl, rfl, .inl rfl⟩ (reloads_pure _)
  · exact .refl w

/-- The manager's loop reloads the profiles and does nothing else to them, however long it runs. -/
theorem reloads_managerLoop (fuel : Nat) : Reloads (managerLoop fuel) := by
  induction fuel with
  | zero => exact reloads_pure _
  | succ fuel ih =>
    refine reloads_get_bind fun w => ?_
    dsimp only
    split
    · refine (reloads_endCycle.bind fun _ => (reloads_modify fun _ => ?_).bind fun _ =>
        reloads_checkDrained) w
      exact ⟨rfl, rfl, rfl, .inl rfl⟩
    split
    · refine after_bind fun _ w₁ h₁ => ?_
      have hw₁ : w.Reloaded w₁ := by simpa [h₁] using reloads_endCycle w
      simp only [StateT.run_bind, StateT.run_modify, Id.run_bind]
      exact (hw₁.reload _).trans ((reloads_startCycle.bind fun _ => ih) _)
    split
    · refine ((reloads_modify fun _ => ?_).bind fun _ => ih) w
      exact ⟨rfl, rfl, rfl, .inl rfl⟩
    split
    · split
      · refine ((reloads_modify fun _ => ?_).bind fun _ => (reloads_spawnDevice _).bind fun _ => ih) w
        exact ⟨rfl, rfl, rfl, .inl rfl⟩
      · exact .refl w
    · exact .refl w

/-! ## The manager's run -/

/-- What one run of the manager does to the profiles: either its first load fails, and it
finishes with that load's error and nothing else changed, or it only reloads them. -/
theorem pollManager_cases (w : World) :
    (w.manager.phase = .starting ∧ ∃ e, w.store.load w.userTree w.factoryTree = .error e ∧
      (pollManager.run w).run.2 = { w with manager := { w.manager with
        phase := .finished, finishedAt := some w.now
        failure := some ⟨["Failed to load device configs", e.describe] ++ e.cause.toList⟩ } }) ∨
    ((w.manager.phase = .starting → ∃ s, w.store.load w.userTree w.factoryTree = .ok s) ∧
      w.Reloaded (pollManager.run w).run.2) := by
  unfold pollManager
  simp only [StateT.run_bind, StateT.run_get, Id.run_bind, Id.run_pure]
  split
  · next hp =>
    split
    · next e he => exact .inl ⟨hp, e, he, rfl⟩
    · next s hs =>
      refine .inr ⟨fun _ => ⟨s, hs⟩, ?_⟩
      exact reloads_set_bind w ⟨rfl, rfl, rfl, .inr hs⟩
        (reloads_startCycle.bind fun _ => reloads_managerLoop _)
  · next hp => exact .inr ⟨fun h => absurd (hp.symm.trans h) (by decide), reloads_managerLoop _ w⟩
  · next hp => exact .inr ⟨fun h => absurd (hp.symm.trans h) (by decide), reloads_checkDrained w⟩
  · next hp => exact .inr ⟨fun h => absurd (hp.symm.trans h) (by decide), .refl w⟩

/-- A failed reload after a change: the store stays, the cycle starts over and the loop goes on. -/
theorem managerLoop_failed_reload {w : World} {e : ProfileError} (fuel : Nat)
    (hs : w.shutdown.fired = false) (hw : w.manager.watching = true)
    (hp : 0 < w.manager.pendingChanges) (he : w.store.load w.userTree w.factoryTree = .error e) :
    ∃ w₁, ((managerLoop (fuel + 1)).run w).run = ((managerLoop fuel).run w₁).run ∧ w₁.store = w.store ∧
      w₁.manager.phase = w.manager.phase ∧ w₁.manager.failure = w.manager.failure ∧
      w₁.manager.pendingChanges = w.manager.pendingChanges - 1 := by
  obtain ⟨timers, h₁⟩ := endCycle_run w
  let w₀ : World :=
    { w with
      discovery := none
      timers
      manager := { w.manager with pendingChanges := w.manager.pendingChanges - 1 } }
  obtain ⟨ready, h₂⟩ := startCycle_run w₀
  refine ⟨(startCycle.run w₀).run.2, ?_, ?_⟩
  · have hc : (w.manager.watching && decide (w.manager.pendingChanges > 0)) = true := by simp [hw, hp]
    simp only [managerLoop, StateT.run_bind, StateT.run_get, pure_bind, hs, hc, he,
      Bool.false_eq_true, if_false, if_true, Id.run_bind, h₁, StateT.run_modify]
    rfl
  · rw [h₂]
    exact ⟨rfl, rfl, rfl, rfl⟩

/-- In its loop, the manager runs its loop with fuel for every change and every device found. -/
theorem pollManager_looping {w : World} (hl : w.manager.phase = .looping) :
    (pollManager.run w).run = ((managerLoop
      (w.manager.pendingChanges + ((w.discovery.map (·.found.length)).getD 0) + 3 + 1)).run w).run := by
  simp only [pollManager, StateT.run_bind, StateT.run_get, pure_bind, hl]

/-- **A failed load keeps the profiles.** Whatever the manager does when it runs, the store it
leaves is the one it found or a successful load of the profile folders; so when loading the folders
fails, the store, and with it the profile every device finds, is the one before. The manager ends
with an error when, and only when, its first load fails. After a change of the folders, a failed
reload leaves the manager in its loop: the change is taken, the old store kept, and the loop goes
on as before. -/
theorem failed_reload_keeps_profiles (w : World) :
    ((pollManager.run w).run.2.store = w.store ∨
      w.store.load w.userTree w.factoryTree = .ok (pollManager.run w).run.2.store) ∧
    (∀ e, w.store.load w.userTree w.factoryTree = .error e →
      (pollManager.run w).run.2.store = w.store) ∧
    (pollManager.run w).run.2.manager.failure =
      (match w.manager.phase, w.store.load w.userTree w.factoryTree with
        | .starting, .error e => some ⟨["Failed to load device configs", e.describe] ++ e.cause.toList⟩
        | _, _ => w.manager.failure) ∧
    (w.manager.phase = .looping → w.shutdown.fired = false → w.manager.watching = true →
      0 < w.manager.pendingChanges → ∀ e, w.store.load w.userTree w.factoryTree = .error e →
      ∃ n w₁, (pollManager.run w).run = ((managerLoop n).run w₁).run ∧ w₁.store = w.store ∧
        w₁.manager.phase = .looping ∧ w₁.manager.failure = w.manager.failure ∧
        w₁.manager.pendingChanges = w.manager.pendingChanges - 1) := by
  refine ⟨?_, fun e he => ?_, ?_, fun hl hs hw hp e he => ?_⟩
  · rcases pollManager_cases w with ⟨-, e, -, h⟩ | ⟨-, h⟩
    · exact .inl (by rw [h])
    · exact h.store
  · rcases pollManager_cases w with ⟨-, e', -, h⟩ | ⟨-, h⟩
    · rw [h]
    · exact h.store_eq he
  · rcases pollManager_cases w with ⟨hp, e, he, h⟩ | ⟨hok, h⟩
    · rw [h, hp, he]
    · rw [h.failure]
      split
      · next e hp he =>
        obtain ⟨s, hs⟩ := hok hp
        rw [hs] at he
        cases he
      · rfl
  · obtain ⟨w₁, h, hst, hph, hf, hpc⟩ := managerLoop_failed_reload _ hs hw hp he
    exact ⟨_, w₁, (pollManager_looping hl).trans h, hst, hph.trans hl, hf, hpc⟩

/-- A user folder that is a plain file fails every load: the manager, in its loop with a change
waiting, keeps its store and goes on. -/
theorem failed_reload_keeps_profiles_plain_file :
    ∃ w : World, w.manager.phase = .looping ∧ w.shutdown.fired = false ∧ w.manager.watching = true ∧
      0 < w.manager.pendingChanges ∧
      w.store.load w.userTree w.factoryTree = .error (.unreadable "user" "Not a directory (os error 20)") ∧
      ∃ n w₁, (pollManager.run w).run = ((managerLoop n).run w₁).run ∧ w₁.store = w.store ∧
        w₁.manager.phase = .looping ∧ w₁.manager.failure = w.manager.failure ∧
        w₁.manager.pendingChanges = w.manager.pendingChanges - 1 := by
  let w : World :=
    { settings := {}
      store := { userDir := "user", factoryDir := "factory" }
      userTree := .plain []
      manager := { phase := .looping, pendingChanges := 1 } }
  have he : w.store.load w.userTree w.factoryTree =
      .error (.unreadable "user" "Not a directory (os error 20)") := rfl
  exact ⟨w, rfl, rfl, rfl, Nat.one_pos, he,
    (failed_reload_keeps_profiles w).2.2.2 rfl rfl rfl Nat.one_pos _ he⟩

end Sim

end KeyMidi
