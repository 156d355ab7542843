import KeyMidi.Proofs.Manager.Invariant
/-!
# The device tasks keep the books

`World.Good` joins the soundness of the loopback input's registry (`Fanout.Good`) to the
invariant of the books (`Books.Good`). Since the registry's soundness depends only on what the
books hold of the loopback input (`Books.outputs`), every step that keeps the books keeps the
invariant (`Good.of_books`), and only the steps of a device task that write the books need an
argument:

* a found device is spawned only when its identity is not claimed (`Good.spawnDevice`);
* an attempt to open a device leaves the task waiting, ends it, or attaches it to the loopback
  input, which either grants a fresh output or refuses and the task ends (`Good.attemptOpen`,
  `Good.attach`);
* a running task whose input ended removes its own output, which is registered, so the removal
  succeeds and takes that output only (`Fanout.despawn_registered`, `Good.runEngine`);
* a detached task whose echo has drained ends (`Good.retire`).

The proofs walk through each step's program one action at a time (`Sim.after_keeps`,
`Sim.after_modifyTask`, ...), keeping track of the books rather than of the whole world.
-/

namespace KeyMidi

open KeyMidi.Midi

/-- The invariant of the manager's world: the loopback input's registry is sound and the books
are kept. -/
structure World.Good (w : World) : Prop where
  loopback : w.loopback.Good
  books : w.books.Good

/-- Two members of a list without repeats whose images are the same value of a list of images
without repeats are the same. -/
theorem List.eq_of_filterMap_nodup {β γ : Type} {g : β → Option γ} :
    ∀ {l : List β}, l.Nodup → (l.filterMap g).Nodup → ∀ {a b : β} {c : γ}, a ∈ l → b ∈ l →
      g a = some c → g b = some c → a = b
  | [], _, _, _, _, _, ha, _, _, _ => absurd ha List.not_mem_nil
  | x :: l, hl, hn, a, b, c, ha, hb, hga, hgb => by
    obtain ⟨hx, hl⟩ := List.nodup_cons.mp hl
    have hlater : ∀ y ∈ l, g y = some c → c ∈ l.filterMap g := fun y hy hgy =>
      List.mem_filterMap.mpr ⟨y, hy, hgy⟩
    rcases List.mem_cons.mp ha with rfl | ha' <;> rcases List.mem_cons.mp hb with rfl | hb'
    · rfl
    · rw [List.filterMap_cons_some hga] at hn
      exact absurd (hlater b hb' hgb) (List.nodup_cons.mp hn).1
    · rw [List.filterMap_cons_some hgb] at hn
      exact absurd (hlater a ha' hga) (List.nodup_cons.mp hn).1
    · cases hgx : g x with
      | none =>
        rw [List.filterMap_cons_none hgx] at hn
        exact List.eq_of_filterMap_nodup hl hn ha' hb' hga hgb
      | some y =>
        rw [List.filterMap_cons_some hgx] at hn
        exact List.eq_of_filterMap_nodup hl (List.nodup_cons.mp hn).2 ha' hb' hga hgb

namespace Fanout

variable {α : Type}

/-- Removing a registered output by its number removes that output. -/
theorem despawn_registered {f : Fanout α} (hg : f.Good) {h : Nat} {o : Outlet α}
    (hh : h ∈ f.registry) (ho : f.outlets[h]? = some o) :
    f.despawn o.id = .ok { f.modifyOutlet h (fun o => { o with registered := false }) with
      registry := f.registry.erase h } := by
  rw [despawn_eq]
  split
  · rename_i hfind
    have := List.find?_eq_none.mp hfind h hh
    simp [ho] at this
  · rename_i h' hfind
    obtain ⟨hp, -⟩ := List.find?_eq_some_iff_append.mp hfind
    have hh' : h' ∈ f.registry := List.mem_of_find?_eq_some hfind
    -- numbers of registered outputs differ, so the output found is `h`
    obtain ⟨o', ho', hid⟩ : ∃ o', f.outlets[h']? = some o' ∧ o'.id = o.id := by
      cases h₀ : f.outlets[h']? with
      | none => simp [h₀] at hp
      | some o' => exact ⟨o', rfl, by simpa [h₀] using hp⟩
    have : h' = h := List.eq_of_filterMap_nodup hg.nodup hg.ids_nodup hh' hh
      (by rw [ho', Option.map_some, hid]) (by rw [ho, Option.map_some])
    rw [this]

/-- A granted request for an output appends a fresh output to the registry, with the next handle. -/
theorem spawn_ok {f f' : Fanout α} {n : Int} {h : Nat} (hs : f.spawn = .ok (f', n, h)) :
    f' = { f with outlets := f.outlets.push { id := n }, registry := f.registry ++ [f.outlets.size] } ∧
      h = f.outlets.size := by
  rw [spawn_eq] at hs
  dsimp only at hs
  split at hs
  · cases hs
  · split at hs
    · cases hs
      exact ⟨rfl, rfl⟩
    · cases hs

end Fanout

/-- What the books hold of the loopback input: the registry, the number and state of every
output, and the limit on numbers. -/
def Books.outputs (b : Books) : List Nat × Array (Int × Bool) × Int := (b.registry, b.keys, b.idLimit)

namespace World

/-- The registry of the loopback input is sound as long as what the books hold of it is kept. -/
theorem loopback_good_of_books {w w' : World} (hl : w.loopback.Good)
    (ho : w'.books.outputs = w.books.outputs) : w'.loopback.Good := by
  simp only [Books.outputs, Prod.mk.injEq] at ho
  obtain ⟨hr, hk, hi⟩ := ho
  have hk' : w'.loopback.outlets.map Outlet.key = w.loopback.outlets.map Outlet.key := hk
  refine hl.frame ⟨hr, hi, ?_, fun h => ?_⟩
  · simpa using congrArg Array.size hk'
  · simpa [Array.getElem?_map] using congrArg (·[h]?) hk'

theorem Good.of_books {w w' : World} (hw : w.Good) (h : w'.books = w.books) : w'.Good :=
  ⟨loopback_good_of_books hw.loopback (by rw [h]), h ▸ hw.books⟩

end World

namespace Sim

/-- Steps that keep the books can be stepped over. -/
theorem after_keeps {α β : Type} {x : Sim α} {f : α → Sim β} (hx : Keeps x) {w : World}
    {P : World → Prop} (h : ∀ a w', w'.books = w.books → P (((f a).run w').run.2)) :
    P (((x >>= f).run w).run.2) := by
  simp only [StateT.run_bind, Id.run_bind]
  exact h _ _ (hx w)

/-- A step followed by more, with the value and the world the first leaves named. -/
theorem after_bind {α β : Type} {x : Sim α} {f : α → Sim β} {w : World} {P : World → Prop}
    (h : ∀ a w', (x.run w).run = (a, w') → P (((f a).run w').run.2)) :
    P (((x >>= f).run w).run.2) := by
  simp only [StateT.run_bind, Id.run_bind]
  exact h _ _ rfl

theorem after_get {β : Type} {f : World → Sim β} {w : World} {P : World → Prop}
    (h : P (((f w).run w).run.2)) : P (((get >>= f).run w).run.2) := by
  simpa only [StateT.run_bind, StateT.run_get, Id.run_bind, Id.run_pure] using h

theorem after_set {β : Type} {f : PUnit → Sim β} {w w' : World} {P : World → Prop}
    (h : P (((f ⟨⟩).run w').run.2)) : P (((set w' >>= f).run w).run.2) := by
  simpa only [StateT.run_bind, StateT.run_set, Id.run_bind, Id.run_pure] using h

theorem after_task {β : Type} {k : Nat} {f : DeviceTask → Sim β} {w : World} {t : DeviceTask}
    {P : World → Prop} (hk : w.tasks[k]? = some t) (h : P (((f t).run w).run.2)) :
    P (((task k >>= f).run w).run.2) := by
  simpa only [StateT.run_bind, Id.run_bind, run_task, hk, Option.getD_some] using h

/-- Changing a task that is there: its view in the books is the changed task's. -/
theorem after_modifyTask {β : Type} {k : Nat} {g : DeviceTask → DeviceTask} {f : Unit → Sim β}
    {w : World} {t : DeviceTask} {P : World → Prop} (hk : w.tasks[k]? = some t)
    (h : ∀ w', w'.books = { w.books with views := w.books.views.setIfInBounds k (g t).view } →
      w'.loopback = w.loopback → P (((f ()).run w').run.2)) :
    P (((modifyTask k g >>= f).run w).run.2) := by
  simp only [StateT.run_bind, Id.run_bind]
  refine h _ ?_ rfl
  simp [modifyTask, hk]

/-- Removing the output a task holds, while it is registered, removes that output. -/
theorem detachOutput_registered {w : World} {t : DeviceTask} {o : Outlet Packet}
    (hl : w.loopback.Good) (hh : t.outlet ∈ w.loopback.registry)
    (ho : w.loopback.outlets[t.outlet]? = some o) :
    ((detachOutput t).run w).run.2 = { w with
      loopback := { w.loopback.modifyOutlet t.outlet (fun o => { o with registered := false }) with
        registry := w.loopback.registry.erase t.outlet } } := by
  simp only [detachOutput, StateT.run_bind, StateT.run_get, Id.run_bind, Id.run_pure, ho,
    Option.map_some, Option.getD_some, Fanout.despawn_registered hl hh ho, StateT.run_set]

theorem books_detachOutput {w : World} {t : DeviceTask} {o : Outlet Packet}
    (hl : w.loopback.Good) (hh : t.outlet ∈ w.loopback.registry)
    (ho : w.loopback.outlets[t.outlet]? = some o) :
    (((detachOutput t).run w).run.2).books = { w.books with
      registry := w.books.registry.erase t.outlet
      keys := w.books.keys.setIfInBounds t.outlet (o.id, false) } := by
  rw [detachOutput_registered hl hh ho]
  simp [Fanout.modifyOutlet, ho]

theorem books_completeTask (k : Nat) (w : World) :
    (((completeTask k).run w).run.2).books = w.books.finish k (w.tasks[k]?.getD default).view := by
  simp [completeTask, modifyTask, Books.finish]

/-- Retiring a task takes it out of the table, which ending it does anyway. -/
theorem books_retire (k : Nat) (w : World) :
    (((retire k).run w).run.2).books = w.books.finish k (w.tasks[k]?.getD default).view := by
  simp only [retire, StateT.run_bind, StateT.run_modify, Id.run_bind, Id.run_pure,
    books_completeTask]
  simp [Books.finish, List.filter_filter]

end Sim

namespace World

open Sim

/-- The invariant carries over to a world whose books are kept, save for what a step may change
there, as long as the loopback input's registry is as before. -/
theorem Good.of_books_good {w w' : World} (hw : w.Good) (hb : w'.books.Good)
    (ho : w'.books.outputs = w.books.outputs) : w'.Good :=
  ⟨loopback_good_of_books hw.loopback ho, hb⟩

/-- A task is there with the view the books show for it. -/
theorem task_of_view {w : World} {k : Nat} {v : TaskView} (h : w.books.views[k]? = some v) :
    ∃ t, w.tasks[k]? = some t ∧ t.view = v := by
  simp only [books_views, Array.getElem?_map, Option.map_eq_some_iff] at h
  exact h

theorem views_of_tasks {w : World} {k : Nat} {t : DeviceTask} (hk : w.tasks[k]? = some t) :
    w.books.views[k]? = some t.view := by
  simp [hk]

/-- A task stays, with its view, across steps that keep the books. -/
theorem task_of_books {w w' : World} {k : Nat} {t : DeviceTask} (hB : w'.books = w.books)
    (hk : w.tasks[k]? = some t) : ∃ t', w'.tasks[k]? = some t' ∧ t'.view = t.view :=
  task_of_view (by rw [hB]; exact views_of_tasks hk)

/-- A task that is waiting or detached can end. -/
theorem Good.completeTask {w : World} {k : Nat} {t : DeviceTask} (hw : w.Good)
    (hk : w.tasks[k]? = some t) (ht : t.stage.phase = .waiting ∨ t.stage.phase = .detached) :
    (((Sim.completeTask k).run w).run.2).Good := by
  have hbooks := books_completeTask k w
  rw [hk, Option.getD_some] at hbooks
  exact hw.of_books_good (hbooks ▸ hw.books.finish (views_of_tasks hk) ht) (by rw [hbooks]; rfl)

theorem Good.retire {w : World} {k : Nat} {t : DeviceTask} (hw : w.Good)
    (hk : w.tasks[k]? = some t) (ht : t.stage.phase = .detached) :
    (((Sim.retire k).run w).run.2).Good := by
  have hbooks := books_retire k w
  rw [hk, Option.getD_some] at hbooks
  exact hw.of_books_good (hbooks ▸ hw.books.finish (views_of_tasks hk) (.inr ht))
    (by rw [hbooks]; rfl)

theorem Good.runEngine {w : World} {k : Nat} {t : DeviceTask} (hw : w.Good)
    (hk : w.tasks[k]? = some t) (ht : t.stage.phase = .running) :
    (((Sim.runEngine k).run w).run.2).Good := by
  unfold Sim.runEngine
  refine after_keeps (books_takeInput k) fun ⟨events, ended⟩ w₁ h₁ => ?_
  refine after_keeps (keeps_forIn _ _ fun ev _ => ?_) fun _ w₂ h₂ => ?_
  · refine Keeps.bind (fun w => by simp) fun t => Keeps.bind (fun w => by simp [modifyTask])
      fun _ => Keeps.bind (fun w => by simp) fun _ => keeps_ite ?_ (keeps_pure _)
    exact Keeps.bind (fun w => by simp) fun _ => keeps_pure _
  have hw₂ : w₂.Good := hw.of_books (h₂.trans h₁)
  obtain ⟨t₂, hk₂, hv₂⟩ := task_of_books (h₂.trans h₁) hk
  split
  · refine after_task hk₂ ?_
    rcases t₂.engine.finish with ⟨e, sent⟩
    dsimp only
    refine after_keeps (books_sendMidi _) fun _ W₁ h₁' => ?_
    obtain ⟨t₁, hk₁, hv₁⟩ := task_of_books h₁' hk₂
    refine after_modifyTask hk₁ fun W₂ h₂' hl₂ => ?_
    refine after_keeps (books_closeInput _) fun _ W₃ h₃ => ?_
    have hB₃ : W₃.books = { w₂.books with
        views := w₂.books.views.setIfInBounds k { t₂.view with phase := .detached } } := by
      rw [h₃, h₂', h₁', DeviceTask.view_mk, ← DeviceTask.view_outlet, ← DeviceTask.view_identity, hv₁]
      rfl
    have hrun₂ : t₂.view.phase = .running := hv₂ ▸ ht
    have hl₃ : W₃.loopback.Good := loopback_good_of_books hw₂.loopback (by rw [hB₃]; rfl)
    have hh : t₂.outlet ∈ W₃.loopback.registry := by
      change t₂.outlet ∈ W₃.books.registry
      rw [hB₃]
      exact (hw₂.books.registry _).mpr ⟨k, _, views_of_tasks hk₂, hrun₂, rfl⟩
    obtain ⟨o, ho⟩ : ∃ o, W₃.loopback.outlets[t₂.outlet]? = some o :=
      ⟨_, Array.getElem?_eq_getElem (hl₃.handles _ hh)⟩
    refine after_bind fun _ W₄ h₄ => ?_
    have hW₄ : ((detachOutput t₂).run W₃).run.2 = W₄ := congrArg Prod.snd h₄
    have hB₄ : W₄.books = w₂.books.detach k t₂.view o.id := by
      rw [← hW₄, books_detachOutput hl₃ hh ho, hB₃]
      rfl
    have hw₄ : W₄.Good := by
      refine ⟨?_, hB₄ ▸ hw₂.books.detach o.id (views_of_tasks hk₂) hrun₂⟩
      rw [← hW₄, detachOutput_registered hl₃ hh ho]
      exact hl₃.despawn (Fanout.despawn_registered hl₃ hh ho)
    refine after_keeps (books_wake _) fun _ W₅ h₅ => ?_
    have hw₅ : W₅.Good := hw₄.of_books h₅
    obtain ⟨t₅, hk₅, hv₅⟩ := task_of_view (v := { t₂.view with phase := .detached }) (by
      rw [h₅, hB₄]
      exact Array.getElem?_setIfInBounds_self_of (views_of_tasks hk₂))
    refine after_task hk₅ ?_
    split
    · exact hw₅.retire hk₅ (by rw [← DeviceTask.view_phase, hv₅])
    · exact hw₅
  · exact hw₂

/-- A waiting task attaches and runs its engine, or ends when it gets no output. -/
theorem Good.attach {w : World} {k : Nat} {t : DeviceTask} (hw : w.Good)
    (hk : w.tasks[k]? = some t) (ht : t.stage.phase = .waiting) :
    (((Sim.attach k).run w).run.2).Good := by
  unfold Sim.attach
  refine after_get ?_
  split
  · exact hw.completeTask hk (.inl ht)
  · rename_i f n h hs
    obtain ⟨rfl, rfl⟩ := Fanout.spawn_ok hs
    refine after_set (after_modifyTask hk fun W₂ h₂ hl₂ => ?_)
    have hB₂ : W₂.books = w.books.attach k t.view n := by
      rw [h₂]
      simp [Books.attach]
    have hw₂ : W₂.Good := by
      refine ⟨?_, hB₂ ▸ hw.books.attach n (views_of_tasks hk) ht⟩
      rw [hl₂]
      exact hw.loopback.spawn hs
    refine after_keeps (books_wake _) fun _ W₃ h₃ => ?_
    obtain ⟨t₃, hk₃, hv₃⟩ := task_of_view (v := { t.view with phase := .running, outlet := w.books.keys.size }) (by
      rw [h₃, hB₂]
      exact Array.getElem?_setIfInBounds_self_of (views_of_tasks hk))
    exact (hw₂.of_books h₃).runEngine hk₃ (by rw [← DeviceTask.view_phase, hv₃])

/-- One attempt of a waiting task to open its device: it keeps waiting, ends, or attaches. -/
theorem Good.attemptOpen {w : World} {k : Nat} {t : DeviceTask} (started : Nat) (hw : w.Good)
    (hk : w.tasks[k]? = some t) (ht : t.stage.phase = .waiting) :
    (((Sim.attemptOpen k started).run w).run.2).Good := by
  unfold Sim.attemptOpen
  refine after_get (after_task hk (after_set ?_))
  have hw₁ : ({ w with rig := { w.rig with opens := w.rig.opens + 1 } } : World).Good :=
    hw.of_books rfl
  generalize hW : ({ w with rig := { w.rig with opens := w.rig.opens + 1 } } : World) = W₁ at hw₁ ⊢
  have hk₁ : W₁.tasks[k]? = some t := by rw [← hW]; exact hk
  split
  · split
    · exact hw₁.completeTask hk₁ (.inl ht)
    · refine after_modifyTask hk₁ fun W₂ h₂ _ => ?_
      have hview : ({ t with stage := .opening started (w.now + w.settings.openRetryMs) }).view =
          t.view := by
        rw [DeviceTask.view_mk, ← DeviceTask.view_identity, ← DeviceTask.view_outlet,
          Stage.phase_opening, ← ht]
        rfl
      rw [hview, Array.setIfInBounds_of_getElem? (views_of_tasks hk₁)] at h₂
      exact hw₁.of_books ((books_setTimer _ _ _).trans h₂)
  · have hattach : ∀ W : World, W.books = W₁.books → (((Sim.attach k).run W).run.2).Good := by
      intro W hB
      obtain ⟨t', hk', hv'⟩ := task_of_books hB hk₁
      exact (hw₁.of_books hB).attach hk' (by rw [← DeviceTask.view_phase, hv', DeviceTask.view_phase, ht])
    refine after_get ?_
    dsimp only
    refine after_keeps (books_dropStreamOf _) fun _ W₂ h₂ => ?_
    refine after_keeps (fun w => by simp) fun _ W₃ h₃ => ?_
    refine after_keeps (books_wake _) fun _ W₄ h₄ => ?_
    refine after_keeps (fun w => by simp [modifyTask]) fun _ W₅ h₅ => ?_
    split
    · exact after_keeps (books_wake _) fun _ W₆ h₆ => hattach W₆ (h₆.trans (h₅.trans (h₄.trans (h₃.trans h₂))))
    · exact hattach W₅ (h₅.trans (h₄.trans (h₃.trans h₂)))

/-- Running a device task that exists, whatever its stage. -/
theorem Good.pollDevice {w : World} {k : Nat} (hw : w.Good) (hk : k < w.tasks.size) :
    (((Sim.pollDevice k).run w).run.2).Good := by
  have hk' : w.tasks[k]? = some w.tasks[k] := Array.getElem?_eq_getElem hk
  unfold Sim.pollDevice
  refine after_get (after_task hk' ?_)
  split
  · rename_i hs
    exact hw.attemptOpen _ hk' (by rw [hs]; rfl)
  · rename_i hs
    split
    · exact hw.completeTask hk' (.inl (by rw [hs]; rfl))
    · split
      · exact hw.attemptOpen _ hk' (by rw [hs]; rfl)
      · exact hw
  · rename_i hs
    exact hw.runEngine hk' (by rw [hs]; rfl)
  · rename_i hs
    split
    · exact hw.retire hk' (by rw [hs]; rfl)
    · exact hw
  · exact hw

/-- A found device gets a task only when no unfinished task holds its identity. -/
theorem Good.spawnDevice {w : World} (hw : w.Good) (d : Device) :
    (((Sim.spawnDevice d).run w).run.2).Good := by
  unfold Sim.spawnDevice
  refine after_get ?_
  split
  · exact hw
  split
  · exact hw
  split
  · exact hw
  rename_i profile _ hc
  refine after_set ?_
  have hB : ({ w with
      tasks := w.tasks.push { device := d, profile }, claimed := w.claimed ++ [d.identity]
      manager := { w.manager with tasks := w.manager.tasks ++ [w.tasks.size] } } : World).books =
      w.books.spawn d.identity := by
    simp [Books.spawn]
  have hi : d.identity ∉ w.books.claimed := by simpa using hc
  exact (hw.of_books_good (hB ▸ hw.books.spawn hi) (by rw [hB]; rfl)).of_books (books_wake _ _)

end World

end KeyMidi
