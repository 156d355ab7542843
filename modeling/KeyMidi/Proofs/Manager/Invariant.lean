import KeyMidi.Proofs.Manager.Bookkeeping
/-!
# What the books of the device manager satisfy

The books (`World.books`) change in four ways only: a found device gets a task, waiting, with
its identity claimed (`Books.spawn`); a task that opened its device attaches to the loopback
input as a new output and enters the table of running devices under the next id
(`Books.attach`); a task whose input ended removes its output (`Books.detach`); and a task ends,
releasing its claim and leaving the table (`Books.finish`).

`Books.Good` says that the claimed identities are those of the tasks not done, each once, so
that no two such tasks share an identity; that the table holds distinct ids and distinct tasks,
each one running or just detached; and that the registered outputs are those of the running
tasks, one each. Each of the four changes keeps it, under the guard the device task checks
before making it (`Good.spawn`, `Good.attach`, `Good.detach`, `Good.finish`).
-/

namespace KeyMidi

/-- Changing an entry that is there reads back as the change there and the old entries
elsewhere. -/
theorem Array.getElem?_setIfInBounds_of {α : Type} {a : Array α} {k : Nat} {x y : α}
    (hk : a[k]? = some x) (j : Nat) :
    (a.setIfInBounds k y)[j]? = if j = k then some y else a[j]? := by
  have hsize : k < a.size := (Array.getElem?_eq_some_iff.mp hk).1
  rw [Array.getElem?_setIfInBounds]
  by_cases hj : j = k
  · subst hj; simp [hsize]
  · simp [Ne.symm hj, hj]

/-- An entry of an array changed at `k` is the new one at `k` and an old one elsewhere. -/
theorem Array.getElem?_setIfInBounds_cases {α : Type} {a : Array α} {k j : Nat} {x y z : α}
    (hk : a[k]? = some x) (h : (a.setIfInBounds k y)[j]? = some z) :
    (j = k ∧ z = y) ∨ (j ≠ k ∧ a[j]? = some z) := by
  rw [Array.getElem?_setIfInBounds_of hk] at h
  split at h
  · exact .inl ⟨‹_›, (Option.some.inj h).symm⟩
  · exact .inr ⟨‹_›, h⟩

/-- An entry of an array grown by one is the new one at the end and an old one elsewhere. -/
theorem Array.getElem?_push_cases {α : Type} {a : Array α} {j : Nat} {x z : α}
    (h : (a.push x)[j]? = some z) : (j = a.size ∧ z = x) ∨ (j < a.size ∧ a[j]? = some z) := by
  rw [Array.getElem?_push] at h
  split at h
  · exact .inl ⟨‹_›, (Option.some.inj h).symm⟩
  · exact .inr ⟨(Array.getElem?_eq_some_iff.mp h).1, h⟩

theorem Array.getElem?_push_of {α : Type} {a : Array α} {j : Nat} {x z : α}
    (h : a[j]? = some z) : (a.push x)[j]? = some z := by
  rw [Array.getElem?_push, if_neg (Nat.ne_of_lt (Array.getElem?_eq_some_iff.mp h).1)]
  exact h

theorem Array.getElem?_setIfInBounds_self_of {α : Type} {a : Array α} {k : Nat} {x y : α}
    (hk : a[k]? = some x) : (a.setIfInBounds k y)[k]? = some y := by
  rw [Array.getElem?_setIfInBounds_of hk, if_pos rfl]

/-- Writing back the entry that is there changes nothing. -/
theorem Array.setIfInBounds_of_getElem? {α : Type} {a : Array α} {k : Nat} {x : α}
    (hk : a[k]? = some x) : a.setIfInBounds k x = a := by
  refine Array.ext_getElem? fun j => ?_
  rw [Array.getElem?_setIfInBounds_of hk]
  split
  · subst_vars; exact hk.symm
  · rfl

theorem Array.getElem?_setIfInBounds_ne {α : Type} {a : Array α} {k j : Nat} {y : α}
    (hj : j ≠ k) : (a.setIfInBounds k y)[j]? = a[j]? := by
  rw [Array.getElem?_setIfInBounds, if_neg (Ne.symm hj)]

namespace Books

/-- A found device gets a task, waiting to open, and its identity is claimed. -/
def spawn (b : Books) (i : Identity) : Books :=
  { b with views := b.views.push ⟨i, .waiting, 0⟩, claimed := b.claimed ++ [i] }

/-- Task `k` attaches to the loopback input as a new output numbered `n`, and enters the table
under the next id. -/
def attach (b : Books) (k : Nat) (v : TaskView) (n : Int) : Books :=
  { b with
    views := b.views.setIfInBounds k { v with phase := .running, outlet := b.keys.size }
    table := b.table ++ [(b.nextId, k)]
    nextId := b.nextId + 1
    registry := b.registry ++ [b.keys.size]
    keys := b.keys.push (n, true) }

/-- Task `k` stops running: its output, numbered `n`, leaves the registry. -/
def detach (b : Books) (k : Nat) (v : TaskView) (n : Int) : Books :=
  { b with
    views := b.views.setIfInBounds k { v with phase := .detached }
    registry := b.registry.erase v.outlet
    keys := b.keys.setIfInBounds v.outlet (n, false) }

/-- Task `k` ends: its claim is released and it leaves the table. -/
def finish (b : Books) (k : Nat) (v : TaskView) : Books :=
  { b with
    views := b.views.setIfInBounds k { v with phase := .done }
    claimed := b.claimed.erase v.identity
    table := b.table.filter (·.2 != k) }

/-- The books of a manager that keeps its promises. -/
structure Good (b : Books) : Prop where
  claimed_nodup : b.claimed.Nodup
  /-- The claimed identities are those of the tasks not done. -/
  claimed : ∀ i, i ∈ b.claimed ↔ ∃ (k : Nat) (v : TaskView), b.views[k]? = some v ∧ v.phase ≠ .done ∧ v.identity = i
  /-- Two tasks not done have different identities. -/
  one_task : ∀ (k₁ k₂ : Nat) (v₁ v₂ : TaskView), b.views[k₁]? = some v₁ → b.views[k₂]? = some v₂ →
    v₁.phase ≠ .done → v₂.phase ≠ .done → v₁.identity = v₂.identity → k₁ = k₂
  table_ids : (b.table.map (·.1)).Nodup
  table_tasks : (b.table.map (·.2)).Nodup
  table_lt : ∀ e ∈ b.table, e.1 < b.nextId
  /-- An entry of the table belongs to a task that holds an output or has just let it go. -/
  table_attached : ∀ e ∈ b.table, ∃ v : TaskView, b.views[e.2]? = some v ∧
    (v.phase = .running ∨ v.phase = .detached)
  registry_nodup : b.registry.Nodup
  registry_lt : ∀ h ∈ b.registry, h < b.keys.size
  /-- The registered outputs are those of the running tasks. -/
  registry : ∀ h, h ∈ b.registry ↔ ∃ (k : Nat) (v : TaskView), b.views[k]? = some v ∧ v.phase = .running ∧ v.outlet = h
  /-- Two running tasks hold different outputs. -/
  outlet_inj : ∀ (k₁ k₂ : Nat) (v₁ v₂ : TaskView), b.views[k₁]? = some v₁ → b.views[k₂]? = some v₂ →
    v₁.phase = .running → v₂.phase = .running → v₁.outlet = v₂.outlet → k₁ = k₂

/-! ## A task ends -/

section Finish

variable {b : Books} {k : Nat} {v : TaskView}

/-- The tasks not done after task `k` ends are the others not done before. -/
theorem finish_live (hk : b.views[k]? = some v) {j : Nat} {u : TaskView}
    (hj : (b.finish k v).views[j]? = some u) (hu : u.phase ≠ .done) :
    j ≠ k ∧ b.views[j]? = some u := by
  rcases Array.getElem?_setIfInBounds_cases hk hj with ⟨-, rfl⟩ | h
  · exact absurd rfl hu
  · exact h

theorem Good.finish (hb : b.Good) (hk : b.views[k]? = some v)
    (hv : v.phase = .waiting ∨ v.phase = .detached) : (b.finish k v).Good := by
  have hlive : v.phase ≠ .done := by rcases hv with h | h <;> rw [h] <;> decide
  have hnotrun : v.phase ≠ .running := by rcases hv with h | h <;> rw [h] <;> decide
  have hold : ∀ j, j ≠ k → (b.finish k v).views[j]? = b.views[j]? := fun j hj =>
    Array.getElem?_setIfInBounds_ne hj
  have hrun : ∀ (j : Nat) (u : TaskView), (b.finish k v).views[j]? = some u → u.phase = .running →
      j ≠ k ∧ b.views[j]? = some u := fun j u hj hu =>
    finish_live hk hj (by rw [hu]; decide)
  have hsub : List.Sublist (b.finish k v).table b.table := List.filter_sublist
  refine ⟨hb.claimed_nodup.erase _, fun i => ?_, ?_, (hsub.map _).nodup hb.table_ids,
    (hsub.map _).nodup hb.table_tasks, fun e he => hb.table_lt e (hsub.subset he), ?_,
    hb.registry_nodup, hb.registry_lt, ?_, ?_⟩
  · change i ∈ b.claimed.erase v.identity ↔ _
    rw [hb.claimed_nodup.mem_erase_iff, hb.claimed]
    constructor
    · rintro ⟨hne, j, u, hj, hu, rfl⟩
      have hjk : j ≠ k := by rintro rfl; simp_all
      exact ⟨j, u, by rw [hold j hjk]; exact hj, hu, rfl⟩
    · rintro ⟨j, u, hj, hu, rfl⟩
      obtain ⟨hjk, hj⟩ := finish_live hk hj hu
      exact ⟨fun he => hjk (hb.one_task j k u v hj hk hu hlive he), j, u, hj, hu, rfl⟩
  · intro k₁ k₂ v₁ v₂ h₁ h₂ hl₁ hl₂ he
    exact hb.one_task k₁ k₂ v₁ v₂ (finish_live hk h₁ hl₁).2 (finish_live hk h₂ hl₂).2 hl₁ hl₂ he
  · intro e he
    obtain ⟨he, hne⟩ := List.mem_filter.mp he
    have hne : e.2 ≠ k := by simpa using hne
    rw [hold _ hne]
    exact hb.table_attached e he
  · intro h
    change h ∈ b.registry ↔ _
    rw [hb.registry]
    constructor
    · rintro ⟨j, u, hj, hu, rfl⟩
      have hjk : j ≠ k := by rintro rfl; simp_all
      exact ⟨j, u, by rw [hold j hjk]; exact hj, hu, rfl⟩
    · rintro ⟨j, u, hj, hu, rfl⟩
      exact ⟨j, u, (hrun j u hj hu).2, hu, rfl⟩
  · intro k₁ k₂ v₁ v₂ h₁ h₂ hr₁ hr₂ ho
    exact hb.outlet_inj k₁ k₂ v₁ v₂ (hrun _ _ h₁ hr₁).2 (hrun _ _ h₂ hr₂).2 hr₁ hr₂ ho

end Finish

/-! ## A device gets a task -/

theorem Good.spawn {b : Books} {i : Identity} (hb : b.Good) (hi : i ∉ b.claimed) :
    (b.spawn i).Good := by
  have hold : ∀ (j : Nat) (u : TaskView), b.views[j]? = some u → (b.spawn i).views[j]? = some u := fun _ _ h =>
    Array.getElem?_push_of h
  have hcases : ∀ (j : Nat) (u : TaskView), (b.spawn i).views[j]? = some u →
      (j = b.views.size ∧ u = ⟨i, .waiting, 0⟩) ∨ (j < b.views.size ∧ b.views[j]? = some u) :=
    fun _ _ h => Array.getElem?_push_cases h
  -- a task not done with identity `i` is the new one, since `i` was not claimed
  have hnew : ∀ (j : Nat) (u : TaskView), b.views[j]? = some u → u.phase ≠ .done → u.identity ≠ i := by
    rintro j u hj hu rfl
    exact hi ((hb.claimed _).mpr ⟨j, u, hj, hu, rfl⟩)
  refine ⟨?_, fun i' => ?_, ?_, hb.table_ids, hb.table_tasks, hb.table_lt, fun e he => ?_,
    hb.registry_nodup, hb.registry_lt, fun h => ?_, ?_⟩
  · exact List.nodup_append.mpr ⟨hb.claimed_nodup, List.nodup_singleton i,
      fun a ha _ hb' => by rintro rfl; simp at hb'; exact hi (hb' ▸ ha)⟩
  · change i' ∈ b.claimed ++ [i] ↔ _
    rw [List.mem_append, hb.claimed, List.mem_singleton]
    constructor
    · rintro (⟨j, u, hj, hu, rfl⟩ | rfl)
      · exact ⟨j, u, hold j u hj, hu, rfl⟩
      · exact ⟨b.views.size, _, Array.getElem?_push_size, by simp, rfl⟩
    · rintro ⟨j, u, hj, hu, rfl⟩
      rcases hcases j u hj with ⟨-, rfl⟩ | ⟨-, hj⟩
      · exact .inr rfl
      · exact .inl ⟨j, u, hj, hu, rfl⟩
  · intro k₁ k₂ v₁ v₂ h₁ h₂ hl₁ hl₂ he
    rcases hcases k₁ v₁ h₁ with ⟨rfl, rfl⟩ | ⟨-, h₁'⟩ <;>
      rcases hcases k₂ v₂ h₂ with ⟨rfl, rfl⟩ | ⟨-, h₂'⟩
    · rfl
    · exact absurd he.symm (hnew _ _ h₂' hl₂)
    · exact absurd he (hnew _ _ h₁' hl₁)
    · exact hb.one_task k₁ k₂ v₁ v₂ h₁' h₂' hl₁ hl₂ he
  · obtain ⟨u, hu, hph⟩ := hb.table_attached e he
    exact ⟨u, hold _ _ hu, hph⟩
  · change h ∈ b.registry ↔ _
    rw [hb.registry]
    constructor
    · rintro ⟨j, u, hj, hu, rfl⟩
      exact ⟨j, u, hold j u hj, hu, rfl⟩
    · rintro ⟨j, u, hj, hu, rfl⟩
      rcases hcases j u hj with ⟨-, rfl⟩ | ⟨-, hj⟩
      · simp at hu
      · exact ⟨j, u, hj, hu, rfl⟩
  · intro k₁ k₂ v₁ v₂ h₁ h₂ hr₁ hr₂ ho
    rcases hcases k₁ v₁ h₁ with ⟨-, rfl⟩ | ⟨-, h₁⟩
    · simp at hr₁
    rcases hcases k₂ v₂ h₂ with ⟨-, rfl⟩ | ⟨-, h₂⟩
    · simp at hr₂
    exact hb.outlet_inj k₁ k₂ v₁ v₂ h₁ h₂ hr₁ hr₂ ho

/-- A task that is not done and stays so, with its identity, keeps the claims: the claimed
identities are still those of the tasks not done, and no two of them share one. -/
theorem Good.live_change {b : Books} {k : Nat} {v u : TaskView} (hb : b.Good)
    (hk : b.views[k]? = some v) (hv : v.phase ≠ .done) (hu : u.phase ≠ .done)
    (hi : u.identity = v.identity) :
    (∀ i, i ∈ b.claimed ↔ ∃ (j : Nat) (x : TaskView), (b.views.setIfInBounds k u)[j]? = some x ∧
      x.phase ≠ .done ∧ x.identity = i) ∧
    (∀ (k₁ k₂ : Nat) (v₁ v₂ : TaskView), (b.views.setIfInBounds k u)[k₁]? = some v₁ →
      (b.views.setIfInBounds k u)[k₂]? = some v₂ → v₁.phase ≠ .done → v₂.phase ≠ .done →
      v₁.identity = v₂.identity → k₁ = k₂) := by
  have hcases : ∀ (j : Nat) (x : TaskView), (b.views.setIfInBounds k u)[j]? = some x →
      (j = k ∧ x = u) ∨ (j ≠ k ∧ b.views[j]? = some x) := fun _ _ h =>
    Array.getElem?_setIfInBounds_cases hk h
  refine ⟨fun i => ?_, ?_⟩
  · rw [hb.claimed]
    constructor
    · rintro ⟨j, x, hj, hx, rfl⟩
      by_cases hjk : j = k
      · subst hjk
        rw [Option.some.inj (hj.symm.trans hk)]
        exact ⟨j, u, Array.getElem?_setIfInBounds_self_of hk, hu, hi⟩
      · exact ⟨j, x, by rw [Array.getElem?_setIfInBounds_ne hjk]; exact hj, hx, rfl⟩
    · rintro ⟨j, x, hj, hx, rfl⟩
      rcases hcases j x hj with ⟨rfl, rfl⟩ | ⟨-, hj⟩
      · exact ⟨j, v, hk, hv, hi.symm⟩
      · exact ⟨j, x, hj, hx, rfl⟩
  · intro k₁ k₂ v₁ v₂ h₁ h₂ hl₁ hl₂ he
    rcases hcases k₁ v₁ h₁ with ⟨rfl, rfl⟩ | ⟨-, h₁'⟩ <;>
      rcases hcases k₂ v₂ h₂ with ⟨rfl, rfl⟩ | ⟨-, h₂'⟩
    · rfl
    · exact hb.one_task _ k₂ v v₂ hk h₂' hv hl₂ (hi.symm.trans he)
    · exact hb.one_task k₁ _ v₁ v h₁' hk hl₁ hv (he.trans hi)
    · exact hb.one_task k₁ k₂ v₁ v₂ h₁' h₂' hl₁ hl₂ he

/-! ## A task attaches -/

theorem Good.attach {b : Books} {k : Nat} {v : TaskView} (n : Int) (hb : b.Good)
    (hk : b.views[k]? = some v) (hv : v.phase = .waiting) : (b.attach k v n).Good := by
  have hold : ∀ j, j ≠ k → (b.attach k v n).views[j]? = b.views[j]? := fun _ hj =>
    Array.getElem?_setIfInBounds_ne hj
  have hcases : ∀ (j : Nat) (u : TaskView), (b.attach k v n).views[j]? = some u →
      (j = k ∧ u = { v with phase := .running, outlet := b.keys.size }) ∨
        (j ≠ k ∧ b.views[j]? = some u) := fun _ _ h =>
    Array.getElem?_setIfInBounds_cases hk h
  have hkv : ∀ u, b.views[k]? = some u → u = v := fun u hu => Option.some.inj (hu.symm.trans hk)
  -- the task attaching was waiting, so it was in no table entry and held no output
  have hk_table : k ∉ b.table.map (·.2) := by
    intro hm
    obtain ⟨e, he, rfl⟩ := List.mem_map.mp hm
    obtain ⟨u, hu, hph⟩ := hb.table_attached e he
    rw [hkv u hu, hv] at hph
    simp at hph
  have hnext : b.nextId ∉ b.table.map (·.1) := by
    intro hm
    obtain ⟨e, he, hid⟩ := List.mem_map.mp hm
    have := hb.table_lt e he
    omega
  have hfresh : b.keys.size ∉ b.registry := fun hm => by
    have := hb.registry_lt _ hm
    omega
  have hrun_lt : ∀ (j : Nat) (u : TaskView), b.views[j]? = some u → u.phase = .running → u.outlet < b.keys.size :=
    fun j u hj hu => hb.registry_lt _ ((hb.registry _).mpr ⟨j, u, hj, hu, rfl⟩)
  obtain ⟨hclaimed, hone⟩ := hb.live_change hk (by rw [hv]; decide)
    (u := { v with phase := .running, outlet := b.keys.size }) (by simp) rfl
  refine ⟨hb.claimed_nodup, hclaimed, hone, ?_, ?_, ?_, ?_, ?_, ?_, fun h => ?_, ?_⟩
  · change ((b.table ++ [(b.nextId, k)]).map (·.1)).Nodup
    rw [List.map_append, List.nodup_append]
    exact ⟨hb.table_ids, List.nodup_singleton _, fun a ha c hc => by
      rintro rfl; simp at hc; exact hnext (hc ▸ ha)⟩
  · change ((b.table ++ [(b.nextId, k)]).map (·.2)).Nodup
    rw [List.map_append, List.nodup_append]
    exact ⟨hb.table_tasks, List.nodup_singleton _, fun a ha c hc => by
      rintro rfl; simp at hc; exact hk_table (hc ▸ ha)⟩
  · intro e he
    rcases List.mem_append.mp he with he | he
    · exact Nat.lt_succ_of_lt (hb.table_lt e he)
    · simp only [List.mem_singleton] at he
      subst he
      exact Nat.lt_succ_self _
  · intro e he
    rcases List.mem_append.mp he with he | he
    · have hne : e.2 ≠ k := fun h => hk_table (h ▸ List.mem_map_of_mem he)
      rw [hold _ hne]
      exact hb.table_attached e he
    · simp only [List.mem_singleton] at he
      subst he
      exact ⟨_, Array.getElem?_setIfInBounds_self_of hk, .inl rfl⟩
  · exact List.nodup_append.mpr ⟨hb.registry_nodup, List.nodup_singleton _, fun a ha c hc => by
      rintro rfl; simp at hc; exact hfresh (hc ▸ ha)⟩
  · intro h hh
    change h < (b.keys.push (n, true)).size
    rw [Array.size_push]
    rcases List.mem_append.mp hh with hh | hh
    · exact Nat.lt_succ_of_lt (hb.registry_lt h hh)
    · simp only [List.mem_singleton] at hh
      omega
  · change h ∈ b.registry ++ [b.keys.size] ↔ _
    rw [List.mem_append, hb.registry, List.mem_singleton]
    constructor
    · rintro (⟨j, u, hj, hu, rfl⟩ | rfl)
      · have hjk : j ≠ k := by
          rintro rfl
          rw [hkv u hj, hv] at hu
          simp at hu
        exact ⟨j, u, by rw [hold j hjk]; exact hj, hu, rfl⟩
      · exact ⟨k, _, Array.getElem?_setIfInBounds_self_of hk, rfl, rfl⟩
    · rintro ⟨j, u, hj, hu, rfl⟩
      rcases hcases j u hj with ⟨-, rfl⟩ | ⟨-, hj⟩
      · exact .inr rfl
      · exact .inl ⟨j, u, hj, hu, rfl⟩
  · intro k₁ k₂ v₁ v₂ h₁ h₂ hr₁ hr₂ ho
    rcases hcases k₁ v₁ h₁ with ⟨rfl, rfl⟩ | ⟨-, h₁'⟩ <;>
      rcases hcases k₂ v₂ h₂ with ⟨rfl, rfl⟩ | ⟨-, h₂'⟩
    · rfl
    · exact absurd ho (Nat.ne_of_gt (hrun_lt _ _ h₂' hr₂))
    · exact absurd ho (Nat.ne_of_lt (hrun_lt _ _ h₁' hr₁))
    · exact hb.outlet_inj k₁ k₂ v₁ v₂ h₁' h₂' hr₁ hr₂ ho

/-! ## A task lets its output go -/

theorem Good.detach {b : Books} {k : Nat} {v : TaskView} (n : Int) (hb : b.Good)
    (hk : b.views[k]? = some v) (hv : v.phase = .running) : (b.detach k v n).Good := by
  have hold : ∀ j, j ≠ k → (b.detach k v n).views[j]? = b.views[j]? := fun _ hj =>
    Array.getElem?_setIfInBounds_ne hj
  have hcases : ∀ (j : Nat) (u : TaskView), (b.detach k v n).views[j]? = some u →
      (j = k ∧ u = { v with phase := .detached }) ∨ (j ≠ k ∧ b.views[j]? = some u) :=
    fun _ _ h => Array.getElem?_setIfInBounds_cases hk h
  have hlive : v.phase ≠ .done := by rw [hv]; decide
  have hrun : ∀ (j : Nat) (u : TaskView), (b.detach k v n).views[j]? = some u →
      u.phase = .running → j ≠ k ∧ b.views[j]? = some u := by
    intro j u hj hu
    rcases hcases j u hj with ⟨-, rfl⟩ | h
    · simp at hu
    · exact h
  obtain ⟨hclaimed, hone⟩ := hb.live_change hk hlive (u := { v with phase := .detached })
    (by simp) rfl
  refine ⟨hb.claimed_nodup, hclaimed, hone, hb.table_ids, hb.table_tasks, hb.table_lt,
    fun e he => ?_, hb.registry_nodup.erase _, fun h hh => ?_, fun h => ?_, ?_⟩
  · by_cases hek : e.2 = k
    · rw [hek]
      exact ⟨_, Array.getElem?_setIfInBounds_self_of hk, .inr rfl⟩
    · rw [hold _ hek]
      exact hb.table_attached e he
  · change h < (b.keys.setIfInBounds v.outlet (n, false)).size
    rw [Array.size_setIfInBounds]
    exact hb.registry_lt h (List.mem_of_mem_erase hh)
  · change h ∈ b.registry.erase v.outlet ↔ _
    rw [hb.registry_nodup.mem_erase_iff, hb.registry]
    constructor
    · rintro ⟨hne, j, u, hj, hu, rfl⟩
      have hjk : j ≠ k := by
        rintro rfl
        exact hne (by rw [Option.some.inj (hj.symm.trans hk)])
      exact ⟨j, u, by rw [hold j hjk]; exact hj, hu, rfl⟩
    · rintro ⟨j, u, hj, hu, rfl⟩
      obtain ⟨hjk, hj⟩ := hrun j u hj hu
      exact ⟨fun he => hjk (hb.outlet_inj j k u v hj hk hu hv he), j, u, hj, hu, rfl⟩
  · intro k₁ k₂ v₁ v₂ h₁ h₂ hr₁ hr₂ ho
    exact hb.outlet_inj k₁ k₂ v₁ v₂ (hrun _ _ h₁ hr₁).2 (hrun _ _ h₂ hr₂).2 hr₁ hr₂ ho

end Books

end KeyMidi
