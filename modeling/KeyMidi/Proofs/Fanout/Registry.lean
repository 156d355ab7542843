import Mathlib
import KeyMidi.Fanout
/-!
# The registry of a fan-out

The registry lists the outputs of a fan-out in the order they were added; each output has a
number, and a new one takes the lowest number that no registered output holds. The numbers in use
are sorted and scanned from 0: the candidate goes up by one at each number equal to it, and the
first number that differs from it is a gap (`Fanout.firstGap`). The scan finds the lowest free
number only because the numbers in use are distinct: with a repeated number it stops at the
repeat, and the candidate there is in use.

So the main statement, `Fanout.registry_laws`, rests on an invariant of the whole fan-out
(`Fanout.Good`): registered outputs have distinct numbers below the limit, and the registry holds
each output once. Every operation keeps it:

* the forwarder and the receivers change only queues, the source and the closed flag, never the
  registry (`Fanout.Frame`, `frame_forwardStep`, `frame_settle`, …);
* adding an output appends the least free number (`freeId_leastFree`, `Good.spawn`);
* removing one erases exactly its number (`despawn_ids`, `Good.despawn`).

Along every run (`Fanout.Step`) the invariant holds, and with it the laws of adding and removing
outputs.
-/

namespace KeyMidi

/-- `n` is the least number from 0 on that `used` does not hold. -/
def LeastFree (used : List Int) (n : Int) : Prop :=
  0 ≤ n ∧ n ∉ used ∧ ∀ m, 0 ≤ m → m < n → m ∈ used

/-- There is one least free number. -/
theorem LeastFree.unique {used : List Int} {n n' : Int} (h : LeastFree used n)
    (h' : LeastFree used n') : n = n' := by
  obtain ⟨hn, hnu, hlt⟩ := h
  obtain ⟨hn', hnu', hlt'⟩ := h'
  rcases lt_trichotomy n n' with hc | hc | hc
  · exact absurd (hlt' n hn hc) hnu
  · exact hc
  · exact absurd (hlt n' hn' hc) hnu'

/-- What an output shows the registry: its number and whether it is registered. -/
def Outlet.key {α : Type} (o : Outlet α) : Int × Bool := (o.id, o.registered)

namespace Fanout

variable {α : Type}

/-! ## The scan for a free number -/

/-- The scan moves past at most one candidate per number, so the candidate never exceeds the
start plus the count of numbers. -/
theorem firstGap_le (c : Int) (l : List Int) : firstGap c l ≤ c + l.length := by
  induction l generalizing c with
  | nil => simp [firstGap]
  | cons id rest ih =>
    by_cases h : id = c
    · have := ih (c + 1)
      simp only [firstGap, h, bne_self_eq_false, Bool.false_eq_true, ↓reduceIte,
        List.length_cons, Nat.cast_add, Nat.cast_one]
      omega
    · simp only [firstGap, bne_iff_ne, ne_eq, h, not_false_eq_true, ↓reduceIte,
        List.length_cons]
      omega

/-- Over strictly ascending numbers from `c` on, the scan stops at the least number from `c` on
that the list does not hold. -/
theorem firstGap_spec {c : Int} {l : List Int} (hl : l.Pairwise (· < ·)) (hc : ∀ x ∈ l, c ≤ x) :
    c ≤ firstGap c l ∧ firstGap c l ∉ l ∧ ∀ m, c ≤ m → m < firstGap c l → m ∈ l := by
  induction l generalizing c with
  | nil => simp only [firstGap]; exact ⟨le_rfl, List.not_mem_nil, fun m h h' => absurd h' (by omega)⟩
  | cons id rest ih =>
    obtain ⟨hid, hrest⟩ := List.pairwise_cons.mp hl
    by_cases h : id = c
    · subst h
      -- the candidate met the first number and moves on to the rest, all above it
      obtain ⟨hle, hnot, hall⟩ := ih hrest (fun x hx => hid x hx)
      simp only [firstGap, bne_self_eq_false, Bool.false_eq_true, ↓reduceIte]
      refine ⟨by omega, ?_, ?_⟩
      · intro hm
        rcases List.mem_cons.mp hm with he | hm
        · omega
        · exact hnot hm
      · intro m hm hlt
        by_cases hme : m = id
        · exact hme ▸ List.mem_cons_self
        · exact List.mem_cons_of_mem _ (hall m (by omega) hlt)
    · have hgt : c < id := lt_of_le_of_ne (hc id List.mem_cons_self) (Ne.symm h)
      simp only [firstGap, bne_iff_ne, ne_eq, h, not_false_eq_true, ↓reduceIte]
      refine ⟨le_rfl, ?_, fun m h1 h2 => absurd h2 (by omega)⟩
      intro hm
      rcases List.mem_cons.mp hm with he | hm
      · omega
      · exact absurd (hid c hm) (by omega)

/-- Distinct numbers, sorted, are strictly ascending. -/
theorem mergeSort_strict {l : List Int} (hl : l.Nodup) :
    (l.mergeSort (· ≤ ·)).Pairwise (· < ·) := by
  have hsorted : (l.mergeSort (· ≤ ·)).Pairwise fun a b => decide (a ≤ b) = true :=
    List.pairwise_mergeSort (fun a b c hab hbc => by simp only [decide_eq_true_eq] at *; omega)
      (fun a b => by simp only [Bool.or_eq_true, decide_eq_true_eq]; omega) l
  have hnodup : (l.mergeSort (· ≤ ·)).Nodup := (List.mergeSort_perm l _).nodup_iff.mpr hl
  exact (hsorted.and hnodup).imp fun ⟨hle, hne⟩ => lt_of_le_of_ne (by simpa using hle) hne

/-- With distinct numbers in use, none negative, the scan of the sorted numbers from 0 finds the
least free number. -/
theorem firstGap_leastFree {used : List Int} (hn : used.Nodup) (hr : ∀ x ∈ used, 0 ≤ x) :
    LeastFree used (firstGap 0 (used.mergeSort (· ≤ ·))) := by
  have hmem : ∀ x, x ∈ used.mergeSort (· ≤ ·) ↔ x ∈ used := fun x => List.mem_mergeSort
  obtain ⟨h0, hnot, hall⟩ := firstGap_spec (mergeSort_strict hn) (fun x hx => hr x ((hmem x).mp hx))
  exact ⟨h0, fun h => hnot ((hmem _).mpr h), fun m hm hlt => (hmem m).mp (hall m hm hlt)⟩

/-! ## What the forwarder does -/

/-- One move of the forwarder from `f`. -/
inductive Move (f : Fanout α) : Fanout α → Prop
  /-- Every registered output has been offered the value: the registry is free again. -/
  | finish {v : α} {i : Nat} : f.delivering = some (v, i) → f.registry[i]? = none →
      Move f { f with delivering := none }
  /-- The next output has no receiver any more, or is missing: it is passed over. -/
  | skip {v : α} {i h : Nat} : f.delivering = some (v, i) → f.registry[i]? = some h →
      (∀ o, f.outlets[h]? = some o → o.receiverAlive = false) →
      Move f { f with delivering := some (v, i + 1) }
  /-- The next output has room: the value joins its queue. -/
  | hand {v : α} {i h : Nat} {o : Outlet α} : f.delivering = some (v, i) →
      f.registry[i]? = some h → f.outlets[h]? = some o → o.receiverAlive = true →
      o.queue.length < f.capacity →
      Move f { f.modifyOutlet h (fun o => { o with queue := o.queue ++ [v] }) with
        delivering := some (v, i + 1) }
  /-- The forwarder holds nothing and the source holds a value: the forwarder receives it. -/
  | read {v : α} {rest : List α} : f.delivering = none → f.received = none →
      f.source = v :: rest → Move f { f with source := rest, received := some v }
  /-- The forwarder has received a value: it takes the registry to hand the value out. -/
  | lock {v : α} : f.delivering = none → f.received = some v →
      Move f { f with received := none, delivering := some (v, 0) }
  /-- The source has closed and is drained: the fan-out closes. -/
  | close : f.delivering = none → f.received = none → f.source = [] → f.sourceOpen = false →
      f.closed = false → Move f { f with closed := true }

/-- Every step of the forwarder is one of its moves. -/
theorem forwardStep_move {f f' : Fanout α} (h : f.forwardStep = some f') : Move f f' := by
  unfold forwardStep at h
  split at h
  · rename_i v i hd
    split at h
    · cases h; exact .finish hd ‹_›
    · rename_i hr
      split at h
      · cases h; exact .skip hd hr (by simp_all)
      · rename_i o ho
        split at h
        · cases h; exact .skip hd hr (by simp_all)
        · split at h
          · cases h; exact .hand hd hr ho (by simp_all) ‹_›
          · cases h
  · rename_i hd
    split at h
    · cases h; exact .lock hd ‹_›
    · rename_i hrec
      split at h
      · cases h; exact .read hd hrec ‹_›
      · split at h
        · cases h
          exact .close hd hrec ‹_› (by simp_all) (by simp_all)
        · cases h

/-! ## What the forwarder and the receivers leave alone -/

/-- `f'` has the registry of `f`: the same registered outputs in the same order, the same limit,
and outputs with the same numbers and registration. -/
structure Frame (f f' : Fanout α) : Prop where
  registry : f'.registry = f.registry
  idLimit : f'.idLimit = f.idLimit
  size : f'.outlets.size = f.outlets.size
  keys : ∀ h : Nat, (f'.outlets[h]?).map Outlet.key = (f.outlets[h]?).map Outlet.key

theorem Frame.refl (f : Fanout α) : Frame f f := ⟨rfl, rfl, rfl, fun _ => rfl⟩

theorem Frame.trans {f f' f'' : Fanout α} (h₁ : Frame f f') (h₂ : Frame f' f'') : Frame f f'' :=
  ⟨h₂.registry.trans h₁.registry, h₂.idLimit.trans h₁.idLimit, h₂.size.trans h₁.size,
    fun h => (h₂.keys h).trans (h₁.keys h)⟩

/-- Changing nothing the registry shows keeps it. -/
theorem Frame.of_outlets {f f' : Fanout α} (ho : f'.outlets = f.outlets)
    (hr : f'.registry = f.registry) (hl : f'.idLimit = f.idLimit) : Frame f f' :=
  ⟨hr, hl, ho ▸ rfl, fun _ => ho ▸ rfl⟩

/-- A change of one output that keeps its number and registration keeps the registry. -/
theorem frame_modifyOutlet (f : Fanout α) (h : Nat) (g : Outlet α → Outlet α)
    (hg : ∀ o, (g o).key = o.key) : Frame f (f.modifyOutlet h g) where
  registry := rfl
  idLimit := rfl
  size := Array.size_modify
  keys h' := by
    simp only [modifyOutlet, Array.getElem?_modify]
    split
    · cases f.outlets[h']? <;> simp [hg]
    · rfl

/-- An output after a change of one output: the changed one, made from what it was, or another
one as it was. -/
theorem getElem?_modifyOutlet {f : Fanout α} {h h' : Nat} {g : Outlet α → Outlet α}
    {o' : Outlet α} (ho : (f.modifyOutlet h g).outlets[h']? = some o') :
    (h' = h ∧ ∃ o, f.outlets[h]? = some o ∧ o' = g o) ∨ (h' ≠ h ∧ f.outlets[h']? = some o') := by
  simp only [modifyOutlet, Array.getElem?_modify] at ho
  split at ho
  · rename_i he
    subst he
    obtain ⟨o, ho₀, rfl⟩ := Option.map_eq_some_iff.mp ho
    exact .inl ⟨rfl, o, ho₀, rfl⟩
  · rename_i hne
    exact .inr ⟨Ne.symm hne, ho⟩

/-- A step of the forwarder keeps the registry: it only hands a value to a queue, receives one
from the source, takes or lets go of the registry, or marks the fan-out closed. -/
theorem frame_forwardStep {f f' : Fanout α} (h : f.forwardStep = some f') : Frame f f' := by
  cases forwardStep_move h with
  | @hand v _ hd _ _ _ _ _ _ =>
    exact (frame_modifyOutlet f hd (fun o => { o with queue := o.queue ++ [v] }) fun _ => rfl).trans
      (Frame.of_outlets rfl rfl rfl)
  | finish | skip | read | lock | close => exact Frame.of_outlets rfl rfl rfl

theorem frame_settleWith (fuel : Nat) (f : Fanout α) : Frame f (f.settleWith fuel) := by
  induction fuel generalizing f with
  | zero => exact Frame.refl f
  | succ fuel ih =>
    unfold settleWith
    split
    · exact (frame_forwardStep ‹_›).trans (ih _)
    · exact Frame.refl f

theorem frame_settle (f : Fanout α) : Frame f f.settle := frame_settleWith _ f

theorem frame_put {f f' : Fanout α} {v : α} (h : f.put v = some f') : Frame f f' := by
  unfold put at h
  split at h
  · cases h
    exact Frame.of_outlets rfl rfl rfl
  · cases h

theorem frame_offer {f f' : Fanout α} {v : α} (h : f.offer v = some f') : Frame f f' := by
  obtain ⟨f₁, hput, rfl⟩ := Option.map_eq_some_iff.mp h
  exact (frame_put hput).trans (frame_settle f₁)

theorem frame_pop (f : Fanout α) (h : Nat) : Frame f (f.pop h).1 := by
  unfold pop
  split
  · exact Frame.refl f
  · split
    · rename_i rest _
      exact frame_modifyOutlet f h (fun o => { o with queue := rest }) fun _ => rfl
    · exact Frame.refl f

theorem frame_take (f : Fanout α) (h : Nat) : Frame f (f.take h).1 := by
  have hpop := frame_pop f h
  unfold take
  rcases hp : f.pop h with ⟨f', v | _ | _⟩ <;> rw [hp] at hpop
  · exact hpop.trans (frame_settle f')
  · exact hpop
  · exact hpop

theorem frame_abandon (f : Fanout α) (h : Nat) : Frame f (f.abandon h) :=
  frame_modifyOutlet f h (fun o => { o with receiverAlive := false, queue := [] }) fun _ => rfl

theorem frame_dropReceiver (f : Fanout α) (h : Nat) : Frame f (f.dropReceiver h) :=
  (frame_abandon f h).trans (frame_settle _)

theorem frame_endSource (f : Fanout α) : Frame f f.endSource := Frame.of_outlets rfl rfl rfl

theorem frame_closeSource (f : Fanout α) : Frame f f.closeSource :=
  (frame_endSource f).trans (frame_settle _)

/-- The numbers of the registered outputs are read off the registry and the outputs' numbers:
outputs with the numbers of those of `f` give the numbers `f`'s outputs would. -/
theorem ids_eq_of_numbers {f f' : Fanout α}
    (hk : ∀ h : Nat, (f'.outlets[h]?).map (·.id) = (f.outlets[h]?).map (·.id)) :
    f'.ids = f'.registry.filterMap fun h => (f.outlets[h]?).map (·.id) :=
  List.filterMap_congr fun h _ => hk h

/-- Under a frame, every output of `f'` has an output of `f` in its place with its number and
registration. -/
theorem Frame.outlet {f f' : Fanout α} (hf : Frame f f') {h : Nat} {o : Outlet α}
    (ho : f'.outlets[h]? = some o) : ∃ o₀, f.outlets[h]? = some o₀ ∧ o₀.key = o.key := by
  have hk := hf.keys h
  rw [ho] at hk
  cases h₀ : f.outlets[h]? with
  | none => simp [h₀] at hk
  | some o₀ => exact ⟨o₀, rfl, by simpa [h₀] using hk.symm⟩

theorem Frame.ids_eq {f f' : Fanout α} (hf : Frame f f') : f'.ids = f.ids := by
  rw [ids_eq_of_numbers (f := f), hf.registry]
  · rfl
  · intro h
    have := congrArg (Option.map Prod.fst) (hf.keys h)
    simpa [Option.map_map, Function.comp_def, Outlet.key] using this

/-! ## The invariant -/

/-- The registry of a fan-out as adding and removing outputs keep it: it holds outputs that
exist, each once, and exactly those marked registered; their numbers are distinct and lie in
`[0, idLimit)`. -/
structure Good (f : Fanout α) : Prop where
  handles : ∀ h ∈ f.registry, h < f.outlets.size
  nodup : f.registry.Nodup
  registered : ∀ (h : Nat) (o : Outlet α), f.outlets[h]? = some o → (o.registered = true ↔ h ∈ f.registry)
  ids_nodup : f.ids.Nodup
  ids_range : ∀ id ∈ f.ids, 0 ≤ id ∧ id < f.idLimit

theorem good_create (capacity : Nat) (idLimit : Int) : (create capacity idLimit : Fanout α).Good where
  handles _ h := nomatch h
  nodup := List.nodup_nil
  registered _ _ h := by simp [create] at h
  ids_nodup := by simp [create, ids]
  ids_range _ h := by simp [create, ids] at h

theorem Good.frame {f f' : Fanout α} (hg : f.Good) (hf : Frame f f') : f'.Good where
  handles h hh := hf.size ▸ hg.handles h (hf.registry ▸ hh)
  nodup := hf.registry ▸ hg.nodup
  registered h o ho := by
    obtain ⟨o₀, ho₀, hkey⟩ := hf.outlet ho
    have hreg : o₀.registered = o.registered := congrArg Prod.snd hkey
    rw [hf.registry, ← hreg]
    exact hg.registered h o₀ ho₀
  ids_nodup := hf.ids_eq ▸ hg.ids_nodup
  ids_range id hid := hf.idLimit ▸ hg.ids_range id (hf.ids_eq ▸ hid)

/-! ## Adding an output -/

theorem freeId_leastFree {f : Fanout α} (hg : f.Good) :
    LeastFree f.ids (firstGap 0 (f.ids.mergeSort (· ≤ ·))) :=
  firstGap_leastFree hg.ids_nodup fun x hx => (hg.ids_range x hx).1

/-- The outputs of a fan-out with one more output, registered last. -/
theorem ids_push {f : Fanout α} (hg : f.Good) (id : Int) :
    ({ f with outlets := f.outlets.push { id }, registry := f.registry ++ [f.outlets.size] } :
      Fanout α).ids = f.ids ++ [id] := by
  simp only [ids, List.filterMap_append, List.filterMap_cons, List.filterMap_nil,
    Array.getElem?_push, ↓reduceIte, Option.map_some]
  congr 1
  apply List.filterMap_congr
  intro h hh
  simp [Nat.ne_of_lt (hg.handles h hh)]

/-- What adding an output does: refused once the fan-out is closed; otherwise it takes the scan's
number if that is below the limit and registers a new output with it, and is refused when it is
not. -/
theorem spawn_eq (f : Fanout α) : f.spawn =
    let n := firstGap 0 (f.ids.mergeSort (· ≤ ·))
    if f.closed then .error .closed
    else if n < f.idLimit then
      .ok ({ f with outlets := f.outlets.push { id := n }, registry := f.registry ++ [f.outlets.size] },
        n, f.outlets.size)
    else .error .idsExhausted := by
  unfold spawn freeId
  by_cases hl : firstGap 0 (f.ids.mergeSort (· ≤ ·)) < f.idLimit
  · simp only [hl, ↓reduceIte]
    rfl
  · simp only [hl, ↓reduceIte]
    rfl

theorem Good.spawn {f f' : Fanout α} {id : Int} {h : Nat} (hg : f.Good)
    (hs : f.spawn = .ok (f', id, h)) : f'.Good := by
  rw [spawn_eq] at hs
  dsimp only at hs
  split at hs
  · cases hs
  · split at hs
    · cases hs
      obtain ⟨h0, hfree, -⟩ := freeId_leastFree hg
      refine ⟨?_, ?_, ?_, ?_, ?_⟩
      · intro h' hh'
        simp only [List.mem_append, List.mem_singleton, Array.size_push] at hh' ⊢
        rcases hh' with hh' | rfl
        · exact Nat.lt_succ_of_lt (hg.handles h' hh')
        · exact Nat.lt_succ_self _
      · exact List.nodup_append.mpr ⟨hg.nodup, List.nodup_singleton _,
          fun a ha b hb => by simp at hb; exact hb ▸ Nat.ne_of_lt (hg.handles a ha)⟩
      · intro h' o ho
        simp only [Array.getElem?_push] at ho
        split at ho
        · cases ho; simp_all
        · have hlt : h' < f.outlets.size := by
            by_contra hge
            simp [Array.getElem?_eq_none (Nat.le_of_not_lt hge)] at ho
          simp only [List.mem_append, List.mem_singleton, ‹¬h' = f.outlets.size›, or_false]
          exact hg.registered h' o ho
      · rw [ids_push hg]
        exact List.nodup_append.mpr ⟨hg.ids_nodup, List.nodup_singleton _,
          fun a ha b hb => by simp at hb; exact hb ▸ fun he => hfree (he ▸ ha)⟩
      · rw [ids_push hg]
        intro x hx
        simp only [List.mem_append, List.mem_singleton] at hx
        rcases hx with hx | rfl
        · exact hg.ids_range x hx
        · exact ⟨h0, ‹_›⟩
    · cases hs

/-! ## Removing an output -/

/-- The output found for a number: the first registered one that has it. -/
theorem despawn_eq (f : Fanout α) (id : Int) : f.despawn id =
    match f.registry.find? (fun h => (f.outlets[h]?).any (·.id == id)) with
    | none => .error (.unknownOutput id)
    | some h => .ok { f.modifyOutlet h (fun o => { o with registered := false }) with
        registry := f.registry.erase h } := rfl

/-- A number that no registered output holds is unknown. -/
theorem despawn_of_not_mem {f : Fanout α} {id : Int} (hid : id ∉ f.ids) :
    f.despawn id = .error (.unknownOutput id) := by
  rw [despawn_eq]
  split
  · rfl
  · rename_i h hfind
    obtain ⟨hp, -⟩ := List.find?_eq_some_iff_append.mp hfind
    exfalso
    apply hid
    obtain ⟨o, ho, hoid⟩ : ∃ o, f.outlets[h]? = some o ∧ o.id = id := by
      cases hh : f.outlets[h]? with
      | none => simp [hh] at hp
      | some o => exact ⟨o, rfl, by simpa [hh] using hp⟩
    exact List.mem_filterMap.mpr ⟨h, List.mem_of_find?_eq_some hfind, by simp [ho, hoid]⟩

/-- Removing a registered number erases exactly that number, and the other outputs keep their
order. -/
theorem despawn_ids {f f' : Fanout α} {id : Int} (hd : f.despawn id = .ok f') :
    f'.ids = f.ids.erase id := by
  rw [despawn_eq] at hd
  split at hd
  · cases hd
  · rename_i h hfind
    cases hd
    obtain ⟨hp, pre, post, hreg, hpre⟩ := List.find?_eq_some_iff_append.mp hfind
    -- the outputs before the removed one hold other numbers, so erasing the number and erasing
    -- the output agree
    have hh : h ∉ pre := fun hm => by simpa [hp] using hpre h hm
    refine (ids_eq_of_numbers (f := f) fun h' => ?_).trans ?_
    · simp only [modifyOutlet, Array.getElem?_modify]
      split
      · cases f.outlets[h']? <;> rfl
      · rfl
    simp only [hreg, List.erase_append_right _ hh, List.erase_cons_head]
    obtain ⟨o, ho, hoid⟩ : ∃ o, f.outlets[h]? = some o ∧ o.id = id := by
      cases hh' : f.outlets[h]? with
      | none => simp [hh'] at hp
      | some o => exact ⟨o, rfl, by simpa [hh'] using hp⟩
    have hpre' : id ∉ pre.filterMap fun h => (f.outlets[h]?).map (·.id) := by
      intro hm
      obtain ⟨a, ha, hae⟩ := List.mem_filterMap.mp hm
      have := hpre a ha
      cases hoa : f.outlets[a]? <;> simp_all
    simp only [ids, hreg, List.filterMap_append, List.filterMap_cons, ho, Option.map_some, hoid]
    rw [List.erase_append_right _ hpre', List.erase_cons_head]

/-- Some registered output holds each number in use, and removing it succeeds. -/
theorem despawn_of_mem {f : Fanout α} {id : Int} (hid : id ∈ f.ids) :
    ∃ h, (f.outlets[h]?).map (·.id) = some id ∧
      f.despawn id = .ok { f.modifyOutlet h (fun o => { o with registered := false }) with
        registry := f.registry.erase h } := by
  rw [despawn_eq]
  split
  · rename_i hfind
    obtain ⟨h, hh, hoh⟩ := List.mem_filterMap.mp hid
    have := List.find?_eq_none.mp hfind h hh
    cases ho : f.outlets[h]? <;> simp_all
  · rename_i h hfind
    obtain ⟨hp, -⟩ := List.find?_eq_some_iff_append.mp hfind
    refine ⟨h, ?_, rfl⟩
    cases ho : f.outlets[h]? <;> simp_all

theorem Good.despawn {f f' : Fanout α} {id : Int} (hg : f.Good) (hd : f.despawn id = .ok f') :
    f'.Good := by
  have hids := despawn_ids hd
  rw [despawn_eq] at hd
  split at hd
  · cases hd
  · rename_i h hfind
    cases hd
    have hmem : h ∈ f.registry := List.mem_of_find?_eq_some hfind
    refine ⟨?_, hg.nodup.erase h, ?_, hids ▸ hg.ids_nodup.erase id, ?_⟩
    · intro h' hh'
      simpa [modifyOutlet] using hg.handles h' (List.mem_of_mem_erase hh')
    · intro h' o ho
      rcases getElem?_modifyOutlet ho with ⟨rfl, o₀, -, rfl⟩ | ⟨hne, ho⟩
      · simp [hg.nodup.not_mem_erase]
      · rw [List.mem_erase_of_ne hne]
        exact hg.registered h' o ho
    · intro x hx
      exact hg.ids_range x (List.mem_of_mem_erase (hids ▸ hx))

/-! ## Runs -/

/-- A step of the parties around a fan-out: the forwarder moves; the source sends a value (while
it is open and has room) or closes; an output is added or removed once the forwarder has let go
of the registry; a receiver takes a value or goes away. A refused request changes nothing and is
no step. -/
inductive Step : Fanout α → Fanout α → Prop
  | forward {f f' : Fanout α} : f.forwardStep = some f' → Step f f'
  | send {f f' : Fanout α} {v : α} : f.sourceOpen = true → f.offer v = some f' → Step f f'
  | close {f : Fanout α} : Step f f.closeSource
  | spawn {f f' : Fanout α} {id : Int} {h : Nat} : f.busy = false → f.spawn = .ok (f', id, h) →
      Step f f'
  | despawn {f f' : Fanout α} {id : Int} : f.busy = false → f.despawn id = .ok f' → Step f f'
  | take {f : Fanout α} (h : Nat) : Step f (f.take h).1
  | drop {f : Fanout α} (h : Nat) : Step f (f.dropReceiver h)

/-- Only the forwarder, the source and the receivers move without the registry; what they do keeps
it. -/
theorem Step.frame_or {f f' : Fanout α} (hs : Step f f') :
    Frame f f' ∨ (∃ id h, f.spawn = .ok (f', id, h)) ∨ ∃ id, f.despawn id = .ok f' := by
  cases hs with
  | forward h => exact .inl (frame_forwardStep h)
  | send _ h => exact .inl (frame_offer h)
  | close => exact .inl (frame_closeSource f)
  | spawn _ h => exact .inr (.inl ⟨_, _, h⟩)
  | despawn _ h => exact .inr (.inr ⟨_, h⟩)
  | take h => exact .inl (frame_take f h)
  | drop h => exact .inl (frame_dropReceiver f h)

theorem Good.step {f f' : Fanout α} (hg : f.Good) (hs : Step f f') : f'.Good := by
  rcases hs.frame_or with hf | ⟨_, _, h⟩ | ⟨_, h⟩
  · exact hg.frame hf
  · exact hg.spawn h
  · exact hg.despawn h

/-- The limit on numbers is set when the fan-out is made. -/
theorem Step.idLimit_eq {f f' : Fanout α} (hs : Step f f') : f'.idLimit = f.idLimit := by
  rcases hs.frame_or with hf | ⟨_, _, h⟩ | ⟨_, h⟩
  · exact hf.idLimit
  · rw [spawn_eq] at h
    dsimp only at h
    split at h
    · cases h
    · split at h
      · cases h; rfl
      · cases h
  · rw [despawn_eq] at h
    split at h
    · cases h
    · cases h; rfl

/-- Every fan-out reached from a new one meets the invariant and keeps its limit. -/
theorem reach_good {capacity : Nat} {lim : Int} {f : Fanout α}
    (hr : Relation.ReflTransGen Step (create capacity lim) f) : f.Good ∧ f.idLimit = lim := by
  induction hr with
  | refl => exact ⟨good_create capacity lim, rfl⟩
  | tail _ hs ih => exact ⟨ih.1.step hs, hs.idLimit_eq.trans ih.2⟩

/-- **The registry of a fan-out.** Along every run from a new fan-out with limit `lim`, the numbers
of the registered outputs are distinct and lie in `[0, lim)`. Adding an output is refused once
the fan-out has closed; otherwise it takes the least free number and registers a new output with
it when that number is below the limit, and is refused when it is not. Removing a number in use
removes the one output that holds it and keeps the order of the others; removing any other
number is refused. A refusal changes nothing. The scan for a free number never goes past the
count of registered outputs. -/
theorem registry_laws {capacity : Nat} {lim : Int} {f : Fanout α}
    (hr : Relation.ReflTransGen Step (create capacity lim) f) :
    f.ids.Nodup ∧ (∀ id ∈ f.ids, 0 ≤ id ∧ id < lim) ∧
    (f.closed = true → f.spawn = .error .closed) ∧
    (f.closed = false → ∀ n, LeastFree f.ids n →
      (n < lim → ∃ f' h, f.spawn = .ok (f', n, h) ∧ f'.registry = f.registry ++ [h] ∧
        f'.ids = f.ids ++ [n]) ∧
      (lim ≤ n → f.spawn = .error .idsExhausted)) ∧
    (∀ id ∈ f.ids, ∃ f' h, f.despawn id = .ok f' ∧ (f.outlets[h]?).map (·.id) = some id ∧
      f'.registry = f.registry.erase h ∧ f'.ids = f.ids.erase id) ∧
    (∀ id, id ∉ f.ids → f.despawn id = .error (.unknownOutput id)) ∧
    firstGap 0 (f.ids.mergeSort (· ≤ ·)) ≤ f.ids.length := by
  obtain ⟨hg, hlim⟩ := reach_good hr
  have hscan := freeId_leastFree hg
  refine ⟨hg.ids_nodup, hlim ▸ hg.ids_range, fun hc => by simp [spawn_eq, hc], ?_, ?_,
    fun id hid => despawn_of_not_mem hid, ?_⟩
  · intro hc n hn
    have hscan_eq := hscan.unique hn
    rw [spawn_eq]
    dsimp only
    rw [if_neg (by simp [hc]), hscan_eq, hlim]
    refine ⟨fun hlt => ?_, fun hge => ?_⟩
    · rw [if_pos hlt]
      exact ⟨_, _, rfl, rfl, ids_push hg n⟩
    · rw [if_neg (not_lt.mpr hge)]
  · intro id hid
    obtain ⟨h, hh, hd⟩ := despawn_of_mem hid
    exact ⟨_, h, hd, hh, rfl, despawn_ids hd⟩
  · have := firstGap_le 0 (f.ids.mergeSort (· ≤ ·))
    simpa [List.length_mergeSort] using this

/-- The first two outputs of a new fan-out get the numbers 0 and 1. -/
theorem first_outputs_numbered :
    ∃ (f₁ f₂ : Fanout Int) (h₁ h₂ : Nat), (create 1 2 : Fanout Int).spawn = .ok (f₁, 0, h₁) ∧
      f₁.spawn = .ok (f₂, 1, h₂) := by
  let f₁ : Fanout Int := { create 1 2 with outlets := #[{ id := 0 }], registry := [0] }
  have hfirst : (create 1 2 : Fanout Int).spawn = .ok (f₁, 0, 0) := by
    simp [f₁, spawn_eq, create, ids, firstGap]
  have hr : Relation.ReflTransGen Step (create 1 2 : Fanout Int) f₁ :=
    Relation.ReflTransGen.single (Step.spawn rfl hfirst)
  have hfree : LeastFree f₁.ids 1 := by
    simp only [f₁, LeastFree, ids]
    refine ⟨by decide, by simp, fun m hm hlt => by simp; omega⟩
  obtain ⟨f₂, h₂, hsecond, -⟩ := ((registry_laws hr).2.2.2.1 rfl 1 hfree).1 (by decide)
  exact ⟨f₁, f₂, 0, h₂, hfirst, hsecond⟩

end Fanout

end KeyMidi
