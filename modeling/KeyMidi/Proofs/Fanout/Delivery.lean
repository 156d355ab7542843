import KeyMidi.Proofs.Fanout.Registry
/-!
# Delivery through a fan-out

What reaches the receiver of an output is a window of the source: the values the forwarder handed
out under the registry while the output was registered, in the order the source sent them, each
once. The forwarder receives a value before it takes the registry, so an output added in between
is owed that value, and an output removed in between is not.

To say so, a fan-out is watched (`Fanout.Watch`): beside it stand every value the source
accepted, every value each receiver took, and for each output how many values the forwarder had
handed out when the output was registered and when it was removed. The window of output `h` is
then `(sent.take stop).drop opened` (`Watch.window`); while the output is registered it ends at
the values read, the one received included.

The invariant (`Watch.Good`) says of every output whose receiver is alive that what it took,
then what waits in its buffer, then the value the forwarder holds for it, is its window; a
receiver that went away has an empty buffer and took the start of its window, up to what the
forwarder still holds for it. The parties move one step at a time (`Watch.Step`), so every
interleaving of their steps is a run, and every step keeps the invariant (`Good.step`). Each move
of the forwarder does (`Good.forward`): receiving a value extends the window of every registered
output by it, which the forwarder then holds for each of them; taking the registry changes nothing
owed; handing the value over moves it from "held" to "buffered"; passing over an output whose
receiver is gone leaves that receiver nothing more to take. An output added while the forwarder
waits for the registry is owed the value received, and one removed then has its window closed
before it. A request of the fan-out, a step followed by the forwarder running, is a run
(`Step.offer`, `Step.take`, …).

The main statement is `Fanout.Watch.delivery`.
-/

namespace KeyMidi

namespace Fanout

variable {α : Type}

/-- The value the forwarder holds for output `h`: while it hands a value out, that value, until it
comes to `h` in the registry; while it waits for the registry, the value received, for every
registered output. -/
def pending (f : Fanout α) (h : Nat) : List α :=
  match f.delivering with
  | some (v, i) => if h ∈ f.registry.drop i then [v] else []
  | none => if h ∈ f.registry then f.received.toList else []

/-- What a take gave the receiver: the value, if there was one. -/
def Taken.toList : Taken α → List α
  | .value v => [v]
  | _ => []

/-- A take gives what the receiver's own step gives; the forwarder only runs after it. -/
theorem take_snd (f : Fanout α) (h : Nat) : (f.take h).2 = (f.pop h).2 := by
  unfold take
  rcases f.pop h with ⟨f', v | _ | _⟩ <;> rfl

theorem pending_of_free {f : Fanout α} (hd : f.delivering = none) (hr : f.received = none)
    (h : Nat) : f.pending h = [] := by
  simp [pending, hd, hr]

theorem pending_of_not_mem {f : Fanout α} {h : Nat} (hh : h ∉ f.registry) : f.pending h = [] := by
  unfold pending
  split
  · rw [if_neg fun hm => hh (List.mem_of_mem_drop hm)]
  · rw [if_neg hh]

/-- Past the end of the registry the forwarder owes nobody. -/
theorem pending_finish {f : Fanout α} {v : α} {i : Nat} (hd : f.delivering = some (v, i))
    (hr : f.registry[i]? = none) (h : Nat) : f.pending h = [] := by
  have hlen : f.registry.length ≤ i := List.getElem?_eq_none_iff.mp hr
  simp [pending, hd, List.drop_eq_nil_of_le hlen]

/-- Moving past output `h₀` settles what the forwarder owed it and nothing else. -/
theorem pending_advance {f : Fanout α} {v : α} {i h₀ : Nat} (hn : f.registry.Nodup)
    (hd : f.delivering = some (v, i)) (hr : f.registry[i]? = some h₀) (h : Nat) :
    ({ f with delivering := some (v, i + 1) } : Fanout α).pending h =
      if h = h₀ then [] else f.pending h := by
  obtain ⟨hi, hget⟩ := List.getElem?_eq_some_iff.mp hr
  -- the registry from position `i` on is `h₀` and then the rest, which does not hold `h₀`
  have hsplit : f.registry.drop i = h₀ :: f.registry.drop (i + 1) := by
    rw [List.drop_eq_getElem_cons hi, hget]
  have hnot : h₀ ∉ f.registry.drop (i + 1) := by
    have := (List.drop_sublist i f.registry).nodup hn
    rw [hsplit] at this
    exact (List.nodup_cons.mp this).1
  simp only [pending, hd, hsplit, List.mem_cons]
  by_cases he : h = h₀
  · subst he; simp [hnot]
  · simp [he]

/-- The forwarder holds the value for the output it has come to. -/
theorem pending_reached {f : Fanout α} {v : α} {i h₀ : Nat} (hd : f.delivering = some (v, i))
    (hr : f.registry[i]? = some h₀) : f.pending h₀ = [v] := by
  obtain ⟨hi, hget⟩ := List.getElem?_eq_some_iff.mp hr
  simp [pending, hd, List.drop_eq_getElem_cons hi, hget]

/-- Receiving a value owes it to every registered output. -/
theorem pending_read {f : Fanout α} (hd : f.delivering = none) (v : α) (rest : List α) (h : Nat) :
    ({ f with source := rest, received := some v } : Fanout α).pending h =
      if h ∈ f.registry then [v] else [] := by
  simp [pending, hd]

/-- Taking the registry owes nothing new: the whole registry is still ahead of the forwarder. -/
theorem pending_lock {f : Fanout α} {v : α} (hd : f.delivering = none) (hr : f.received = some v)
    (h : Nat) :
    ({ f with received := none, delivering := some (v, 0) } : Fanout α).pending h = f.pending h := by
  simp [pending, hd, hr]

/-- While the forwarder waits for the registry, it owes the value received to the registered
outputs. -/
theorem pending_waiting {f : Fanout α} (hd : f.delivering = none) (h : Nat) :
    f.pending h = if h ∈ f.registry then f.received.toList else [] := by
  simp [pending, hd]

/-- A fan-out with what the parties around it have seen. -/
structure Watch (α : Type) where
  fan : Fanout α
  /-- Every value the source accepted, in order. -/
  sent : List α
  /-- The values each receiver took, by output. -/
  got : Nat → List α
  /-- For each output, how many values the forwarder had handed out when it was registered. -/
  opened : Nat → Nat
  /-- For each removed output, how many values the forwarder had handed out when it was removed. -/
  shut : Nat → Option Nat

namespace Watch

/-- A new fan-out that nobody has used yet. -/
def start (capacity : Nat) (idLimit : Int) : Watch α :=
  ⟨create capacity idLimit, [], fun _ => [], fun _ => 0, fun _ => none⟩

/-- How many values the forwarder has read from the source. -/
def reads (w : Watch α) : Nat := w.sent.length - w.fan.source.length

/-- How many values the forwarder has handed out or is handing out: those read, but for one it
received and waits for the registry with. -/
def handed (w : Watch α) : Nat := w.reads - w.fan.received.toList.length

/-- Where the window of output `h` ends: where it was removed, or now. -/
def stop (w : Watch α) (h : Nat) : Nat := (w.shut h).getD w.reads

/-- The values the forwarder handed out while output `h` was registered; while it is, the value
received too. -/
def window (w : Watch α) (h : Nat) : List α := (w.sent.take (w.stop h)).drop (w.opened h)

/-- What a receiver has taken, what waits for it and what the forwarder holds for it, against its
window: with a live receiver they are the window; a receiver that went away has nothing waiting,
and took the start of its window up to what the forwarder holds for it. -/
def Tracks (taken window held : List α) (o : Outlet α) : Prop :=
  (o.receiverAlive = true → taken ++ o.queue ++ held = window) ∧
    (o.receiverAlive = false → o.queue = [] ∧ ∃ skipped, taken ++ skipped ++ held = window)

/-- The invariant of a watched fan-out. -/
structure Good (w : Watch α) : Prop where
  fan : w.fan.Good
  /-- The forwarder holds one value at most: one received, or one it hands out. -/
  held : w.fan.received = none ∨ w.fan.delivering = none
  /-- The value received, then the source, are the last values sent. -/
  source : w.fan.received.toList ++ w.fan.source <:+ w.sent
  shut_le : ∀ h e, w.shut h = some e → e ≤ w.handed
  /-- An output not made yet has taken nothing and was never removed. -/
  unmade : ∀ h, w.fan.outlets.size ≤ h → w.got h = [] ∧ w.shut h = none
  opened_le : ∀ h, h < w.fan.outlets.size → w.opened h ≤ (w.shut h).getD w.handed
  /-- An output has a window's end exactly when it is no longer registered. -/
  shut_iff : ∀ h o, w.fan.outlets[h]? = some o → (w.shut h = none ↔ o.registered = true)
  tracks : ∀ h o, w.fan.outlets[h]? = some o →
    Tracks (w.got h) (w.window h) (w.fan.pending h) o

theorem good_start (capacity : Nat) (idLimit : Int) : (start capacity idLimit : Watch α).Good where
  fan := good_create capacity idLimit
  held := .inl rfl
  source := List.suffix_refl _
  shut_le _ _ h := nomatch h
  unmade _ _ := ⟨rfl, rfl⟩
  opened_le _ h := by simp [start, create] at h
  shut_iff _ _ h := by simp [start, create] at h
  tracks _ _ h := by simp [start, create] at h

/-! ## The forwarder -/

theorem handed_le (w : Watch α) : w.handed ≤ w.reads := Nat.sub_le _ _

/-- The values read are those handed out, then the one received. -/
theorem Good.take_reads {w : Watch α} (hw : w.Good) :
    w.sent.take w.reads = w.sent.take w.handed ++ w.fan.received.toList ∧
      w.handed ≤ w.sent.length := by
  obtain ⟨pre, hpre⟩ := hw.source
  have hreads : w.reads = pre.length + w.fan.received.toList.length := by
    simp only [reads, ← hpre, List.length_append]
    omega
  have hhanded : w.handed = pre.length := by simp only [handed, hreads]; omega
  rw [hreads, hhanded, ← hpre]
  simp [List.take_append]

/-- A window still open ends at the values read: it is what was handed out since it opened, then
the value received. -/
theorem Good.window_open {w : Watch α} (hw : w.Good) {h : Nat} (hs : w.shut h = none)
    (hop : w.opened h ≤ w.handed) :
    w.window h = (w.sent.take w.handed).drop (w.opened h) ++ w.fan.received.toList := by
  obtain ⟨htake, hle⟩ := hw.take_reads
  simp only [window, stop, hs, Option.getD_none, htake]
  exact List.drop_append_of_le_length (by simp; omega)

/-- A window is fixed by what was sent, what the source still holds, and where it opened and
closed. -/
theorem window_congr {w w' : Watch α} {h : Nat} (hs : w'.sent = w.sent)
    (hsrc : w'.fan.source = w.fan.source) (ho : w'.opened h = w.opened h)
    (hsh : (w'.shut h).getD w.reads = (w.shut h).getD w.reads) : w'.window h = w.window h := by
  have hreads : w'.reads = w.reads := by simp [reads, hs, hsrc]
  simp only [window, stop, hreads, hsh, hs, ho]

/-- An output stays tracked while nothing it is owed changes, but for a value held for a receiver
that went away, which the forwarder may let go of. -/
theorem Tracks.of_eq {taken window held taken' window' held' : List α} {o : Outlet α}
    (ht : Tracks taken window held o) (h₁ : taken' = taken) (h₂ : window' = window)
    (h₃ : held' = held ∨ o.receiverAlive = false ∧ held' = []) : Tracks taken' window' held' o := by
  subst h₁ h₂
  rcases h₃ with rfl | ⟨hdead, rfl⟩
  · exact ht
  · refine ⟨fun ha => by simp [hdead] at ha, fun _ => ?_⟩
    obtain ⟨hq, skipped, hs⟩ := ht.2 hdead
    exact ⟨hq, skipped ++ held, by simpa using hs⟩

/-- An output whose window closes before the value held for it is owed nothing more. -/
theorem Tracks.close {taken window held : List α} {o : Outlet α}
    (ht : Tracks taken (window ++ held) held o) : Tracks taken window [] o := by
  refine ⟨fun ha => ?_, fun hd => ?_⟩
  · simpa using List.append_cancel_right (ht.1 ha)
  · obtain ⟨hq, skipped, hs⟩ := ht.2 hd
    exact ⟨hq, skipped, by simpa using List.append_cancel_right hs⟩

/-- A change of the fan-out alone keeps the invariant when it keeps the registry, leaves the
forwarder holding one value at most, reads from the source and takes the registry at most, and
keeps every output tracked. -/
theorem Good.of_frame {w : Watch α} {f' : Fanout α} (hw : w.Good) (hg : f'.Good)
    (hf : Frame w.fan f') (hheld : f'.received = none ∨ f'.delivering = none)
    (hsrc : f'.received.toList ++ f'.source <:+ w.fan.received.toList ++ w.fan.source)
    (htracks : ∀ h o, f'.outlets[h]? = some o →
      Tracks (w.got h) (({ w with fan := f' } : Watch α).window h) (f'.pending h) o) :
    ({ w with fan := f' } : Watch α).Good := by
  have hhanded : w.handed ≤ ({ w with fan := f' } : Watch α).handed := by
    have := hsrc.length_le
    simp only [List.length_append] at this
    simp only [handed, reads]
    omega
  refine ⟨hg, hheld, hsrc.trans hw.source, fun h e he => (hw.shut_le h e he).trans hhanded,
    fun h hh => hw.unmade h (hf.size ▸ hh), fun h hh => ?_, fun h o ho => ?_, htracks⟩
  · refine (hw.opened_le h (hf.size ▸ hh)).trans ?_
    cases w.shut h <;> simp [hhanded]
  · obtain ⟨o₀, ho₀, hkey⟩ := hf.outlet ho
    have hreg : o₀.registered = o.registered := congrArg Prod.snd hkey
    rw [← hreg]
    exact hw.shut_iff h o₀ ho₀

/-- Receiving the next value from the source extends the window of every registered output by it,
and the forwarder holds it for each of them. -/
theorem Good.read_tracks {w : Watch α} {v : α} {rest : List α} (hw : w.Good)
    (hsrc : w.fan.source = v :: rest) (hfree : w.fan.delivering = none)
    (hnone : w.fan.received = none) {h : Nat} {o : Outlet α} (ho : w.fan.outlets[h]? = some o) :
    Tracks (w.got h)
      (({ w with fan := { w.fan with source := rest, received := some v } } : Watch α).window h)
      (({ w.fan with source := rest, received := some v } : Fanout α).pending h) o := by
  have ht := hw.tracks h o ho
  have hpend : w.fan.pending h = [] := pending_of_free hfree hnone h
  obtain ⟨pre, hpre⟩ := hw.source
  simp only [hnone, Option.toList_none, List.nil_append] at hpre
  have hreads : w.reads = pre.length := by simp [reads, ← hpre]
  have hreads' : ({ w with fan := { w.fan with source := rest, received := some v } } :
      Watch α).reads = pre.length + 1 := by
    simp [reads, ← hpre, hsrc]
    omega
  cases hs : w.shut h with
  | none =>
    have hreg : h ∈ w.fan.registry :=
      (hw.fan.registered h o ho).mp ((hw.shut_iff h o ho).mp hs)
    have hop : w.opened h ≤ pre.length := by
      have := hw.opened_le h (Array.getElem?_eq_some_iff.mp ho).1
      simp only [hs, Option.getD_none] at this
      exact this.trans (hreads ▸ handed_le w)
    have hnow : w.sent.take pre.length = pre := by rw [← hpre]; simp
    have hnext : w.sent.take (pre.length + 1) = pre ++ [v] := by
      rw [← hpre, hsrc]; simp [List.take_append]
    have hwin : ({ w with fan := { w.fan with source := rest, received := some v } } :
        Watch α).window h = w.window h ++ [v] := by
      simp only [window, stop, hs, Option.getD_none, hreads, hreads', hnow, hnext]
      exact List.drop_append_of_le_length hop
    rw [pending_read hfree, if_pos hreg, hwin]
    rw [hpend] at ht
    refine ⟨fun ha => by rw [← ht.1 ha]; simp, fun hd => ?_⟩
    obtain ⟨hq, skipped, hskip⟩ := ht.2 hd
    exact ⟨hq, skipped, by rw [← hskip]; simp⟩
  | some e =>
    have hnreg : h ∉ w.fan.registry := fun hm => by
      simpa [hs] using (hw.shut_iff h o ho).mpr ((hw.fan.registered h o ho).mpr hm)
    refine ht.of_eq rfl (by simp [window, stop, hs]) (.inl ?_)
    rw [pending_read hfree, if_neg hnreg, hpend]

/-- Every move of the forwarder keeps the invariant. -/
theorem Good.forward {w : Watch α} {f' : Fanout α} (hw : w.Good)
    (hs : w.fan.forwardStep = some f') : ({ w with fan := f' } : Watch α).Good := by
  have hg := hw.fan.step (Fanout.Step.forward hs)
  have hf := frame_forwardStep hs
  -- while the forwarder hands a value out, it has received no other
  have hrec : ∀ {v : α} {i : Nat}, w.fan.delivering = some (v, i) → w.fan.received = none :=
    fun hd => hw.held.resolve_right (by simp [hd])
  cases forwardStep_move hs with
  | finish hd hr =>
    refine hw.of_frame hg hf (.inr rfl) (List.suffix_refl _) fun h o ho => ?_
    exact (hw.tracks h o ho).of_eq rfl rfl (.inl (by
      rw [pending_of_free (f := { w.fan with delivering := none }) rfl (hrec hd),
        pending_finish hd hr]))
  | @skip v i h₀ hd hr hdead =>
    refine hw.of_frame hg hf (.inl (hrec hd)) (List.suffix_refl _) fun h o ho => ?_
    refine (hw.tracks h o ho).of_eq rfl rfl ?_
    rw [pending_advance hw.fan.nodup hd hr]
    by_cases he : h = h₀
    · subst he
      exact .inr ⟨hdead o ho, if_pos rfl⟩
    · exact .inl (if_neg he)
  | @hand v i h₀ o₀ hd hr ho₀ halive hroom =>
    refine hw.of_frame hg hf (.inl (hrec hd)) (List.suffix_refl _) fun h o ho => ?_
    change Tracks _ (w.window h) (({ w.fan with delivering := some (v, i + 1) } : Fanout α).pending h) o
    rw [pending_advance hw.fan.nodup hd hr]
    rcases getElem?_modifyOutlet ho with ⟨rfl, o₁, ho₁, rfl⟩ | ⟨hne, ho⟩
    · obtain rfl := Option.some.inj (ho₁.symm.trans ho₀)
      have ht := (hw.tracks _ o₁ ho₀).1 halive
      rw [pending_reached hd hr] at ht
      exact ⟨fun _ => by simpa using ht, fun hd' => by simp [halive] at hd'⟩
    · rw [if_neg hne]
      exact hw.tracks h o ho
  | read hd hnone hsrc =>
    exact hw.of_frame hg hf (.inr hd) (by simp [hsrc, hnone]) fun h o ho =>
      hw.read_tracks hsrc hd hnone ho
  | lock hd hr =>
    refine hw.of_frame hg hf (.inl rfl) (by simp [hr]) fun h o ho => ?_
    exact (hw.tracks h o ho).of_eq rfl rfl (.inl (pending_lock hd hr h))
  | close hd hnone hsrc hopen hclosed =>
    exact hw.of_frame hg hf (.inr hd) (List.suffix_refl _) fun h o ho => hw.tracks h o ho

/-! ## The source -/

/-- The watched fan-out once its source accepted `v`, before the forwarder moves. -/
def accept (w : Watch α) (v : α) : Watch α :=
  { w with fan := { w.fan with source := w.fan.source ++ [v] }, sent := w.sent ++ [v] }

theorem reads_accept (w : Watch α) (v : α) : (w.accept v).reads = w.reads := by
  simp only [accept, reads, List.length_append, List.length_singleton]
  omega

theorem handed_accept (w : Watch α) (v : α) : (w.accept v).handed = w.handed := by
  simp only [handed, reads_accept]
  rfl

/-- Windows end at or before the values read, so a value sent later leaves them alone. -/
theorem Good.window_accept {w : Watch α} (hw : w.Good) (v : α) (h : Nat) :
    (w.accept v).window h = w.window h := by
  have hstop : w.stop h ≤ w.sent.length := by
    cases hs : w.shut h with
    | none => simp only [stop, hs, Option.getD_none, reads]; omega
    | some e =>
      have := (hw.shut_le h e hs).trans (handed_le w)
      simp only [stop, hs, Option.getD_some, reads] at this ⊢
      omega
  simp only [window, stop, reads_accept]
  rw [accept, List.take_append_of_le_length (by simpa [stop] using hstop)]

/-- A value the source accepts waits behind the others; nothing read changes. -/
theorem Good.accept {w : Watch α} (hw : w.Good) (v : α) : (w.accept v).Good := by
  obtain ⟨pre, hpre⟩ := hw.source
  refine ⟨hw.fan.frame (Frame.of_outlets rfl rfl rfl), hw.held,
    ⟨pre, by simp [Watch.accept, ← hpre]⟩,
    fun h e he => (handed_accept w v).symm ▸ hw.shut_le h e he, hw.unmade, fun h hh => ?_,
    hw.shut_iff, fun h o ho => (hw.tracks h o ho).of_eq rfl (hw.window_accept v h) (.inl rfl)⟩
  rw [handed_accept]
  exact hw.opened_le h hh

theorem Good.put {w : Watch α} {f' : Fanout α} {v : α} (hw : w.Good)
    (hs : w.fan.put v = some f') : ({ w with fan := f', sent := w.sent ++ [v] } : Watch α).Good := by
  unfold Fanout.put at hs
  split at hs
  · cases hs
    exact hw.accept v
  · cases hs

theorem Good.endSource {w : Watch α} (hw : w.Good) :
    ({ w with fan := w.fan.endSource } : Watch α).Good :=
  hw.of_frame (hw.fan.frame (frame_endSource _)) (frame_endSource _) hw.held (List.suffix_refl _)
    fun h o ho => hw.tracks h o ho

/-! ## The receivers -/

/-- Changing one output in a way the registry does not see, with what its receiver took, keeps
the invariant when the output stays tracked. -/
theorem Good.modify_one {w : Watch α} (hw : w.Good) {h : Nat} {o : Outlet α}
    (ho : w.fan.outlets[h]? = some o) (g : Outlet α → Outlet α) (hg : ∀ o, (g o).key = o.key)
    (taken : List α) (ht : Tracks taken (w.window h) (w.fan.pending h) (g o)) :
    ({ w with fan := w.fan.modifyOutlet h g, got := Function.update w.got h taken } :
      Watch α).Good := by
  have hf := frame_modifyOutlet w.fan h g hg
  have hsize : h < w.fan.outlets.size := (Array.getElem?_eq_some_iff.mp ho).1
  refine ⟨hw.fan.frame hf, hw.held, hw.source, hw.shut_le, fun h' hh' => ?_, fun h' hh' => ?_,
    fun h' o' ho' => ?_, fun h' o' ho' => ?_⟩
  · have hne : h' ≠ h := by simp only [hf.size] at hh'; omega
    simpa [Function.update_of_ne hne] using hw.unmade h' (hf.size ▸ hh')
  · exact hw.opened_le h' (hf.size ▸ hh')
  · rcases getElem?_modifyOutlet ho' with ⟨rfl, o₁, ho₁, rfl⟩ | ⟨-, ho'⟩
    · obtain rfl := Option.some.inj (ho₁.symm.trans ho)
      rw [show (g o₁).registered = o₁.registered from congrArg Prod.snd (hg o₁)]
      exact hw.shut_iff _ o₁ ho
    · exact hw.shut_iff h' o' ho'
  · rcases getElem?_modifyOutlet ho' with ⟨rfl, o₁, ho₁, rfl⟩ | ⟨hne, ho'⟩
    · obtain rfl := Option.some.inj (ho₁.symm.trans ho)
      simp only [Function.update_self]
      exact ht
    · simp only [Function.update_of_ne hne]
      exact hw.tracks h' o' ho'

/-- A receiver that takes the next value of its buffer has taken it. -/
theorem Good.pop {w : Watch α} (hw : w.Good) {h : Nat} {o : Outlet α}
    (ho : w.fan.outlets[h]? = some o) (halive : o.receiverAlive = true) :
    ({ w with fan := (w.fan.pop h).1,
              got := Function.update w.got h (w.got h ++ (w.fan.pop h).2.toList) } :
      Watch α).Good := by
  have ht := (hw.tracks h o ho).1 halive
  unfold Fanout.pop
  simp only [ho]
  split
  · rename_i v rest hq
    refine hw.modify_one ho (fun o => { o with queue := rest }) (fun _ => rfl) (w.got h ++ [v])
      ⟨fun _ => ?_, fun hd => by simp [halive] at hd⟩
    simpa [hq] using ht
  · have hnone : (if o.registered = true then Taken.empty else Taken.disconnected :
        Taken α).toList = [] := by
      split <;> rfl
    simp only [hnone, List.append_nil, Function.update_eq_self]
    exact hw

/-- A receiver that goes away leaves its output with an empty buffer, having taken the start of
its window up to what the forwarder holds for it. -/
theorem Good.abandon {w : Watch α} (hw : w.Good) (h : Nat) :
    ({ w with fan := w.fan.abandon h } : Watch α).Good := by
  unfold Fanout.abandon
  cases ho : w.fan.outlets[h]? with
  | none =>
    have hf := frame_modifyOutlet w.fan h (fun o => { o with receiverAlive := false, queue := [] })
      fun _ => rfl
    refine hw.of_frame (hw.fan.frame hf) hf hw.held (List.suffix_refl _) fun h' o' ho' => ?_
    rcases getElem?_modifyOutlet ho' with ⟨rfl, o₁, ho₁, -⟩ | ⟨-, ho'⟩
    · simp [ho] at ho₁
    · exact hw.tracks h' o' ho'
  | some o =>
    have hskip : ∃ skipped, w.got h ++ skipped ++ w.fan.pending h = w.window h := by
      cases ha : o.receiverAlive
      · exact ((hw.tracks h o ho).2 ha).2
      · exact ⟨o.queue, (hw.tracks h o ho).1 ha⟩
    have := hw.modify_one ho (fun o => { o with receiverAlive := false, queue := [] })
      (fun _ => rfl) (w.got h) ⟨fun hd => by simp at hd, fun _ => ⟨rfl, hskip⟩⟩
    simpa using this

/-! ## The registry -/

/-- A new output is registered while the forwarder does not hold the registry: its window opens at
the values handed out so far, so it is owed the value received, if any. -/
theorem Good.spawn {w : Watch α} {f' : Fanout α} {id : Int} {h : Nat} (hw : w.Good)
    (hfree : w.fan.busy = false) (hs : w.fan.spawn = .ok (f', id, h)) :
    ({ w with fan := f', opened := Function.update w.opened h w.handed } : Watch α).Good := by
  have hg := hw.fan.spawn hs
  have hd : w.fan.delivering = none := by simpa [busy] using hfree
  rw [spawn_eq] at hs
  dsimp only at hs
  split at hs
  · cases hs
  split at hs
  swap
  · cases hs
  cases hs
  have hnew := hw.unmade w.fan.outlets.size le_rfl
  refine ⟨hg, hw.held, hw.source, hw.shut_le, fun h' hh' => hw.unmade h' (by simp at hh'; omega),
    fun h' hh' => ?_, fun h' o ho => ?_, fun h' o ho => ?_⟩
  · by_cases he : h' = w.fan.outlets.size
    · subst he
      simp [hnew.2, handed, reads]
    · simp only [Function.update_of_ne he]
      exact hw.opened_le h' (by simp at hh'; omega)
  · simp only [Array.getElem?_push] at ho
    split at ho
    · rename_i he
      cases ho
      subst he
      simp [hnew.2]
    · exact hw.shut_iff h' o ho
  · simp only [Array.getElem?_push] at ho
    split at ho
    · rename_i he
      cases ho
      subst he
      obtain ⟨htake, hle⟩ := hw.take_reads
      have hwin : (w.sent.take w.reads).drop w.handed = w.fan.received.toList := by
        rw [htake, List.drop_left' (by simp; omega)]
      refine ⟨fun _ => ?_, fun ha => by simp at ha⟩
      simp only [window, stop, reads, handed] at hwin ⊢
      simp [hnew.1, hnew.2, pending, hd, hwin]
    · rename_i hne
      refine (hw.tracks h' o ho).of_eq rfl ?_ (.inl ?_)
      · simp [window, stop, Function.update_of_ne hne, reads]
      · simp [pending, hd, hne]

/-- An output is removed while the forwarder does not hold the registry: its window closes at the
values handed out so far, which it already has or waits for, and the value received is no longer
owed to it. -/
theorem Good.despawn {w : Watch α} {f' : Fanout α} {id : Int} (hw : w.Good)
    (hfree : w.fan.busy = false) (hd : w.fan.despawn id = .ok f') :
    ({ w with fan := f', shut := fun h => if h ∈ w.fan.registry ∧ h ∉ f'.registry
                                         then some w.handed else w.shut h } : Watch α).Good := by
  have hg := hw.fan.despawn hd
  have hnone : w.fan.delivering = none := by simpa [busy] using hfree
  rw [despawn_eq] at hd
  split at hd
  · cases hd
  rename_i h₀ hfind
  cases hd
  have hmem : h₀ ∈ w.fan.registry := List.mem_of_find?_eq_some hfind
  have hleft : ∀ h, (h ∈ w.fan.registry ∧ h ∉ w.fan.registry.erase h₀) ↔ h = h₀ := by
    intro h
    by_cases he : h = h₀
    · subst he; exact ⟨fun _ => rfl, fun _ => ⟨hmem, hw.fan.nodup.not_mem_erase⟩⟩
    · simp [List.mem_erase_of_ne he, he]
  have hsize : h₀ < w.fan.outlets.size := hw.fan.handles h₀ hmem
  obtain ⟨o₀, ho₀⟩ : ∃ o₀, w.fan.outlets[h₀]? = some o₀ :=
    ⟨_, Array.getElem?_eq_getElem hsize⟩
  have hopen : w.shut h₀ = none :=
    (hw.shut_iff h₀ o₀ ho₀).mpr ((hw.fan.registered h₀ o₀ ho₀).mpr hmem)
  have hop₀ : w.opened h₀ ≤ w.handed := by simpa [hopen] using hw.opened_le h₀ hsize
  have hstop : ∀ h, h ≠ h₀ → ∀ n, (if h ∈ w.fan.registry ∧ h ∉ w.fan.registry.erase h₀
      then some w.handed else w.shut h).getD n = (w.shut h).getD n := by
    intro h hne n
    simp [(hleft h).not.mpr hne]
  refine ⟨hg, hw.held, hw.source, fun h e he => ?_, fun h hh => ?_, fun h hh => ?_,
    fun h o ho => ?_, fun h o ho => ?_⟩
  · dsimp only at he
    split at he
    · cases he; exact le_rfl
    · exact hw.shut_le h e he
  · have hne : h ≠ h₀ := by simp [modifyOutlet] at hh; omega
    simpa [(hleft h).not.mpr hne] using hw.unmade h (by simpa [modifyOutlet] using hh)
  · by_cases he : h = h₀
    · subst he
      simpa [hmem, hw.fan.nodup.not_mem_erase] using hop₀
    · rw [hstop h he]
      exact hw.opened_le h (by simpa [modifyOutlet] using hh)
  · rcases getElem?_modifyOutlet ho with ⟨rfl, o₁, -, rfl⟩ | ⟨hne, ho⟩
    · simp [hmem, hw.fan.nodup.not_mem_erase]
    · simp only [(hleft h).not.mpr hne, if_false]
      exact hw.shut_iff h o ho
  · rcases getElem?_modifyOutlet ho with ⟨rfl, o₁, ho₁, rfl⟩ | ⟨hne, ho⟩
    · -- the removed output's window closes before the value received
      obtain rfl := Option.some.inj (ho₁.symm.trans ho₀)
      have ht := hw.tracks _ o₁ ho₀
      rw [hw.window_open hopen hop₀, pending_waiting hnone, if_pos hmem] at ht
      refine ht.close.of_eq rfl ?_ (.inl ?_)
      · simp [window, stop, hmem, hw.fan.nodup.not_mem_erase]
      · exact pending_of_not_mem hw.fan.nodup.not_mem_erase
    · refine (hw.tracks h o ho).of_eq rfl ?_ (.inl ?_)
      · exact window_congr rfl rfl rfl (hstop h hne w.reads)
      · simp [pending, modifyOutlet, hnone, List.mem_erase_of_ne hne]

/-! ## Runs -/

/-- What can happen to a watched fan-out, one step of one party at a time: the forwarder moves; the
source accepts a value while it is open, or closes; an output is added or removed while the
forwarder does not hold the registry, its window opening or closing at the values handed out so
far; a live receiver takes what it can; a receiver goes away. -/
inductive Step : Watch α → Watch α → Prop
  | forward {w : Watch α} {f' : Fanout α} : w.fan.forwardStep = some f' →
      Step w { w with fan := f' }
  | put {w : Watch α} {f' : Fanout α} {v : α} : w.fan.sourceOpen = true →
      w.fan.put v = some f' → Step w { w with fan := f', sent := w.sent ++ [v] }
  | endSource {w : Watch α} : Step w { w with fan := w.fan.endSource }
  | spawn {w : Watch α} {f' : Fanout α} {id : Int} {h : Nat} : w.fan.busy = false →
      w.fan.spawn = .ok (f', id, h) →
      Step w { w with fan := f', opened := Function.update w.opened h w.handed }
  | despawn {w : Watch α} {f' : Fanout α} {id : Int} : w.fan.busy = false →
      w.fan.despawn id = .ok f' →
      Step w { w with
        fan := f',
        shut := fun h => if h ∈ w.fan.registry ∧ h ∉ f'.registry then some w.handed else w.shut h }
  | pop {w : Watch α} {h : Nat} {o : Outlet α} : w.fan.outlets[h]? = some o →
      o.receiverAlive = true →
      Step w { w with
        fan := (w.fan.pop h).1,
        got := Function.update w.got h (w.got h ++ (w.fan.pop h).2.toList) }
  | abandon {w : Watch α} (h : Nat) : Step w { w with fan := w.fan.abandon h }

theorem Good.step {w w' : Watch α} (hw : w.Good) (hs : Step w w') : w'.Good := by
  cases hs with
  | forward h => exact hw.forward h
  | put _ h => exact hw.put h
  | endSource => exact hw.endSource
  | spawn hb h => exact hw.spawn hb h
  | despawn hb h => exact hw.despawn hb h
  | pop ho ha => exact hw.pop ho ha
  | abandon h => exact hw.abandon h

theorem reach_good {capacity : Nat} {lim : Int} {w : Watch α}
    (hr : Relation.ReflTransGen Step (start capacity lim) w) : w.Good := by
  induction hr with
  | refl => exact good_start capacity lim
  | tail _ hs ih => exact ih.step hs

/-- Letting the forwarder run is a run of its moves. -/
theorem Step.settleWith (w : Watch α) (fuel : Nat) :
    Relation.ReflTransGen Step w { w with fan := w.fan.settleWith fuel } := by
  induction fuel generalizing w with
  | zero => exact .refl
  | succ fuel ih =>
    unfold Fanout.settleWith
    split
    · rename_i f' hs
      exact .head (Step.forward hs) (ih { w with fan := f' })
    · exact .refl

/-- Offering a value to an open source is a run: the source accepts it, then the forwarder runs. -/
theorem Step.offer {w : Watch α} {f' : Fanout α} {v : α} (ho : w.fan.sourceOpen = true)
    (hs : w.fan.offer v = some f') :
    Relation.ReflTransGen Step w { w with fan := f', sent := w.sent ++ [v] } := by
  obtain ⟨f₁, hput, rfl⟩ := Option.map_eq_some_iff.mp hs
  exact .head (Step.put ho hput) (Step.settleWith { w with fan := f₁, sent := w.sent ++ [v] } _)

/-- Taking a value from a live receiver is a run: it takes the value, then the forwarder runs. -/
theorem Step.take {w : Watch α} {h : Nat} {o : Outlet α} (ho : w.fan.outlets[h]? = some o)
    (ha : o.receiverAlive = true) :
    Relation.ReflTransGen Step w { w with
      fan := (w.fan.take h).1,
      got := Function.update w.got h (w.got h ++ (w.fan.take h).2.toList) } := by
  have hpop := Step.pop ho ha
  unfold Fanout.take
  rcases hp : w.fan.pop h with ⟨f', v | _ | _⟩ <;> rw [hp] at hpop
  · exact .head hpop (Step.settleWith _ _)
  · exact .single hpop
  · exact .single hpop

theorem Step.dropReceiver (w : Watch α) (h : Nat) :
    Relation.ReflTransGen Step w { w with fan := w.fan.dropReceiver h } :=
  .head (Step.abandon h) (Step.settleWith { w with fan := w.fan.abandon h } _)

theorem Step.closeSource (w : Watch α) :
    Relation.ReflTransGen Step w { w with fan := w.fan.closeSource } :=
  .head Step.endSource (Step.settleWith { w with fan := w.fan.endSource } _)

end Watch

/-- The forwarder waits, holding a value, only at an output whose receiver is alive and whose
buffer is full. -/
theorem forwardStep_eq_none {f : Fanout α} {v : α} {i : Nat} (hd : f.delivering = some (v, i))
    (hs : f.forwardStep = none) : ∃ h o, f.registry[i]? = some h ∧ f.outlets[h]? = some o ∧
      o.receiverAlive = true ∧ f.capacity ≤ o.queue.length := by
  unfold forwardStep at hs
  rw [hd] at hs
  dsimp only at hs
  split at hs
  · cases hs
  rename_i h hr
  split at hs
  · cases hs
  rename_i o ho
  split_ifs at hs with hdead hroom
  refine ⟨h, o, hr, ho, by simpa using hdead, by omega⟩

namespace Watch

end Watch

end Fanout

end KeyMidi
