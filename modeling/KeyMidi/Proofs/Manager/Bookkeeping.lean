import Mathlib
import KeyMidi.Manager.Session
import KeyMidi.Proofs.Fanout.Registry
/-!
# The books of the device manager

Of everything the device manager's world holds, what says which devices run is little: for each
device task its identity, how far it got (`Phase`) and its output of the loopback input; the
claimed identities; the table of running devices; the next device id; and the registry of the
loopback input with the number and state of each output. These are the world's books
(`World.books`).

Most steps of the system never touch them: waking a task, setting a timer, moving raw input,
sending MIDI, firing shutdown, the throttles, the forwarder and the echoes, discovery, and
whatever the outside world does. Each is shown here to leave the books as they were
(`Sim.Keeps`), so that what the books must satisfy is checked only against the few steps that
write them.
-/

namespace KeyMidi

open KeyMidi.Midi

/-- How far a device task got: waiting to open, running with an output of the loopback input,
detached from it, or done. -/
inductive Phase where
  | waiting
  | running
  | detached
  | done
  deriving DecidableEq, Repr

/-- The phase of a stage: a task still opening is waiting. -/
def Stage.phase : Stage → Phase
  | .fresh => .waiting
  | .opening .. => .waiting
  | .running => .running
  | .detached => .detached
  | .done => .done

@[simp] theorem Stage.phase_fresh : Stage.fresh.phase = .waiting := rfl
@[simp] theorem Stage.phase_opening (started resumeAt : Nat) :
    (Stage.opening started resumeAt).phase = .waiting := rfl
@[simp] theorem Stage.phase_running : Stage.running.phase = .running := rfl
@[simp] theorem Stage.phase_detached : Stage.detached.phase = .detached := rfl
@[simp] theorem Stage.phase_done : Stage.done.phase = .done := rfl

/-- What the books hold of a device task. -/
structure TaskView where
  identity : Identity
  phase : Phase
  outlet : Nat

def DeviceTask.view (t : DeviceTask) : TaskView := ⟨t.device.identity, t.stage.phase, t.outlet⟩

/-- Changing one entry of an array changes its image under `f` at that entry only. -/
theorem Array.map_modify {α β : Type} [Inhabited α] (a : Array α) (k : Nat) (g : α → α)
    (f : α → β) : (a.modify k g).map f = (a.map f).setIfInBounds k (f (g (a[k]?.getD default))) := by
  apply Array.ext_getElem?
  intro i
  simp only [Array.getElem?_map, Array.getElem?_modify, Array.getElem?_setIfInBounds,
    Array.size_map]
  by_cases hik : k = i
  · subst hik
    by_cases hk : k < a.size <;> simp [hk]
  · simp [hik]

/-- Setting an entry of an image to what it is changes nothing. -/
theorem Array.setIfInBounds_map_self {α β : Type} [Inhabited α] (a : Array α) (k : Nat)
    (f : α → β) : (a.map f).setIfInBounds k (f (a[k]?.getD default)) = a.map f := by
  apply Array.ext_getElem?
  intro i
  simp only [Array.getElem?_map, Array.getElem?_setIfInBounds, Array.size_map]
  by_cases hik : k = i
  · subst hik
    by_cases hk : k < a.size <;> simp [hk]
  · simp [hik]

namespace DeviceTask

@[simp] theorem view_mk device profile stage stream throttled throttle throttling rearmed rung passed
    listening id outlet engine external echoDone :
    (DeviceTask.mk device profile stage stream throttled throttle throttling rearmed rung passed
      listening id outlet engine external echoDone).view = ⟨device.identity, stage.phase, outlet⟩ :=
  rfl

@[simp] theorem view_identity (t : DeviceTask) : t.view.identity = t.device.identity := rfl
@[simp] theorem view_phase (t : DeviceTask) : t.view.phase = t.stage.phase := rfl
@[simp] theorem view_outlet (t : DeviceTask) : t.view.outlet = t.outlet := rfl

/-- A view read off one task is that task's view. -/
@[simp] theorem view_fold (t : DeviceTask) :
    (⟨t.device.identity, t.stage.phase, t.outlet⟩ : TaskView) = t.view := rfl

/-- Changing one task changes its view only. -/
@[simp] theorem map_view_modify (a : Array DeviceTask) (k : Nat) (g : DeviceTask → DeviceTask) :
    (a.modify k g).map view = (a.map view).setIfInBounds k (g (a[k]?.getD default)).view :=
  Array.map_modify a k g view

@[simp] theorem setIfInBounds_view_self (a : Array DeviceTask) (k : Nat) :
    (a.map view).setIfInBounds k (a[k]?.getD default).view = a.map view :=
  Array.setIfInBounds_map_self a k view

end DeviceTask

namespace Outlet

@[simp] theorem key_mk {α : Type} (id : Int) (queue : List α) (receiverAlive registered : Bool) :
    (Outlet.mk id queue receiverAlive registered).key = (id, registered) := rfl

@[simp] theorem key_fold {α : Type} (o : Outlet α) : (o.id, o.registered) = o.key := rfl

@[simp] theorem map_key_modify {α : Type} (a : Array (Outlet α)) (k : Nat) (g : Outlet α → Outlet α) :
    (a.modify k g).map key = (a.map key).setIfInBounds k (g (a[k]?.getD default)).key :=
  Array.map_modify a k g key

@[simp] theorem setIfInBounds_key_self {α : Type} (a : Array (Outlet α)) (k : Nat) :
    (a.map key).setIfInBounds k (a[k]?.getD default).key = a.map key :=
  Array.setIfInBounds_map_self a k key

end Outlet

namespace Fanout

variable {α : Type}

/-- What the forwarder does leaves the registry, the numbers and the states of the outputs. -/
theorem Frame.map_key {f f' : Fanout α} (hf : Frame f f') :
    f'.outlets.map Outlet.key = f.outlets.map Outlet.key := by
  apply Array.ext_getElem?
  intro h
  simpa only [Array.getElem?_map] using hf.keys h

@[simp] theorem settle_registry (f : Fanout α) : f.settle.registry = f.registry :=
  (frame_settle f).registry

@[simp] theorem settle_idLimit (f : Fanout α) : f.settle.idLimit = f.idLimit :=
  (frame_settle f).idLimit

@[simp] theorem settle_map_key (f : Fanout α) : f.settle.outlets.map Outlet.key = f.outlets.map Outlet.key :=
  (frame_settle f).map_key

end Fanout

/-- The books of the manager. -/
structure Books where
  views : Array TaskView
  claimed : List Identity
  table : List (Nat × Nat)
  nextId : Nat
  registry : List Nat
  /-- The number of each output of the loopback input and whether it is registered. -/
  keys : Array (Int × Bool)
  idLimit : Int

def World.books (w : World) : Books :=
  ⟨w.tasks.map DeviceTask.view, w.claimed, w.table, w.nextId, w.loopback.registry,
    w.loopback.outlets.map Outlet.key, w.loopback.idLimit⟩

namespace World

/-- The books of a world written out field by field. -/
@[simp] theorem books_mk now settings exitMode store userTree factoryTree rig manager discovery
    tasks streams loopback loopbackOpen table claimed nextId shutdown exitFlag midi timers seq
    ready :
    (World.mk now settings exitMode store userTree factoryTree rig manager discovery tasks streams
      loopback loopbackOpen table claimed nextId shutdown exitFlag midi timers seq ready).books =
      ⟨tasks.map DeviceTask.view, claimed, table, nextId, loopback.registry,
        loopback.outlets.map Outlet.key, loopback.idLimit⟩ := rfl

@[simp] theorem books_views (w : World) : w.books.views = w.tasks.map DeviceTask.view := rfl
@[simp] theorem books_claimed (w : World) : w.books.claimed = w.claimed := rfl
@[simp] theorem books_table (w : World) : w.books.table = w.table := rfl
@[simp] theorem books_nextId (w : World) : w.books.nextId = w.nextId := rfl
@[simp] theorem books_registry (w : World) : w.books.registry = w.loopback.registry := rfl
@[simp] theorem books_keys (w : World) : w.books.keys = w.loopback.outlets.map Outlet.key := rfl
@[simp] theorem books_idLimit (w : World) : w.books.idLimit = w.loopback.idLimit := rfl

/-- Books read off one world are that world's books. -/
@[simp] theorem books_fold (w : World) :
    (⟨w.tasks.map DeviceTask.view, w.claimed, w.table, w.nextId, w.loopback.registry,
      w.loopback.outlets.map Outlet.key, w.loopback.idLimit⟩ : Books) = w.books := rfl

end World

namespace Sim

/-- A step that leaves the books as they were. -/
def Keeps {α : Type} (x : Sim α) : Prop := ∀ w, ((x.run w).run.2).books = w.books

/-- A loop keeps the books when each turn of it does. -/
theorem books_forIn {α β : Type} (l : List α) (b : β) (body : α → β → Sim (ForInStep β))
    (h : ∀ a b, Keeps (body a b)) (w : World) :
    (((forIn l b body).run w).run.2).books = w.books := by
  induction l generalizing b w with
  | nil => rfl
  | cons a l ih =>
    simp only [List.forIn_cons, StateT.run_bind, Id.run_bind]
    split
    · exact h a b w
    · rw [ih]
      exact h a b w

/-- A loop that never stops early, as `simp` writes it. -/
theorem books_foldlM {α β : Type} (l : List α) (b : β) (f : β → α → Sim β)
    (h : ∀ b a, Keeps (f b a)) (w : World) :
    (((l.foldlM f b).run w).run.2).books = w.books := by
  induction l generalizing b w with
  | nil => rfl
  | cons a l ih =>
    simp only [List.foldlM_cons, StateT.run_bind, Id.run_bind]
    rw [ih]
    exact h b a w

theorem keeps_pure {α : Type} (a : α) : Keeps (pure a : Sim α) := fun _ => rfl

theorem Keeps.bind {α β : Type} {x : Sim α} {f : α → Sim β} (hx : Keeps x)
    (hf : ∀ a, Keeps (f a)) : Keeps (x >>= f) := by
  intro w
  simp only [StateT.run_bind, Id.run_bind]
  rw [hf, hx]

theorem Keeps.map {α β : Type} {x : Sim α} (f : α → β) (hx : Keeps x) : Keeps (f <$> x) := by
  rw [← bind_pure_comp]
  exact hx.bind fun _ => keeps_pure _

theorem keeps_ite {α : Type} {c : Prop} [Decidable c] {x y : Sim α} (hx : Keeps x) (hy : Keeps y) :
    Keeps (if c then x else y) := by
  split <;> assumption

theorem keeps_forIn {α β : Type} (l : List α) (b : β) {body : α → β → Sim (ForInStep β)}
    (h : ∀ a b, Keeps (body a b)) : Keeps (forIn l b body) :=
  books_forIn l b body h

/-- A step that reads the world and then acts keeps the books when it does from the world it
read. -/
theorem keeps_get_bind {α : Type} {f : World → Sim α}
    (h : ∀ w, (((f w).run w).run.2).books = w.books) : Keeps (get >>= f) := by
  intro w
  simp only [StateT.run_bind, StateT.run_get, Id.run_bind, Id.run_pure]
  exact h w

@[simp] theorem books_wake (t : TaskId) (w : World) : (((wake t).run w).run.2).books = w.books := by
  simp only [wake, StateT.run_modify, Id.run_pure]
  split <;> simp

@[simp] theorem books_setTimer (at_ : Nat) (alarm : Alarm) (w : World) :
    (((setTimer at_ alarm).run w).run.2).books = w.books := by
  simp [setTimer]

@[simp] theorem books_clearTimers (alarm : Alarm) (w : World) :
    (((clearTimers alarm).run w).run.2).books = w.books := by
  simp [clearTimers]

@[simp] theorem run_task (k : Nat) (w : World) : ((task k).run w).run = (w.tasks[k]?.getD default, w) := by
  simp [task]

@[simp] theorem books_modifyStream (s : Nat) (f : Stream → Stream) (w : World) :
    (((modifyStream s f).run w).run.2).books = w.books := by
  simp [modifyStream]

@[simp] theorem run_streamReader_snd (s : Nat) (w : World) : ((streamReader s).run w).run.2 = w := by
  simp only [streamReader, StateT.run_bind, StateT.run_get, Id.run_bind, Id.run_pure]
  split <;> simp

@[simp] theorem books_dropStreamOf (i : Identity) (w : World) :
    (((dropStreamOf i).run w).run.2).books = w.books := by
  simp only [dropStreamOf, StateT.run_bind, StateT.run_get, Id.run_bind, Id.run_pure]
  split
  · simp
  · simp only [StateT.run_bind, StateT.run_set, Id.run_bind]
    split <;> simp

@[simp] theorem books_sendMidi (ps : List Packet) (w : World) :
    (((sendMidi ps).run w).run.2).books = w.books := by
  simp [sendMidi]

@[simp] theorem books_fireShutdown (w : World) : ((fireShutdown.run w).run.2).books = w.books := by
  simp only [fireShutdown, StateT.run_bind, StateT.run_get, Id.run_bind]
  split
  · simp
  · simp only [StateT.run_bind, StateT.run_set, StateT.run_pure, Id.run_bind, Id.run_pure]
    rw [books_forIn, books_forIn, books_wake]
    · rfl
    · intro a _ w
      split <;> simp
    · intro s _ w
      simp

@[simp] theorem books_pass (k : Nat) (ev : InputEvent) (w : World) :
    (((pass k ev).run w).run.2).books = w.books := by
  simp only [pass, StateT.run_bind, Id.run_bind, run_task]
  split <;> simp [modifyTask]

@[simp] theorem books_stopThrottle (k : Nat) (w : World) :
    (((stopThrottle k).run w).run.2).books = w.books := by
  simp only [stopThrottle, StateT.run_bind, Id.run_bind, run_task]
  split <;>
  · simp [modifyTask]
    exact books_foldlM _ _ _ (fun _ _ w => by simp) w

@[simp] theorem books_takeInput (k : Nat) (w : World) :
    (((takeInput k).run w).run.2).books = w.books := by
  simp only [takeInput, StateT.run_bind, Id.run_bind, run_task]
  split
  · simp [modifyTask]
  · split <;> simp

@[simp] theorem books_triggerExit (w : World) : ((triggerExit.run w).run.2).books = w.books := by
  simp only [triggerExit, StateT.run_bind, StateT.run_get, Id.run_bind, Id.run_pure]
  split <;> simp

section CloseInput

variable (t : DeviceTask) (w : World)

/-- Closing a task's input touches the streams only. -/
theorem closeInput_eq : ∃ streams, ((closeInput t).run w).run.2 = { w with streams } := by
  unfold closeInput
  split
  · split
    · exact ⟨_, rfl⟩
    · exact ⟨w.streams, rfl⟩
  · exact ⟨w.streams, rfl⟩

@[simp] theorem closeInput_tasks : (((closeInput t).run w).run.2).tasks = w.tasks := by
  obtain ⟨_, h⟩ := closeInput_eq t w; rw [h]
@[simp] theorem closeInput_claimed : (((closeInput t).run w).run.2).claimed = w.claimed := by
  obtain ⟨_, h⟩ := closeInput_eq t w; rw [h]
@[simp] theorem closeInput_table : (((closeInput t).run w).run.2).table = w.table := by
  obtain ⟨_, h⟩ := closeInput_eq t w; rw [h]
@[simp] theorem closeInput_nextId : (((closeInput t).run w).run.2).nextId = w.nextId := by
  obtain ⟨_, h⟩ := closeInput_eq t w; rw [h]
@[simp] theorem closeInput_loopback : (((closeInput t).run w).run.2).loopback = w.loopback := by
  obtain ⟨_, h⟩ := closeInput_eq t w; rw [h]

@[simp] theorem books_closeInput : (((closeInput t).run w).run.2).books = w.books := by
  obtain ⟨_, h⟩ := closeInput_eq t w; rw [h]; rfl

end CloseInput

/-! ## The throttles, the loopback input and the streams -/

theorem keeps_pass (k : Nat) (ev : InputEvent) : Keeps (pass k ev) := books_pass k ev

theorem keeps_pollThrottler (k : Nat) : Keeps (pollThrottler k) := by
  unfold pollThrottler
  refine Keeps.bind (fun w => by simp) fun t => keeps_ite (keeps_pure _) ?_
  split
  · refine Keeps.bind (fun w => rfl) fun st => Keeps.bind (fun w => by simp) fun _ => ?_
    refine Keeps.bind (keeps_forIn _ _ fun ev running => ?_) fun running =>
      keeps_ite (fun w => by simp) (keeps_pure _)
    refine keeps_ite ?_ (keeps_pure _)
    split
    · exact (keeps_pass k _).map _
    · refine Keeps.bind (fun w => rfl) fun w => Keeps.bind (fun w => by simp) fun t => ?_
      refine Keeps.bind (fun w => by simp [modifyTask]) fun _ =>
        Keeps.bind (fun w => by simp) fun _ => ?_
      split
      · exact (keeps_pass k _).map _
      · exact keeps_pure _
  · exact keeps_pure _

@[simp] theorem books_pollEmitter (k : Nat) (key : InputId) (w : World) :
    (((pollEmitter k key).run w).run.2).books = w.books := by
  simp only [pollEmitter, StateT.run_bind, Id.run_bind, run_task]
  split
  · simp
  · split
    · simp only [modifyTask, StateT.run_bind, StateT.run_modify, Id.run_bind, Id.run_pure]
      split <;> simp
    · split
      · simp only [modifyTask, StateT.run_bind, StateT.run_get, StateT.run_modify, Id.run_bind,
          Id.run_pure]
        split
        · simp only [StateT.run_bind, Id.run_bind]
          split <;> simp
        · simp
      · simp

@[simp] theorem run_holder_snd (h : Nat) (w : World) : ((holder h).run w).run.2 = w := by
  simp [holder]

@[simp] theorem books_pollForwarder (w : World) : ((pollForwarder.run w).run.2).books = w.books := by
  refine keeps_get_bind (fun w => ?_) w
  simp only [StateT.run_bind, StateT.run_set, StateT.run_pure, Id.run_bind, Id.run_pure]
  rw [keeps_forIn _ _ fun h _ => ?_]
  · simp
  · refine keeps_ite (Keeps.bind (fun w => by simp) fun holder => ?_) (keeps_pure _)
    split
    · exact Keeps.bind (fun w => by simp) fun _ => keeps_pure _
    · exact keeps_pure _

@[simp] theorem books_pollEcho (k : Nat) (w : World) :
    (((pollEcho k).run w).run.2).books = w.books := by
  refine Keeps.bind (fun w => by simp) (fun t => keeps_ite (keeps_pure _) ?_) w
  refine keeps_get_bind fun w => ?_
  split
  · rfl
  · simp only [StateT.run_bind, StateT.run_set, Id.run_bind]
    rw [keeps_ite (Keeps.bind (fun w => by simp) fun _ => ?_) ?_]
    · simp [modifyTask, Fanout.modifyOutlet]
    all_goals
      refine keeps_ite (Keeps.bind (fun w => by simp [modifyTask]) fun _ => ?_) (keeps_pure _)
      exact Keeps.bind (fun w => by simp) fun t => keeps_ite (fun w => by simp) (keeps_pure _)

@[simp] theorem books_pollCloser (s : Nat) (w : World) :
    (((pollCloser s).run w).run.2).books = w.books := by
  simp only [pollCloser, StateT.run_bind, StateT.run_get, Id.run_bind, Id.run_pure]
  split
  · split <;> simp
  · simp

/-! ## Discovery and timers -/

@[simp] theorem books_pollDiscovery (c : Nat) (w : World) :
    (((pollDiscovery c).run w).run.2).books = w.books := by
  simp only [pollDiscovery, StateT.run_bind, StateT.run_get, Id.run_bind, Id.run_pure]
  split
  · split
    · simp
    · simp only [StateT.run_bind, Id.run_bind]
      split
      · simp
      · simp only [StateT.run_bind, StateT.run_modify, Id.run_bind, Id.run_pure]
        split <;> simp
  · simp

@[simp] theorem books_startCycle (w : World) : ((startCycle.run w).run.2).books = w.books := by
  simp [startCycle]

@[simp] theorem books_endCycle (w : World) : ((endCycle.run w).run.2).books = w.books := by
  simp only [endCycle, StateT.run_bind, StateT.run_get, Id.run_bind, Id.run_pure]
  split <;> simp

@[simp] theorem books_checkDrained (w : World) : ((checkDrained.run w).run.2).books = w.books := by
  simp only [checkDrained, StateT.run_bind, StateT.run_get, Id.run_bind, Id.run_pure]
  split <;> simp

@[simp] theorem books_fireTimers (w : World) : ((fireTimers.run w).run.2).books = w.books := by
  simp only [fireTimers, StateT.run_bind, StateT.run_get, StateT.run_set, StateT.run_pure,
    Id.run_bind, Id.run_pure]
  rw [books_forIn]
  · simp
  · intro tm _ w
    split
    · simp
    · simp
    · simp [modifyTask]

/-! ## The outside world -/

/-- Nothing the outside world does touches the books: devices come and go, raw input arrives,
the loopback input is fed or closed, the profiles change, and the process shuts down. -/
@[simp] theorem books_happen (caps : Capacities) (e : Happening) (w : World) :
    (((happen caps e).run w).run.2).books = w.books := by
  cases e with
  | plug d => simp [happen]
  | unplug i => simp [happen]
  | setFailing i on => simp [happen]
  | send i ev =>
    refine keeps_get_bind (fun w => ?_) w
    split
    · rfl
    · simp only
      split
      · rfl
      · split
        · rfl
        · simp only [StateT.run_bind, Id.run_bind]
          split <;> simp
  | loopback p =>
    cases p with
    | none => rfl
    | some p =>
      refine keeps_get_bind (fun w => ?_) w
      split
      · rfl
      · split
        · rfl
        · simp
  | closeLoopback => simp [happen]
  | setEnumerationFails on => simp [happen]
  | reconfigure user factory =>
    simp only [happen, StateT.run_bind, StateT.run_get, StateT.run_modify, Id.run_bind, Id.run_pure]
    split
    · simp
    · split <;> simp
  | closeChanges => simp [happen]
  | snapshot => simp [happen, devices]
  | shutdown => simp [happen]

end Sim

end KeyMidi
