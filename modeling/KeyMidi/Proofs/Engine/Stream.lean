import Mathlib
import KeyMidi.Proofs.Engine.Silence
/-!
# An engine over a stream of events

`Engine.run` drives an engine over the events of a device until its input ends, sending what each
event asks for, and ends by letting go of every note and publishing the status. It is the same as
processing the events one after the other (`Engine.processAll`) and then flushing:

* while the output is open, the run sends exactly what the events and the flush send, in that
  order, and its published status is the status after the flush, which counts no held note
  (`Engine.run_open`, `Engine.finish_heldNotes`);
* once the output is closed, the first event that has something to send ends the run: it is
  processed, the flush follows, and the events after it are never read (`Engine.run_closed`).
  Events that send nothing do not notice the closed output (`Engine.run_closed_quiet`).

The closed case turns on `emit`: sending nothing succeeds even on a closed output, so the run
stops at the first event whose translation is not empty, not at the first event.
-/

namespace KeyMidi

open KeyMidi.Midi

namespace Engine

/-- Processes events in order: the engine after them, and every packet they sent, in order. -/
def processAll (e : Engine) : List InputEvent → Engine × List Packet
  | [] => (e, [])
  | ev :: rest =>
    let (e₁, sent) := e.process ev
    let (e₂, later) := e₁.processAll rest
    (e₂, sent ++ later)

@[simp] theorem processAll_nil (e : Engine) : e.processAll [] = (e, []) := rfl

@[simp] theorem processAll_cons (e : Engine) (ev : InputEvent) (rest : List InputEvent) :
    e.processAll (ev :: rest) =
      (((e.process ev).1.processAll rest).1,
        (e.process ev).2 ++ ((e.process ev).1.processAll rest).2) := rfl

theorem processAll_append (e : Engine) (pre post : List InputEvent) :
    e.processAll (pre ++ post) =
      (((e.processAll pre).1.processAll post).1,
        (e.processAll pre).2 ++ ((e.processAll pre).1.processAll post).2) := by
  induction pre generalizing e with
  | nil => rfl
  | cons ev pre ih => simp [ih]

/-- Ending a run is flushing, then publishing the status the flush leaves. -/
theorem finish_eq (e : Engine) :
    e.finish = ({ e.flush.1 with shown := e.flush.1.status }, e.flush.2) := rfl

/-- A flush lets go of every note, so the status after it counts none. -/
theorem flush_heldNotes (e : Engine) : e.flush.1.status.heldNotes = 0 := by
  obtain ⟨hn, ha⟩ := request_releaseAll_silent (e := e)
  have hax : ∀ a ∈ (e.request EngineM.releaseAll).1.axes, a.2.note = none := by
    intro a hmem
    cases hnote : a.2.note with
    | none => rfl
    | some w =>
      have hw := mem_axisNotes.mpr ⟨a, hmem, hnote⟩
      simp [ha] at hw
  simp only [status, flush, runStep]
  rw [hn, List.filter_eq_nil_iff.mpr (fun a hmem => by simp [hax a hmem])]
  rfl

theorem finish_heldNotes (e : Engine) : e.finish.1.shown.heldNotes = 0 := by
  rw [finish_eq]
  exact flush_heldNotes e

/-- With the output open, a run processes every event, then flushes and publishes. -/
theorem run_open (e : Engine) (evs : List InputEvent) :
    e.run true evs =
      ((e.processAll evs).1.finish.1, (e.processAll evs).2 ++ (e.processAll evs).1.finish.2) := by
  induction evs generalizing e with
  | nil => simp [run]
  | cons ev rest ih => simp [run, ih]

/-- With the output closed, events that send nothing pass as with the output open. -/
theorem run_closed_quiet (e : Engine) (pre post : List InputEvent)
    (hq : (e.processAll pre).2 = []) :
    e.run false (pre ++ post) = (e.processAll pre).1.run false post := by
  induction pre generalizing e with
  | nil => rfl
  | cons ev pre ih =>
    simp only [processAll_cons, List.append_eq_nil_iff] at hq
    obtain ⟨hev, hrest⟩ := hq
    simp [run, hev, ih _ hrest]

/-- With the output closed, the first event that sends something ends the run: it is processed,
then the engine flushes and publishes, and the events after it are never read. -/
theorem run_closed (e : Engine) (pre : List InputEvent) (ev : InputEvent)
    (post : List InputEvent) (hq : (e.processAll pre).2 = [])
    (hs : ((e.processAll pre).1.process ev).2 ≠ []) :
    e.run false (pre ++ ev :: post) = e.run true (pre ++ [ev]) := by
  rw [run_closed_quiet e pre _ hq, run_open, processAll_append]
  simp [run, hs, hq]

/-- **A run is the synchronous engine.** With the output open, a run sends what processing the
events in order and then flushing sends, in that order, and publishes the status after the flush,
which counts no held note. With the output closed, the run processes the events up to and
including the first that sends something, then flushes and stops; if none sends anything, it
processes them all and flushes, as with the output open. -/
theorem run_refines (e : Engine) (evs : List InputEvent) :
    (e.run true evs =
        ({ ((e.processAll evs).1.flush).1 with shown := ((e.processAll evs).1.flush).1.status },
          (e.processAll evs).2 ++ ((e.processAll evs).1.flush).2) ∧
      (e.run true evs).1.shown.heldNotes = 0) ∧
    (∀ pre ev post, evs = pre ++ ev :: post → (e.processAll pre).2 = [] →
      ((e.processAll pre).1.process ev).2 ≠ [] → e.run false evs = e.run true (pre ++ [ev])) ∧
    ((e.processAll evs).2 = [] → e.run false evs = e.run true evs) := by
  refine ⟨⟨by rw [run_open, finish_eq], by rw [run_open]; exact finish_heldNotes _⟩, ?_, ?_⟩
  · rintro pre ev post rfl hq hs
    exact run_closed e pre ev post hq hs
  · intro hq
    have hclosed := run_closed_quiet e evs [] hq
    rw [List.append_nil] at hclosed
    rw [hclosed, run_open]
    simp [run, hq]

/-- A key bound to a note, pressed then let go of, with the output closed: the press sends its
note on, so the run ends there, as the open run of the press alone does, and the flush sends the
note off that the release would have sent. -/
theorem run_refines_closed_press :
    let e := Engine.new .sample
    let press : InputEvent := .key ⟨"kbd", 1⟩ 1
    let release : InputEvent := .key ⟨"kbd", 1⟩ 0
    (e.run false [press, release]).2 = [.noteOn 0 60 64, .noteOff 0 60] ∧
      e.run false [press, release] = e.run true [press] := by
  intro e press release
  have hsent : (e.processAll []).2 = [] ∧ ((e.processAll []).1.process press).2 ≠ [] ∧
      (e.run true [press]).2 = [.noteOn 0 60 64, .noteOff 0 60] := by
    decide +kernel
  have hclosed := (run_refines e [press, release]).2.1 [] press [release] rfl hsent.1 hsent.2.1
  exact ⟨hclosed ▸ hsent.2.2, hclosed⟩

end Engine

end KeyMidi
