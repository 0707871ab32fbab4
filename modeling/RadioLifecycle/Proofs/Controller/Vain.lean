import RadioLifecycle.Proofs.Controller.Shift

/-!
Commands that come to nothing. A start of a session that runs, a start during a teardown, a start
for which the library does not come up, a stop of a session that is stopped and a stop during a
teardown leave the controller and the workers as they were. Subscribers may be told something, and
the library may have been asked to come up; that is all.
-/

namespace RadioLifecycle.Radio

open Vendor (Library Status)

variable {σ : Type}

/-- A command that comes to nothing, with the vendor calls that it makes all the same and the event
that subscribers are told of, if there is one. -/
inductive Vain (lib : Library σ) (r : Radio σ) :
    Command → List Vendor.Call → Option Event → Prop
  /-- A session that runs is started once more. -/
  | repeated (command : CommandId) (phase : r.controller.phase = .started) :
      Vain lib r (.start command) [] (some (.started command))
  /-- A start comes while a teardown is in progress. -/
  | refused (command : CommandId) (phase : r.controller.phase = .stopping) :
      Vain lib r (.start command) [] (some (.startFailed command stoppingFailure))
  /-- The vendor library does not come up. -/
  | failed (command : CommandId) (status : Status) (phase : r.controller.phase = .stopped)
      (outcome : (lib.bringUp r.vendor).1 = .error status) :
      Vain lib r (.start command) [.bringUp (.error status)]
        (some (.startFailed command (.ofStatus status bringUpDescription)))
  /-- A stop comes while there is no session. -/
  | echoed (command : CommandId) (phase : r.controller.phase = .stopped) :
      Vain lib r (.stop command) [] (some (.stopped command))
  /-- A stop comes while a teardown is in progress. -/
  | absorbed (command : CommandId) (phase : r.controller.phase = .stopping) :
      Vain lib r (.stop command) [] none

/-- What a vain command leaves behind. -/
theorem Vain.leaves {lib : Library σ} {r : Radio σ} {command : Command}
    {calls : List Vendor.Call} {event : Option Event} (vain : r.Vain lib command calls event)
    (respond : Response) :
    r.SameState (r.perform lib respond command).2 ∧
      r.Adds (r.perform lib respond command).2 calls
        ((event.map r.controller.subscribers.deliveries).getD []) [] := by
  cases vain with
  | repeated command hPhase =>
      simp only [perform, start, hPhase]
      exact ⟨announce_same .., announce_adds ..⟩
  | refused command hPhase =>
      simp only [perform, start, hPhase]
      exact ⟨announce_same .., (r.note_adds _).announce respond _ rfl⟩
  | failed command status hPhase hOutcome =>
      obtain ⟨r', hOpen, same, hAdds⟩ := openSession_of_error hOutcome
      simp only [perform, start, hPhase, hOpen]
      exact ⟨same, hAdds.announce respond _ (by rw [same.1])⟩
  | echoed command hPhase =>
      simp only [perform, stop, hPhase]
      exact ⟨announce_same .., announce_adds ..⟩
  | absorbed command hPhase =>
      simp only [perform, stop, hPhase]
      exact ⟨⟨rfl, rfl⟩, Surroundings.Adds.refl _⟩

theorem announce_vendor (respond : Response) (event : Event) (r : Radio σ) :
    (r.announce respond event).vendor = r.vendor :=
  r.controller.subscribers.broadcast_vendor event event.name respond r.toSurroundings

/-- A vain command for which the library is not asked to come up is no business of the library. -/
theorem Vain.vendor {lib : Library σ} {r : Radio σ} {command : Command} {event : Option Event}
    (vain : r.Vain lib command [] event) (respond : Response) :
    (r.perform lib respond command).2.vendor = r.vendor := by
  cases vain with
  | repeated command hPhase =>
      simp only [perform, start, hPhase]
      exact announce_vendor ..
  | refused command hPhase =>
      simp only [perform, start, hPhase]
      exact announce_vendor ..
  | echoed command hPhase =>
      simp only [perform, stop, hPhase]
      exact announce_vendor ..
  | absorbed command hPhase => simp only [perform, stop, hPhase]

end RadioLifecycle.Radio
