import RadioLifecycle.Proofs.Controller.Shift

/-!
The controller's memory between two calls. The session, its worker, its chip, the teardown and the
stop that began it are changed one after another, and in the middle of a call they need not fit
together. Between two calls they do, in whatever order starts, stops and exit reports come, and also
when a report comes that nobody waits for. Two branches of the code are there for memories that do
not fit together, and neither is ever taken.
-/

namespace RadioLifecycle

open Vendor (Library SessionHandle InterfaceHandle WorkerId)

namespace Controller

theorem sound_initial (interface : String) : Sound { interface } := by
  constructor <;> simp [Session.isLive, Session.empty]

theorem KeepsSession.sound {c c' : Controller} (kept : c.KeepsSession c') (sound : c.Sound) :
    c'.Sound where
  live_iff := by rw [kept.session, kept.phase]; exact sound.live_iff
  runner_iff := by rw [kept.runner, kept.phase]; exact sound.runner_iff
  pending_iff := by rw [kept.pendingStop, kept.phase]; exact sound.pending_iff
  clear := by rw [kept.teardown, kept.phase]; exact sound.clear
  armed := by rw [kept.teardown, kept.phase]; exact sound.armed
  chip_started := by rw [kept.chip, kept.phase]; exact sound.chip_started

theorem sound_sessionOpened {c : Controller} (sound : c.Sound) (hPhase : c.phase = .stopped)
    (handle : SessionHandle) (worker : WorkerId) :
    (c.sessionOpened ⟨some handle⟩ worker).Sound := by
  have hPending := sound.pending_iff
  have hClear := sound.clear
  have hChip := sound.chip_started
  constructor <;> simp_all [sessionOpened, Session.isLive]

theorem sound_chipBound {c : Controller} (sound : c.Sound) (hPhase : c.phase = .started)
    (interface : InterfaceHandle) : (c.chipBound interface).Sound where
  live_iff := sound.live_iff
  runner_iff := sound.runner_iff
  pending_iff := sound.pending_iff
  clear := sound.clear
  armed := sound.armed
  chip_started := fun _ => hPhase

/-- A stop arms both conditions, and the one that the cleanup command clears is clear again before
the stop is over. -/
theorem sound_teardownBegun {c : Controller} (sound : c.Sound) (hPhase : c.phase = .started)
    (command : CommandId) : ((c.teardownBegun command).observed .cleanupReturned).Sound := by
  have hLive := sound.live_iff
  have hRunner := sound.runner_iff
  constructor <;>
    simp_all [teardownBegun, observed, Teardown.arm, Teardown.observe]

theorem sound_sessionClosed {c : Controller} (sound : c.Sound) (hPhase : c.phase = .stopping) :
    ({ c with runner := none }.observed .loopEnded).sessionClosed.Sound := by
  have hArmed := sound.armed hPhase
  have hChip := sound.chip_started
  constructor <;>
    simp_all [sessionClosed, observed, Teardown.observe, Session.release, Session.isLive,
      Session.empty]

end Controller

namespace Radio

variable {σ : Type}

theorem Shift.sound {r r' : Radio σ} {cause : Cause} (shift : r.Shift cause r')
    (sound : r.controller.Sound) : r'.controller.Sound := by
  cases shift with
  | opened handle asked hPhase hController _ _ =>
      have hOpened := Controller.sound_sessionOpened sound hPhase handle r.nextWorker
      rcases hController with h | ⟨interface, h⟩
      · rw [h]
        exact hOpened
      · rw [h]
        exact Controller.sound_chipBound hOpened rfl interface
  | failed _ _ same _ | repeated _ same _ | refused _ same _ | echoed _ same _ | abandoned _ same _ =>
      rw [same.1]
      exact sound
  | torn _ _ hPhase _ _ hController _ _ =>
      rw [hController]
      exact Controller.sound_teardownBegun sound hPhase _
  | absorbed _ => exact sound
  | served _ _ kept _ _ _ => exact kept.sound sound
  | closed _ hPhase _ hController _ _ =>
      rw [hController]
      exact Controller.sound_sessionClosed sound hPhase

/-- One call on the controller, and what happens to everything else until the next one. Library and
subscribers are those of this call; nothing ties them to those of another. -/
structure Call (σ : Type) where
  library : Library σ
  respond : Response
  cause : Cause
  meanwhile : Crew σ → Crew σ := id

/-- The radio after a call and all that happens until the next. -/
def afterCall (r : Radio σ) (call : Call σ) : Radio σ :=
  let r := r.obey call.library call.respond call.cause
  { r with toCrew := call.meanwhile r.toCrew }

/-- The radio after some calls. -/
def afterCalls (r : Radio σ) (calls : List (Call σ)) : Radio σ :=
  calls.foldl afterCall r

theorem sound_afterCalls {r : Radio σ} (sound : r.controller.Sound) (calls : List (Call σ)) :
    (r.afterCalls calls).controller.Sound := by
  induction calls generalizing r with
  | nil => exact sound
  | cons call rest ih =>
      have hShift := obey_shift call.library call.respond sound call.cause
      exact ih (hShift.sound sound)

/-- After any calls on a new controller its memory fits together. A stop that would have to begin a
teardown therefore finds the handle of its session, and the report that ends a teardown finds the
stop that is to be answered. -/
theorem afterCalls_fitTogether (crew : Crew σ) (interface : String) (calls : List (Call σ)) :
    let r := afterCalls { toCrew := crew, controller := { interface } } calls
    r.controller.Sound ∧
    (r.controller.phase = .started →
      ∃ handle, r.controller.session.handle = .ok handle ∧
        ∀ lib respond command,
          r.stop lib respond command = r.submitTeardown lib handle command) ∧
    (r.controller.phase = .stopping →
      ∃ command, r.controller.pendingStop = some command ∧
        ∀ respond, r.onLoopExited respond true = (.proceed, r.completeTeardown respond command)) := by
  intro r
  have sound : r.controller.Sound := sound_afterCalls (Controller.sound_initial interface) calls
  refine ⟨sound, ?_, ?_⟩
  · intro hPhase
    have hLive := sound.live_iff.mpr (by simp [hPhase])
    obtain ⟨handle, hHeld⟩ := Option.isSome_iff_exists.mp hLive
    have hHandle : r.controller.session.handle = .ok handle := by
      rw [Session.handle, hHeld]
    exact ⟨handle, hHandle, fun lib respond command =>
      stop_of_started lib respond command hPhase hHandle⟩
  · intro hPhase
    obtain ⟨command, hPending⟩ := Option.isSome_iff_exists.mp (sound.pending_iff.mpr hPhase)
    have hTeardown : r.controller.teardown.cleanupPending = false := by
      rw [sound.armed hPhase]
    exact ⟨command, hPending, fun respond =>
      onLoopExited_of_stopping respond hPhase hTeardown hPending⟩

end Radio

end RadioLifecycle
