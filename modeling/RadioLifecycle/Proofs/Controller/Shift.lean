import RadioLifecycle.Controller.Command
import RadioLifecycle.Proofs.Journal.Growth

/-!
What one call on the controller can do. Whatever a client or a worker asks for, one of ten things
happens, and each is described here as a whole: when it happens, what becomes of the controller and
of the workers, and what the journal gains. Everything that holds of all calls is proved by going
through the ten.
-/

namespace RadioLifecycle

open Vendor (Library Status SessionHandle InterfaceHandle WorkerId findInterface)

/-- What makes the control thread turn to the controller. -/
inductive Cause where
  | command (command : Command)
  | exitReport (worker : Option WorkerId) (requested : Bool)
  deriving DecidableEq, Repr

/-- The pieces of a controller's memory fit together. -/
structure Controller.Sound (c : Controller) : Prop where
  live_iff : c.session.isLive = true ↔ c.phase ≠ .stopped
  runner_iff : c.runner.isSome = true ↔ c.phase ≠ .stopped
  pending_iff : c.pendingStop.isSome = true ↔ c.phase = .stopping
  clear : c.phase ≠ .stopping → c.teardown = { cleanupPending := false, loopRunning := false }
  armed : c.phase = .stopping → c.teardown = { cleanupPending := false, loopRunning := true }
  chip_started : c.chip.isSome = true → c.phase = .started

/-- Two controllers have the same session, in the same phase and with or without a chip. -/
structure Controller.KeepsSession (c c' : Controller) : Prop where
  phase : c'.phase = c.phase
  session : c'.session = c.session
  runner : c'.runner = c.runner
  teardown : c'.teardown = c.teardown
  pendingStop : c'.pendingStop = c.pendingStop
  chip : c'.chip.isSome = c.chip.isSome

theorem Controller.KeepsSession.refl (c : Controller) : c.KeepsSession c :=
  ⟨rfl, rfl, rfl, rfl, rfl, rfl⟩

/-- The subscribers of the session after a call. -/
def Controller.subscribersAfter (c : Controller) : Cause → Subscribers SubscriberId
  | .command (.subscribe s) => (c.subscribers.register s).2
  | .command (.unsubscribe s) => (c.subscribers.unregister s).2
  | .command (.start _) | .command (.stop _) | .command .phase | .command .isStarted
  | .command .teardown | .command .currentChip | .command (.hasChip _) | .command (.onChip _ _)
  | .exitReport _ _ => c.subscribers

namespace Radio

variable {σ : Type}

/-- What one radio's journal has in addition to another's. -/
def Adds (r r' : Radio σ) (calls : List Vendor.Call) (told : List Delivery)
    (fatals : List Phase) : Prop :=
  r.toSurroundings.Adds r'.toSurroundings calls told fatals

/-- Nothing happened to the controller or to the workers. -/
def SameState (r r' : Radio σ) : Prop :=
  r'.controller = r.controller ∧ r'.workers = r.workers

/-- Do what is asked for. -/
def obey (lib : Library σ) (respond : Response) (r : Radio σ) : Cause → Radio σ
  | .command command => (r.perform lib respond command).2
  | .exitReport _ requested => (r.onLoopExited respond requested).2

/-- The radio once a stop has submitted the teardown of its session. -/
def submitTeardown (lib : Library σ) (handle : SessionHandle) (command : CommandId) (r : Radio σ) :
    Radio σ :=
  let r := (r.note (.cleaningUp command)).beginTeardown command
  (r.within (r.toSurroundings.cleanup lib handle)).observe .cleanupReturned

/-- The radio once its session is gone and subscribers have been told. -/
def completeTeardown (respond : Response) (command : CommandId) (r : Radio σ) : Radio σ :=
  let r := { r with controller.runner := none }.observe .loopEnded
  ({ r with controller := r.controller.sessionClosed }.note .cleanupComplete).announce respond
    (.stopped command)

/-- What a call on the controller comes to. -/
inductive Shift (r : Radio σ) : Cause → Radio σ → Prop
  /-- A session comes up, with or without a chip. -/
  | opened {r' : Radio σ} {command : CommandId} (handle : SessionHandle)
      (asked : List InterfaceHandle)
      (phase : r.controller.phase = .stopped)
      (controller : r'.controller = r.controller.sessionOpened ⟨some handle⟩ r.nextWorker ∨
        ∃ interface, r'.controller =
          (r.controller.sessionOpened ⟨some handle⟩ r.nextWorker).chipBound interface)
      (workers : r'.workers = r.workers ++ [{ id := r.nextWorker, session := handle }])
      (adds : r.Adds r'
        (.bringUp (.ok handle) :: .interfaces handle :: asked.map Vendor.Call.interfaceName)
        (r.controller.subscribers.deliveries (.started command)) []) :
      Shift r (.command (.start command)) r'
  /-- The vendor library does not come up. -/
  | failed {r' : Radio σ} {command : CommandId} (status : Status)
      (phase : r.controller.phase = .stopped) (same : r.SameState r')
      (adds : r.Adds r' [.bringUp (.error status)]
        (r.controller.subscribers.deliveries
          (.startFailed command (.ofStatus status bringUpDescription))) []) :
      Shift r (.command (.start command)) r'
  /-- A session that runs is started once more. -/
  | repeated {r' : Radio σ} {command : CommandId}
      (phase : r.controller.phase = .started) (same : r.SameState r')
      (adds : r.Adds r' [] (r.controller.subscribers.deliveries (.started command)) []) :
      Shift r (.command (.start command)) r'
  /-- A start comes while a teardown is in progress. -/
  | refused {r' : Radio σ} {command : CommandId}
      (phase : r.controller.phase = .stopping) (same : r.SameState r')
      (adds : r.Adds r' []
        (r.controller.subscribers.deliveries (.startFailed command stoppingFailure)) []) :
      Shift r (.command (.start command)) r'
  /-- The teardown of the session begins. -/
  | torn {r' : Radio σ} {command : CommandId} (handle : SessionHandle) (worker : WorkerId)
      (phase : r.controller.phase = .started) (held : r.controller.session.held = some handle)
      (runner : r.controller.runner = some worker)
      (controller : r'.controller = (r.controller.teardownBegun command).observed .cleanupReturned)
      (workers : r'.workers = (r.toCrew.requestTeardown worker).workers)
      (adds : r.Adds r' [.cleanup handle] [] []) :
      Shift r (.command (.stop command)) r'
  /-- A stop comes while a teardown is in progress. -/
  | absorbed {command : CommandId} (phase : r.controller.phase = .stopping) :
      Shift r (.command (.stop command)) r
  /-- A stop comes while there is no session. -/
  | echoed {r' : Radio σ} {command : CommandId}
      (phase : r.controller.phase = .stopped) (same : r.SameState r')
      (adds : r.Adds r' [] (r.controller.subscribers.deliveries (.stopped command)) []) :
      Shift r (.command (.stop command)) r'
  /-- A question is answered, a subscriber comes or goes, or a chip is made a request. -/
  | served {r' : Radio σ} {command : Command} {calls : List Vendor.Call} {told : List Delivery}
      (hStart : ∀ id, command ≠ .start id) (hStop : ∀ id, command ≠ .stop id)
      (kept : r.controller.KeepsSession r'.controller) (workers : r'.workers = r.workers)
      (adds : r.Adds r' calls told [])
      (reports : ∀ d ∈ told, ∃ report, d.event = .reported report)
      (asks : ∀ call ∈ calls, call.asksVersion = true ∧ r.controller.chip.isSome = true)
      (subscribers : r'.controller.subscribers = r.controller.subscribersAfter (.command command)) :
      Shift r (.command command) r'
  /-- The event loop has ended as it was asked to, and the session is gone. -/
  | closed {r' : Radio σ} {worker : Option WorkerId} (command : CommandId)
      (phase : r.controller.phase = .stopping) (pending : r.controller.pendingStop = some command)
      (controller : r'.controller =
        ({ r.controller with runner := none }.observed .loopEnded).sessionClosed)
      (workers : r'.workers = r.workers)
      (adds : r.Adds r' [] (r.controller.subscribers.deliveries (.stopped command)) []) :
      Shift r (.exitReport worker true) r'
  /-- The event loop has ended although it was not asked to, or no teardown waits for that. -/
  | abandoned {r' : Radio σ} {worker : Option WorkerId} {requested : Bool}
      (unasked : requested = true → r.controller.phase ≠ .stopping) (same : r.SameState r')
      (adds : r.Adds r' [] [] [if requested then r.controller.phase else .started]) :
      Shift r (.exitReport worker requested) r'

theorem announce_adds (respond : Response) (event : Event) (r : Radio σ) :
    r.Adds (r.announce respond event) [] (r.controller.subscribers.deliveries event) [] :=
  r.controller.subscribers.broadcast_adds event event.name respond r.toSurroundings

theorem announce_same (respond : Response) (event : Event) (r : Radio σ) :
    r.SameState (r.announce respond event) :=
  ⟨rfl, rfl⟩

/-- An announcement after silent work goes to the subscribers there were before it. -/
theorem Adds.announce {r₁ r₂ : Radio σ} {calls : List Vendor.Call} (respond : Response)
    (event : Event) (first : r₁.Adds r₂ calls [] [])
    (hSubscribers : r₂.controller.subscribers = r₁.controller.subscribers) :
    r₁.Adds (r₂.announce respond event) calls (r₁.controller.subscribers.deliveries event) [] := by
  have h := Surroundings.Adds.trans first (r₂.announce_adds respond event)
  rw [hSubscribers, List.append_nil] at h
  exact h

theorem note_adds (n : Notice) (r : Radio σ) : r.Adds (r.note n) [] [] [] :=
  r.toSurroundings.note_adds n

/-- Looking the configured interface up leaves everything but the chip as it is. -/
theorem bindConfiguredChip_shift (lib : Library σ) (handle : SessionHandle) (r : Radio σ) :
    ((r.bindConfiguredChip lib handle).controller = r.controller ∨
      ∃ interface, (r.bindConfiguredChip lib handle).controller =
        r.controller.chipBound interface) ∧
    (r.bindConfiguredChip lib handle).workers = r.workers ∧
    ∃ asked : List InterfaceHandle, r.Adds (r.bindConfiguredChip lib handle)
      (.interfaces handle :: asked.map Vendor.Call.interfaceName) [] [] := by
  obtain ⟨asked, hFind⟩ := Vendor.findInterface_adds lib handle r.controller.interface r.toSurroundings
  rw [bindConfiguredChip]
  generalize findInterface lib handle r.controller.interface r.toSurroundings = found at hFind ⊢
  rcases found with ⟨_ | interface, w⟩
  · exact ⟨.inl rfl, rfl, asked, hFind.before (w.note_adds _)⟩
  · exact ⟨.inr ⟨interface, rfl⟩, rfl, asked, hFind.before (w.note_adds _)⟩

/-- When the library comes up, its session is taken over, and nobody is told anything yet. -/
theorem openSession_of_ok {lib : Library σ} {r : Radio σ} {handle : SessionHandle}
    (h : (lib.bringUp r.vendor).1 = .ok handle) :
    ∃ r', r.openSession lib = (.ok (), r') ∧
      (r'.controller = r.controller.sessionOpened ⟨some handle⟩ r.nextWorker ∨
        ∃ interface, r'.controller =
          (r.controller.sessionOpened ⟨some handle⟩ r.nextWorker).chipBound interface) ∧
      r'.workers = r.workers ++ [{ id := r.nextWorker, session := handle }] ∧
      ∃ asked : List InterfaceHandle, r.Adds r'
        (.bringUp (.ok handle) :: .interfaces handle :: asked.map Vendor.Call.interfaceName)
        [] [] := by
  have hUp := Surroundings.Adds.after (r.note_adds .bringingUp)
    ((r.note .bringingUp).bringUp_adds lib)
  have hOutcome : ((r.note .bringingUp).bringUp lib).1 = .ok handle := h
  simp only [openSession, Session.acquire]
  generalize (r.note .bringingUp).bringUp lib = answer at hUp hOutcome ⊢
  obtain ⟨outcome, w⟩ := answer
  obtain rfl : outcome = .ok handle := hOutcome
  obtain ⟨hController, hWorkers, asked, hFind⟩ := bindConfiguredChip_shift lib handle
    { toCrew := ((r.note .bringingUp).within w).spawn handle
      controller := r.controller.sessionOpened ⟨some handle⟩ r.nextWorker }
  exact ⟨_, rfl, hController, hWorkers, asked, Surroundings.Adds.trans hUp hFind⟩

/-- When the library does not come up, there is a reason to be told and no session. -/
theorem openSession_of_error {lib : Library σ} {r : Radio σ} {status : Status}
    (h : (lib.bringUp r.vendor).1 = .error status) :
    ∃ r', r.openSession lib = (.error (.ofStatus status bringUpDescription), r') ∧
      r.SameState r' ∧ r.Adds r' [.bringUp (.error status)] [] [] := by
  have hUp := Surroundings.Adds.after (r.note_adds .bringingUp)
    ((r.note .bringingUp).bringUp_adds lib)
  have hOutcome : ((r.note .bringingUp).bringUp lib).1 = .error status := h
  simp only [openSession, Session.acquire]
  generalize (r.note .bringingUp).bringUp lib = answer at hUp hOutcome ⊢
  obtain ⟨outcome, w⟩ := answer
  obtain rfl : outcome = .error status := hOutcome
  exact ⟨_, rfl, ⟨rfl, rfl⟩, Surroundings.Adds.before hUp (w.note_adds _)⟩

/-- What is the same whether or not a chip was bound to the session that came up. -/
theorem fields_of_opened {c c' : Controller} {session : Session} {worker : WorkerId}
    (h : c' = c.sessionOpened session worker ∨
      ∃ interface, c' = (c.sessionOpened session worker).chipBound interface) :
    c'.phase = .started ∧ c'.session = session ∧ c'.runner = some worker ∧
      c'.subscribers = c.subscribers := by
  rcases h with rfl | ⟨interface, rfl⟩ <;> exact ⟨rfl, rfl, rfl, rfl⟩

theorem start_shift (lib : Library σ) (respond : Response) (command : CommandId) (r : Radio σ) :
    r.Shift (.command (.start command)) (r.start lib respond command) := by
  rw [start]
  cases hPhase : r.controller.phase with
  | started => exact .repeated hPhase (announce_same ..) (announce_adds ..)
  | stopping =>
      exact .refused hPhase (announce_same ..) ((r.note_adds _).announce respond _ rfl)
  | stopped =>
      cases hOutcome : (lib.bringUp r.vendor).1 with
      | error status =>
          obtain ⟨r', hOpen, same, hAdds⟩ := openSession_of_error hOutcome
          simp only [hOpen]
          exact .failed status hPhase same (hAdds.announce respond _ (by rw [same.1]))
      | ok handle =>
          obtain ⟨r', hOpen, hController, hWorkers, asked, hAdds⟩ := openSession_of_ok hOutcome
          simp only [hOpen]
          refine .opened handle asked hPhase hController hWorkers ?_
          have hNoted := Surroundings.Adds.before hAdds (r'.note_adds (.sessionStarted command))
          exact Adds.announce respond _ hNoted (fields_of_opened hController).2.2.2

/-- A stop of a session that holds its handle takes effect, and leaves the teardown to be finished
by the event loop. -/
theorem stop_of_started (lib : Library σ) (respond : Response) (command : CommandId) {r : Radio σ}
    {handle : SessionHandle} (hPhase : r.controller.phase = .started)
    (hHandle : r.controller.session.handle = .ok handle) :
    r.stop lib respond command = r.submitTeardown lib handle command := by
  have hController : (r.submitTeardown lib handle command).controller =
      (r.controller.teardownBegun command).observed .cleanupReturned := by
    cases hRunner : r.controller.runner <;> simp [submitTeardown, beginTeardown, observe, within,
      note, Controller.teardownBegun, hRunner]
  have hPending : (r.submitTeardown lib handle command).finish respond =
      r.submitTeardown lib handle command := by
    rw [finish, hController]
    rfl
  rw [stop, hPhase]
  simp only [hHandle]
  exact hPending

/-- A requested end of the event loop, while everything else of the teardown is done, ends the
session and answers the stop that began it. -/
theorem onLoopExited_of_stopping (respond : Response) {r : Radio σ} {command : CommandId}
    (hPhase : r.controller.phase = .stopping)
    (hTeardown : r.controller.teardown.cleanupPending = false)
    (hPending : r.controller.pendingStop = some command) :
    r.onLoopExited respond true = (.proceed, r.completeTeardown respond command) := by
  simp [onLoopExited, hPhase, finish, completeTeardown, observe, Controller.observed,
    Teardown.observe, Teardown.isResolved, hTeardown, hPending]

theorem onLoopExited_of_not_stopping (respond : Response) {r : Radio σ} {requested : Bool}
    (h : requested = true → r.controller.phase ≠ .stopping) :
    r.onLoopExited respond requested = (.halt, r.abandon requested) := by
  cases requested with
  | false => simp [onLoopExited]
  | true => simp [onLoopExited, h rfl]

theorem beginTeardown_adds (command : CommandId) (r : Radio σ) :
    r.Adds (r.beginTeardown command) [] [] [] := by
  have hInvalidate (chip : Chip) :
      r.toSurroundings.Adds (chip.invalidate r.toSurroundings).2 [] [] [] := by
    rw [Chip.invalidate]
    cases chip.linked with
    | false => exact Surroundings.Adds.refl _
    | true => exact r.toSurroundings.note_adds _
  rw [Adds, beginTeardown]
  cases hChip : r.controller.chip with
  | none =>
      cases hRunner : r.controller.runner <;>
        simpa [within, Controller.teardownBegun, hRunner, Crew.requestTeardown] using
          Surroundings.Adds.refl r.toSurroundings
  | some chip =>
      cases hRunner : r.controller.runner <;>
        simpa [within, Controller.teardownBegun, hRunner, Crew.requestTeardown] using
          hInvalidate chip

theorem stop_shift (lib : Library σ) (respond : Response) (command : CommandId) {r : Radio σ}
    (sound : r.controller.Sound) :
    r.Shift (.command (.stop command)) (r.stop lib respond command) := by
  cases hPhase : r.controller.phase with
  | stopped =>
      rw [stop, hPhase]
      exact .echoed hPhase (announce_same ..) (announce_adds ..)
  | stopping =>
      rw [stop, hPhase]
      exact .absorbed hPhase
  | started =>
      have hActive : r.controller.phase ≠ .stopped := by simp [hPhase]
      obtain ⟨handle, hHeld⟩ := Option.isSome_iff_exists.mp (sound.live_iff.mpr hActive)
      obtain ⟨worker, hRunner⟩ := Option.isSome_iff_exists.mp (sound.runner_iff.mpr hActive)
      have hHandle : r.controller.session.handle = .ok handle := by
        rw [Session.handle, hHeld]
      rw [stop_of_started lib respond command hPhase hHandle]
      refine .torn handle worker hPhase hHeld hRunner ?_ ?_ ?_
      · simp [submitTeardown, beginTeardown, observe, within, note, Controller.teardownBegun,
          hRunner]
      · simp [submitTeardown, beginTeardown, observe, within, note, Controller.teardownBegun,
          hRunner, Crew.requestTeardown]
      · have hBegun := Surroundings.Adds.after (r.note_adds (.cleaningUp command))
          ((r.note (.cleaningUp command)).beginTeardown_adds command)
        exact hBegun.after (Surroundings.cleanup_adds lib handle _)

theorem onLoopExited_shift (respond : Response) (worker : Option WorkerId) (requested : Bool)
    {r : Radio σ} (sound : r.controller.Sound) :
    r.Shift (.exitReport worker requested) (r.onLoopExited respond requested).2 := by
  by_cases h : requested = true ∧ r.controller.phase = .stopping
  · obtain ⟨rfl, hPhase⟩ := h
    obtain ⟨command, hPending⟩ :=
      Option.isSome_iff_exists.mp (sound.pending_iff.mpr hPhase)
    have hTeardown : r.controller.teardown.cleanupPending = false := by
      rw [sound.armed hPhase]
    rw [onLoopExited_of_stopping respond hPhase hTeardown hPending]
    exact .closed command hPhase hPending rfl rfl
      (Adds.announce respond _ (note_adds .cleanupComplete _) rfl)
  · have hUnasked : requested = true → r.controller.phase ≠ .stopping :=
      fun hRequested hPhase => h ⟨hRequested, hPhase⟩
    rw [onLoopExited_of_not_stopping respond hUnasked]
    exact .abandoned hUnasked ⟨rfl, rfl⟩
      (Surroundings.Adds.after (note_adds _ r) (Surroundings.fatal_adds _ _))

theorem onChip_shift (lib : Library σ) (respond : Response) (chip : Option ChipId)
    (request : Chip.Request) (r : Radio σ) :
    r.Shift (.command (.onChip chip request)) (r.perform lib respond (.onChip chip request)).2 := by
  have hMeant : (r.controller.meantChip? chip).isSome = true → r.controller.chip.isSome = true := by
    cases hChip : r.controller.chip with
    | none => simp [Controller.meantChip?, Controller.liveChip?, hChip]
    | some _ => simp
  simp only [perform, onChip]
  cases hFound : r.controller.meantChip? chip with
  | none =>
      exact .served (by simp) (by simp) (.refl _) rfl (Surroundings.Adds.refl _) (by simp) (by simp)
        rfl
  | some found =>
      obtain ⟨calls, told, hAdds, hTold, hCalls⟩ :=
        found.perform_adds lib respond true request r.toSurroundings
      rw [hFound] at hMeant
      exact .served (by simp) (by simp) ⟨rfl, rfl, rfl, rfl, rfl, (hMeant rfl).symm⟩ rfl hAdds hTold
        (fun call hCall => ⟨hCalls call hCall, hMeant rfl⟩) rfl

/-- Whatever is asked for, one of the ten things happens. -/
theorem obey_shift (lib : Library σ) (respond : Response) {r : Radio σ} (sound : r.controller.Sound)
    (cause : Cause) : r.Shift cause (r.obey lib respond cause) := by
  cases cause with
  | exitReport worker requested => exact onLoopExited_shift respond worker requested sound
  | command command =>
      cases command with
      | start command => exact start_shift lib respond command r
      | stop command => exact stop_shift lib respond command sound
      | onChip chip request => exact onChip_shift lib respond chip request r
      | phase | isStarted | teardown | currentChip | hasChip _ | subscribe _ | unsubscribe _ =>
          exact .served (by simp) (by simp) ⟨rfl, rfl, rfl, rfl, rfl, rfl⟩ rfl
            (Surroundings.Adds.refl _) (by simp) (by simp) rfl

/-- Subscribers come and go only as they ask to. -/
theorem Shift.subscribers {r r' : Radio σ} {cause : Cause} (shift : r.Shift cause r') :
    r'.controller.subscribers = r.controller.subscribersAfter cause := by
  cases shift with
  | opened _ _ _ hController _ _ => exact (fields_of_opened hController).2.2.2
  | failed _ _ same _ | repeated _ same _ | refused _ same _ | echoed _ same _
  | abandoned _ same _ =>
      rw [same.1]
      rfl
  | torn _ _ _ _ _ hController _ _ | closed _ _ _ hController _ _ =>
      rw [hController]
      rfl
  | absorbed => rfl
  | served _ _ _ _ _ _ _ hSubscribers => exact hSubscribers

end Radio

end RadioLifecycle
