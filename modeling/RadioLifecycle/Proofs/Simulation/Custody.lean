import RadioLifecycle.Proofs.Controller.Service
import RadioLifecycle.Proofs.Simulation.Completion
import RadioLifecycle.Proofs.System.Passage

/-!
Where the completion handler of a simulated session is. The library has one place for a handler and
one flag for the wait loop, and knows nothing of sessions. With the controller as its only caller
there is at most one thread, that of the session's worker, and the handler of the session's teardown
waits in its place, is with that thread, or has run.
-/

namespace RadioLifecycle

open Vendor (Status SessionHandle)
open Simulation (LoopThread)

/-- The session whose teardown a call submits. -/
def Vendor.Call.cleaned? : Vendor.Call → Option SessionHandle
  | .cleanup session => some session
  | .bringUp _ | .eventLoop _ | .interfaces _ | .interfaceName _ | .driverVersion _
  | .firmwareVersion _ => none

/-- The sessions whose teardowns have been submitted, earliest first. -/
def Journal.cleanups (j : Journal) : List SessionHandle :=
  j.calls.filterMap (·.cleaned?)

theorem Surroundings.Adds.cleanups {σ : Type} {w w' : Surroundings σ} {calls : List Vendor.Call}
    {told : List Delivery} {fatals : List Phase} (adds : w.Adds w' calls told fatals) :
    w'.journal.cleanups = w.journal.cleanups ++ calls.filterMap (·.cleaned?) := by
  rw [Journal.cleanups, adds.journal_calls, List.filterMap_append]
  rfl

/-- Whether a call only asks the library for something. -/
def Vendor.Call.inquires : Vendor.Call → Bool
  | .interfaces _ | .interfaceName _ | .driverVersion _ | .firmwareVersion _ => true
  | .bringUp _ | .cleanup _ | .eventLoop _ => false

theorem Vendor.Call.inquires_of_asksVersion {call : Vendor.Call} (h : call.asksVersion = true) :
    call.inquires = true := by
  cases call with
  | driverVersion | firmwareVersion => rfl
  | bringUp | cleanup | eventLoop | interfaces | interfaceName => cases h

theorem Vendor.Call.cleaned?_of_inquires {call : Vendor.Call} (h : call.inquires = true) :
    call.cleaned? = none := by
  cases call with
  | bringUp | cleanup | eventLoop => cases h
  | interfaces | interfaceName | driverVersion | firmwareVersion => rfl

namespace Simulation

variable {v v' : Simulation SessionHandle}

theorem answers_bringUp {outcome : Except Status SessionHandle}
    (h : library.Answers v (.bringUp outcome) v') : v.bringUp.1 = outcome ∧ v' = v.bringUp.2.2 := by
  generalize hCall : Vendor.Call.bringUp outcome = call at h
  cases h with
  | bringUp =>
      cases hCall
      exact ⟨rfl, rfl⟩
  | _ => cases hCall

theorem answers_cleanup {session : SessionHandle} (h : library.Answers v (.cleanup session) v') :
    v' = v.cleanup session := by
  generalize hCall : Vendor.Call.cleanup session = call at h
  cases h with
  | cleanup =>
      cases hCall
      rfl
  | _ => cases hCall

/-- What is only asked for is counted, and nothing else comes of it. -/
theorem answers_inquiry {call : Vendor.Call} (h : library.Answers v call v')
    (inquires : call.inquires = true) : ∃ counts, v' = { v with calls := counts } := by
  cases h with
  | bringUp | cleanup | eventLoop => cases inquires
  | interfaces session =>
      refine ⟨{ v.calls with interfaces := v.calls.interfaces + 1 }, ?_⟩
      cases h : v.behaviour.enumerationError <;> simp [library, interfaces, h]
  | interfaceName interface =>
      refine ⟨{ v.calls with interfaceName := v.calls.interfaceName + 1 }, ?_⟩
      simp only [library, interfaceName]
      split
      · rfl
      · split <;> rfl
  | driverVersion interface buffer =>
      exact ⟨{ v.calls with driverVersion := v.calls.driverVersion + 1 }, rfl⟩
  | firmwareVersion interface buffer =>
      exact ⟨{ v.calls with firmwareVersion := v.calls.firmwareVersion + 1 }, rfl⟩

theorem serves_inquiries {calls : List Vendor.Call} (h : library.Serves v calls v')
    (inquires : ∀ call ∈ calls, call.inquires = true) :
    ∃ counts, v' = { v with calls := counts } := by
  induction h with
  | nil v => exact ⟨v.calls, rfl⟩
  | cons first _ ih =>
      obtain ⟨_, rfl⟩ := answers_inquiry first (inquires _ (by simp))
      obtain ⟨counts, rfl⟩ := ih fun call hCall => inquires call (List.mem_cons_of_mem _ hCall)
      exact ⟨counts, rfl⟩

/-- A library that comes up forgets what was asked of it before, but no thread. -/
theorem serves_opened {handle : SessionHandle} {calls : List Vendor.Call}
    (h : library.Serves v (.bringUp (.ok handle) :: calls) v')
    (inquires : ∀ call ∈ calls, call.inquires = true) :
    ∃ counts next, v' = { v with
      calls := counts
      nextHandle := next
      cleanupRequested := false
      terminated := false
      handler := none } := by
  cases h with
  | cons first later =>
      obtain ⟨hOutcome, rfl⟩ := answers_bringUp first
      obtain ⟨counts, rfl⟩ := serves_inquiries later inquires
      rcases v.bringUp_cases with ⟨_, hFailed, _⟩ | ⟨_, hAfter⟩
      · cases hOutcome.symm.trans hFailed
      · rw [hAfter]
        exact ⟨counts, v.nextHandle + 1, rfl⟩

theorem serves_failed {status : Status}
    (h : library.Serves v [.bringUp (.error status)] v') :
    ∃ counts, v' = { v with calls := counts } := by
  cases h with
  | cons first later =>
      cases later
      obtain ⟨hOutcome, rfl⟩ := answers_bringUp first
      rcases v.bringUp_cases with ⟨_, _, hAfter⟩ | ⟨hOk, _⟩
      · exact ⟨_, hAfter⟩
      · cases hOutcome.symm.trans hOk

theorem serves_cleanup {session : SessionHandle} (h : library.Serves v [.cleanup session] v') :
    v' = v.cleanup session := by
  cases h with
  | cons first later =>
      cases later
      exact answers_cleanup first

end Simulation

namespace Radio

variable {r r' : Radio (Simulation SessionHandle)}

/-- A worker of the session has got this far. -/
structure Attends (r : Radio (Simulation SessionHandle)) (w : Worker) (stage : WorkerStage) :
    Prop where
  member : w ∈ r.workers
  stage : w.stage = stage
  held : r.controller.session.held = some w.session

/-- The handler that is to be run for the session, once its teardown is in progress. -/
def due (r : Radio (Simulation SessionHandle)) : Option SessionHandle :=
  if r.controller.phase = .stopping then r.controller.session.held else none

/-- Where the session's thread and the handler of its teardown are. -/
inductive Lodging (r : Radio (Simulation SessionHandle)) : Prop
  /-- No thread is in the library, and none will come. -/
  | vacant (phase : r.controller.phase ≠ .started)
      (gone : ∀ w ∈ r.workers, w.stage ≠ .spawned ∧ w.stage ≠ .inLoop)
      (threads : r.vendor.threads = []) (inLoop : r.vendor.inLoop = false)
      (handler : r.vendor.handler = none)
  /-- The worker of the session has still to call the event loop. -/
  | awaited (w : Worker) (attends : r.Attends w .spawned) (threads : r.vendor.threads = [])
      (inLoop : r.vendor.inLoop = false) (handler : r.vendor.handler = r.due)
  /-- The worker's thread is in the wait loop. -/
  | waiting (w : Worker) (t : LoopThread SessionHandle) (attends : r.Attends w .inLoop)
      (threads : r.vendor.threads = [t]) (id : t.id = w.id) (session : t.session = w.session)
      (inside : t.stage.inside = true) (inLoop : r.vendor.inLoop = true)
      (handler : r.vendor.handler = r.due)
  /-- The worker's thread is past the wait loop, with the handler of the session's teardown. -/
  | leaving (w : Worker) (t : LoopThread SessionHandle) (attends : r.Attends w .inLoop)
      (threads : r.vendor.threads = [t]) (id : t.id = w.id) (session : t.session = w.session)
      (past : t.stage = .leaving (some w.session)) (inLoop : r.vendor.inLoop = false)
      (handler : r.vendor.handler = none) (phase : r.controller.phase = .stopping)

/-- The session's thread is where it should be, and the handlers of all teardowns have run in their
order but for the one that is still to be run, if there is one. -/
structure Custody (r : Radio (Simulation SessionHandle)) : Prop where
  fit : r.Fit
  lodging : r.Lodging
  goesOn : r.vendor.terminated = false
  asked : r.controller.phase ≠ .stopped →
    r.vendor.cleanupRequested = decide (r.controller.phase = .stopping)
  handlers : r.journal.cleanups = r.vendor.completions.map (·.1) ++ r.vendor.owed
  own : ∀ c ∈ r.vendor.completions, c.2 = c.1

theorem cleaned?_of_inquires {calls : List Vendor.Call}
    (inquires : ∀ call ∈ calls, call.inquires = true) : calls.filterMap (·.cleaned?) = [] :=
  List.filterMap_eq_nil_iff.mpr fun call hCall => call.cleaned?_of_inquires (inquires call hCall)

/-- Workers submit no teardowns. -/
theorem cleaned?_of_nextCalls (w : Worker) : w.nextCalls.filterMap (·.cleaned?) = [] := by
  rw [Worker.nextCalls]
  split <;> rfl

/-- Only one worker has still to report. -/
theorem Fit.unique (h : r.Fit) {w u : Worker} (hW : w ∈ r.workers) (hU : u ∈ r.workers)
    (hOutW : w.isOutstanding = true) (hOutU : u.isOutstanding = true) : w = u := by
  apply List.inj_on_of_nodup_map h.numbered.nodup hW hU
  exact Option.some.inj ((h.owned w hW hOutW).symm.trans (h.owned u hU hOutU))

/-- While no worker has still to report, no thread is in the library. -/
theorem Lodging.vacant_of_idle (h : r.Lodging) (idle : ∀ w ∈ r.workers, w.isOutstanding = false) :
    r.vendor.threads = [] ∧ r.vendor.inLoop = false ∧ r.vendor.handler = none := by
  have hNot {w : Worker} {stage : WorkerStage} (attends : r.Attends w stage)
      (hStage : stage ≠ .finished) : False := by
    have hDone := idle w attends.member
    rw [Worker.isOutstanding, attends.stage, decide_eq_false_iff_not] at hDone
    exact hDone hStage
  cases h with
  | vacant _ _ hThreads hInLoop hHandler => exact ⟨hThreads, hInLoop, hHandler⟩
  | awaited w attends | waiting w _ attends | leaving w _ attends =>
      exact (hNot attends (by simp)).elim

/-- What remains to be shown where no teardown begins and no session comes or goes. -/
theorem Custody.moved (h : r.Custody) (fit : r'.Fit) (lodging : r'.Lodging)
    (hPhase : r'.controller.phase = r.controller.phase)
    (hTerminated : r'.vendor.terminated = r.vendor.terminated)
    (hAsked : r'.vendor.cleanupRequested = r.vendor.cleanupRequested)
    (hHandlers : r'.vendor.completions.map (·.1) ++ r'.vendor.owed =
      r.vendor.completions.map (·.1) ++ r.vendor.owed)
    (hOwn : ∀ c ∈ r'.vendor.completions, c.2 = c.1)
    (hCleanups : r'.journal.cleanups = r.journal.cleanups) : r'.Custody where
  fit := fit
  lodging := lodging
  goesOn := hTerminated.trans h.goesOn
  asked := by
    rw [hPhase, hAsked]
    exact h.asked
  handlers := by rw [hCleanups, h.handlers, hHandlers]
  own := hOwn

/-- What does not concern the session's thread leaves it where it is. -/
theorem Custody.congr (h : r.Custody) (fit : r'.Fit)
    (hPhase : r'.controller.phase = r.controller.phase)
    (hSession : r'.controller.session = r.controller.session) (hWorkers : r'.workers = r.workers)
    (hVendor : ∃ counts held, r'.vendor = { r.vendor with calls := counts, exitHeld := held })
    (hCleanups : r'.journal.cleanups = r.journal.cleanups) : r'.Custody := by
  obtain ⟨counts, held, hVendor⟩ := hVendor
  have hDue : r'.due = r.due := by rw [due, due, hPhase, hSession]
  have hAttends {w : Worker} {stage : WorkerStage} (attends : r.Attends w stage) :
      r'.Attends w stage :=
    ⟨hWorkers ▸ attends.member, attends.stage, hSession ▸ attends.held⟩
  refine h.moved fit ?_ hPhase (by rw [hVendor]) (by rw [hVendor]) (by rw [hVendor]; rfl)
    (by rw [hVendor]; exact h.own) hCleanups
  · cases h.lodging with
    | vacant hNotStarted hGone hThreads hInLoop hHandler =>
        refine .vacant (hPhase ▸ hNotStarted) (hWorkers ▸ hGone) ?_ ?_ ?_ <;> rw [hVendor]
        exacts [hThreads, hInLoop, hHandler]
    | awaited w attends hThreads hInLoop hHandler =>
        refine .awaited w (hAttends attends) ?_ ?_ ?_ <;> rw [hVendor]
        exacts [hThreads, hInLoop, hHandler.trans hDue.symm]
    | waiting w t attends hThreads hId hSame hInside hInLoop hHandler =>
        refine .waiting w t (hAttends attends) ?_ hId hSame hInside ?_ ?_ <;> rw [hVendor]
        exacts [hThreads, hInLoop, hHandler.trans hDue.symm]
    | leaving w t attends hThreads hId hSame hPast hInLoop hHandler hStopping =>
        refine .leaving w t (hAttends attends) ?_ hId hSame hPast ?_ ?_ (hPhase.trans hStopping) <;>
          rw [hVendor]
        exacts [hThreads, hInLoop, hHandler]

/-- A new session waits for its worker. No handler is lost, since none is there. -/
theorem Custody.opened {handle : SessionHandle} {calls : List Vendor.Call} (h : r.Custody)
    (fit : r'.Fit) (hPhase : r.controller.phase = .stopped)
    (hStarted : r'.controller.phase = .started) (hSession : r'.controller.session = ⟨some handle⟩)
    (hWorkers : r'.workers = r.workers ++ [{ id := r.nextWorker, session := handle }])
    (hServes : Simulation.library.Serves r.vendor (.bringUp (.ok handle) :: calls) r'.vendor)
    (inquires : ∀ call ∈ calls, call.inquires = true)
    (hCleanups : r'.journal.cleanups = r.journal.cleanups) : r'.Custody := by
  obtain ⟨counts, next, hVendor⟩ := Simulation.serves_opened hServes inquires
  obtain ⟨hThreads, hInLoop, hHandler⟩ := h.lodging.vacant_of_idle (h.fit.idle hPhase)
  refine ⟨fit, ?_, ?_, ?_, ?_, ?_⟩
  · refine .awaited { id := r.nextWorker, session := handle } ⟨?_, rfl, ?_⟩ ?_ ?_ ?_
    · simp [hWorkers]
    · rw [hSession]
    · rw [hVendor]
      exact hThreads
    · rw [hVendor]
      exact hInLoop
    · simp [hVendor, due, hStarted]
  · rw [hVendor]
  · simp [hVendor, hStarted]
  · rw [hCleanups, h.handlers, hVendor]
    simp [Simulation.owed, hHandler]
  · rw [hVendor]
    exact h.own

/-- The handler of a teardown comes to wait in its place, which is free. -/
theorem Custody.torn {handle : SessionHandle} {worker : Vendor.WorkerId} (h : r.Custody)
    (fit : r'.Fit) (hPhase : r.controller.phase = .started)
    (hHeld : r.controller.session.held = some handle)
    (hStopping : r'.controller.phase = .stopping)
    (hSession : r'.controller.session = r.controller.session)
    (hWorkers : r'.workers = r.workers.map (·.asked worker))
    (hVendor : r'.vendor = r.vendor.cleanup handle)
    (hCleanups : r'.journal.cleanups = r.journal.cleanups ++ [handle]) : r'.Custody := by
  have hNotDue : r.due = none := by simp [due, hPhase]
  have hDue : r'.due = some handle := by rw [due, if_pos hStopping, hSession, hHeld]
  have hAttends {w : Worker} {stage : WorkerStage} (attends : r.Attends w stage) :
      r'.Attends (w.asked worker) stage := by
    refine ⟨?_, (w.asked_stage worker).trans attends.stage, ?_⟩
    · rw [hWorkers]
      exact List.mem_map_of_mem attends.member
    · rw [hSession, w.asked_session]
      exact attends.held
  have hFree : r.vendor.owed = [] ∧ r'.Lodging := by
    cases h.lodging with
    | vacant hNotStarted => exact absurd hPhase hNotStarted
    | awaited w attends hThreads hInLoop hHandler =>
        refine ⟨by simp [Simulation.owed, hThreads, hHandler, hNotDue], ?_⟩
        refine .awaited _ (hAttends attends) ?_ ?_ ?_ <;> rw [hVendor]
        · simp [Simulation.cleanup, Simulation.requestCleanup, Simulation.wakeAll, hThreads]
        · exact hInLoop
        · exact hDue.symm
    | waiting w t attends hThreads hId hSame hInside hInLoop hHandler =>
        have hNone := LoopThread.taken?_of_inside hInside
        refine ⟨by simp [Simulation.owed, hThreads, hHandler, hNotDue, hNone], ?_⟩
        refine .waiting _ t.wake (hAttends attends) ?_ ?_ ?_ ?_ ?_ ?_
        · rw [hVendor]
          simp [Simulation.cleanup, Simulation.requestCleanup, Simulation.wakeAll, hThreads]
        · simp [hId]
        · simp [hSame]
        · simp [hInside]
        · rw [hVendor]
          exact hInLoop
        · rw [hVendor]
          exact hDue.symm
    | leaving _ _ _ _ _ _ _ _ _ hOther => cases hPhase.symm.trans hOther
  refine ⟨fit, hFree.2, ?_, ?_, ?_, ?_⟩
  · rw [hVendor]
    exact h.goesOn
  · rw [hVendor, hStopping]
    exact fun _ => rfl
  · have hOwed : (r.vendor.cleanup handle).owed = [handle] := by
      obtain ⟨hNone, _⟩ := List.append_eq_nil_iff.mp hFree.1
      rw [Simulation.cleanup, Simulation.owed_wakeAll, Simulation.owed]
      exact congrArg (· ++ [handle]) hNone
    rw [hCleanups, h.handlers, hVendor, hFree.1, hOwed, List.append_nil]
    rfl
  · rw [hVendor]
    exact h.own

/-- When a session is closed, its handler has run. -/
theorem Custody.closed (h : r.Custody) (fit : r'.Fit)
    (idle : ∀ w ∈ r.workers, w.isOutstanding = false)
    (hStopped : r'.controller.phase = .stopped) (hWorkers : r'.workers = r.workers)
    (hVendor : r'.vendor = r.vendor) (hCleanups : r'.journal.cleanups = r.journal.cleanups) :
    r'.Custody := by
  obtain ⟨hThreads, hInLoop, hHandler⟩ := h.lodging.vacant_of_idle idle
  refine ⟨fit, ?_, ?_, ?_, ?_, ?_⟩
  · refine .vacant (by simp [hStopped]) ?_ ?_ ?_ ?_
    · intro w hMember
      have hDone := idle w (hWorkers ▸ hMember)
      rw [Worker.isOutstanding, decide_eq_false_iff_not, not_not] at hDone
      simp [hDone]
    all_goals rw [hVendor]
    exacts [hThreads, hInLoop, hHandler]
  · rw [hVendor]
    exact h.goesOn
  · exact fun hNot => absurd hStopped hNot
  · rw [hVendor, hCleanups]
    exact h.handlers
  · rw [hVendor]
    exact h.own

section Worker

variable {w w' u : Worker} {stage : WorkerStage}

/-- A worker that makes a step is the one that the session's thread belongs to. -/
theorem Attends.eq (attends : r.Attends u stage) (fit : r.Fit) (hStage : stage ≠ .finished)
    (hMember : w ∈ r.workers) (hOutstanding : w.isOutstanding = true) : u = w := by
  refine fit.unique attends.member hMember ?_ hOutstanding
  rw [Worker.isOutstanding, attends.stage]
  exact decide_eq_true hStage

theorem Attends.strode (attends : r.Attends w stage)
    (hSession : w'.session = w.session) (hController : r'.controller = r.controller)
    (hWorkers : r'.workers = r.workers.map fun other => if other.id = w.id then w' else other) :
    r'.Attends w' w'.stage := by
  refine ⟨?_, rfl, ?_⟩
  · rw [hWorkers]
    exact List.mem_map.mpr ⟨w, attends.member, if_pos rfl⟩
  · rw [hController, hSession]
    exact attends.held

/-- Once the session's worker is out of the event loop, no other is in it. -/
theorem Fit.gone (fit : r.Fit) (hMember : w ∈ r.workers) (hOutstanding : w.isOutstanding = true)
    (hOut : w'.stage ≠ .spawned ∧ w'.stage ≠ .inLoop)
    (hWorkers : r'.workers = r.workers.map fun other => if other.id = w.id then w' else other) :
    ∀ v ∈ r'.workers, v.stage ≠ .spawned ∧ v.stage ≠ .inLoop := by
  intro v hV
  rw [hWorkers] at hV
  obtain ⟨other, hOther, rfl⟩ := List.mem_map.mp hV
  split
  · exact hOut
  · next hNot =>
      have hDone (hStill : other.isOutstanding = true) : False :=
        hNot (congrArg Worker.id (fit.unique hOther hMember hStill hOutstanding))
      refine ⟨fun hStage => hDone ?_, fun hStage => hDone ?_⟩ <;>
        simp [Worker.isOutstanding, hStage]

theorem Attends.active (attends : r.Attends w stage) (fit : r.Fit) :
    r.controller.phase ≠ .stopped := by
  apply fit.sound.live_iff.mp
  rw [Session.isLive, attends.held]
  rfl

/-- The session's worker calls the event loop. -/
theorem Custody.entered (h : r.Custody) (fit : r'.Fit) (hMember : w ∈ r.workers)
    (hStage : w.stage = .spawned) (hController : r'.controller = r.controller)
    (hWorkers : r'.workers = r.workers.map fun other =>
      if other.id = w.id then { w with stage := .inLoop } else other)
    (hVendor : r'.vendor = r.vendor.enterLoop w.id w.session)
    (hCleanups : r'.journal.cleanups = r.journal.cleanups) : r'.Custody := by
  have hOutstanding : w.isOutstanding = true := by simp [Worker.isOutstanding, hStage]
  have hAwaited : r.Attends w .spawned ∧ r.vendor.threads = [] ∧ r.vendor.handler = r.due := by
    cases h.lodging with
    | vacant _ hGone => exact absurd hStage (hGone w hMember).1
    | awaited u attends hThreads _ hHandler =>
        obtain rfl := attends.eq h.fit (by simp) hMember hOutstanding
        exact ⟨attends, hThreads, hHandler⟩
    | waiting u _ attends | leaving u _ attends =>
        obtain rfl := attends.eq h.fit (by simp) hMember hOutstanding
        cases hStage.symm.trans attends.stage
  obtain ⟨attends, hThreads, hHandler⟩ := hAwaited
  have hDue : r'.due = r.due := by rw [due, due, hController]
  refine h.moved fit ?_ (by rw [hController]) (by rw [hVendor]; rfl) (by rw [hVendor]; rfl) ?_
    (by rw [hVendor]; exact h.own) hCleanups
  · refine .waiting { w with stage := .inLoop } { id := w.id, session := w.session }
      (attends.strode rfl hController hWorkers) ?_ rfl rfl rfl ?_ ?_ <;> rw [hVendor]
    · simp [Simulation.enterLoop, hThreads]
    · rfl
    · exact hHandler.trans hDue.symm
  · rw [hVendor]
    simp [Simulation.owed, Simulation.enterLoop, List.filterMap_cons, LoopThread.taken?]

/-- The session's thread looks at the conditions for leaving the wait loop, and takes the handler of
the teardown if it leaves. -/
theorem Custody.looked {t : LoopThread SessionHandle} (h : r.Custody) (fit : r'.Fit)
    (attends : r.Attends w .inLoop) (hThreads : r.vendor.threads = [t]) (hId : t.id = w.id)
    (hSession : t.session = w.session) (hAwake : t.stage = .awake)
    (hInLoop : r.vendor.inLoop = true) (hHandler : r.vendor.handler = r.due)
    (hController : r'.controller = r.controller) (hWorkers : r'.workers = r.workers)
    (hVendor : r'.vendor = (r.vendor.runLoop w.id).2)
    (hCleanups : r'.journal.cleanups = r.journal.cleanups) : r'.Custody := by
  have hKnown : r.vendor.thread? t.id = some t := by simp [Simulation.thread?, hThreads]
  have hAttends : r'.Attends w .inLoop :=
    ⟨hWorkers ▸ attends.member, attends.stage, hController ▸ attends.held⟩
  rw [← hId] at hVendor
  have hMoved (lodging : r'.Lodging)
      (hTerminated : r'.vendor.terminated = r.vendor.terminated)
      (hAsked : r'.vendor.cleanupRequested = r.vendor.cleanupRequested)
      (hCompletions : r'.vendor.completions = r.vendor.completions)
      (hOwed : r'.vendor.owed = r.vendor.owed) : r'.Custody :=
    h.moved fit lodging (by rw [hController]) hTerminated hAsked (by rw [hCompletions, hOwed])
      (hCompletions ▸ h.own) hCleanups
  cases hLeave : r.vendor.mayLeave with
  | false =>
      rw [Simulation.runLoop_of_stays hKnown hAwake hLeave] at hVendor
      refine hMoved ?_ (by rw [hVendor]; rfl) (by rw [hVendor]; rfl) (by rw [hVendor]; rfl) ?_
      · refine .waiting w { t with stage := .parked } hAttends ?_ hId hSession rfl ?_ ?_ <;>
          rw [hVendor]
        · simp [Simulation.setStage, hThreads]
        · exact hInLoop
        · rw [due, hController]
          exact hHandler
      · rw [hVendor]
        simp [Simulation.owed, Simulation.setStage, hThreads, List.filterMap_cons,
          LoopThread.taken?, hAwake]
  | true =>
      rw [Simulation.runLoop_of_goes hKnown hAwake hLeave] at hVendor
      have hStopping : r.controller.phase = .stopping := by
        have hAsked := h.asked (attends.active h.fit)
        rw [Simulation.mayLeave, h.goesOn, hAsked] at hLeave
        simp at hLeave
        exact hLeave.1
      have hDue : r.due = some w.session := by rw [due, if_pos hStopping, attends.held]
      refine hMoved ?_ (by rw [hVendor]; rfl) (by rw [hVendor]; rfl) (by rw [hVendor]; rfl) ?_
      · refine .leaving w { t with stage := .leaving r.vendor.handler } hAttends ?_ hId hSession ?_
          ?_ ?_ (by rw [hController, hStopping])
        · rw [hVendor]
          simp [Simulation.setStage, hThreads]
        · rw [hHandler, hDue]
        · rw [hVendor]
          rfl
        · rw [hVendor]
          rfl
      · rw [hVendor]
        simp [Simulation.owed, Simulation.setStage, hThreads, LoopThread.taken?_of_inside, hAwake,
          Simulation.LoopStage.inside, hHandler, hDue]

/-- The session's thread runs the handler of the teardown, for its own session, and returns. -/
theorem Custody.returned {t : LoopThread SessionHandle} (h : r.Custody) (fit : r'.Fit)
    (attends : r.Attends w .inLoop) (hThreads : r.vendor.threads = [t]) (hId : t.id = w.id)
    (hSession : t.session = w.session) (hPast : t.stage = .leaving (some w.session))
    (hInLoop : r.vendor.inLoop = false) (hHandler : r.vendor.handler = none)
    (hStopping : r.controller.phase = .stopping) (hController : r'.controller = r.controller)
    (hWorkers : r'.workers = r.workers.map fun other =>
      if other.id = w.id then { w with stage := .returned } else other)
    (hVendor : r'.vendor = (r.vendor.runLoop w.id).2)
    (hCleanups : r'.journal.cleanups = r.journal.cleanups) : r'.Custody := by
  have hKnown : r.vendor.thread? t.id = some t := by simp [Simulation.thread?, hThreads]
  have hOutstanding : w.isOutstanding = true := by simp [Worker.isOutstanding, attends.stage]
  have hTaken : t.taken? = some w.session := by rw [LoopThread.taken?, hPast]
  rw [← hId, Simulation.runLoop_of_past hKnown hPast] at hVendor
  refine h.moved fit ?_ (by rw [hController]) (by rw [hVendor]) (by rw [hVendor]) ?_ ?_ hCleanups
  · refine .vacant ?_ ?_ ?_ ?_ ?_
    · simp [hController, hStopping]
    · exact h.fit.gone attends.member hOutstanding (by simp) hWorkers
    all_goals rw [hVendor]
    · simp [hThreads]
    · exact hInLoop
    · exact hHandler
  · rw [hVendor]
    simp [Simulation.owed, hThreads, hTaken, hHandler]
  · rw [hVendor]
    intro c hRan
    rcases List.mem_append.mp hRan with hBefore | hNew
    · exact h.own c hBefore
    · obtain rfl : c = (w.session, t.session) := by simpa using hNew
      exact hSession

/-- What a worker does outside of the event loop is no concern of the library. -/
theorem Custody.strodeOut {report : Option Bool} (h : r.Custody) (fit : r'.Fit)
    (hMember : w ∈ r.workers) (stride : w.Stride report w')
    (hBefore : w.stage ≠ .spawned ∧ w.stage ≠ .inLoop)
    (hAfter : w'.stage ≠ .spawned ∧ w'.stage ≠ .inLoop)
    (hController : r'.controller = r.controller)
    (hWorkers : r'.workers = r.workers.map fun other => if other.id = w.id then w' else other)
    (hVendor : r'.vendor = r.vendor) (hCleanups : r'.journal.cleanups = r.journal.cleanups) :
    r'.Custody := by
  have hVacant : r'.Lodging := by
    cases h.lodging with
    | vacant hPhase _ hThreads hInLoop hHandler =>
        refine .vacant ?_ (h.fit.gone hMember stride.outstanding hAfter hWorkers) ?_ ?_ ?_
        · rw [hController]
          exact hPhase
        all_goals rw [hVendor]
        exacts [hThreads, hInLoop, hHandler]
    | awaited u attends =>
        obtain rfl := attends.eq h.fit (by simp) hMember stride.outstanding
        exact absurd attends.stage hBefore.1
    | waiting u _ attends | leaving u _ attends =>
        obtain rfl := attends.eq h.fit (by simp) hMember stride.outstanding
        exact absurd attends.stage hBefore.2
  exact h.moved fit hVacant (by rw [hController]) (by rw [hVendor]) (by rw [hVendor])
    (by rw [hVendor]) (by rw [hVendor]; exact h.own) hCleanups

end Worker

/-- Waking the threads moves neither a thread nor a handler. -/
theorem Custody.woken (h : r.Custody) (fit : r'.Fit)
    (hController : r'.controller = r.controller) (hWorkers : r'.workers = r.workers)
    (hVendor : r'.vendor = r.vendor.wakeAll)
    (hCleanups : r'.journal.cleanups = r.journal.cleanups) : r'.Custody := by
  have hAttends {w : Worker} {stage : WorkerStage} (attends : r.Attends w stage) :
      r'.Attends w stage :=
    ⟨hWorkers ▸ attends.member, attends.stage, hController ▸ attends.held⟩
  have hDue : r'.due = r.due := by rw [due, due, hController]
  have hOwed : r'.vendor.owed = r.vendor.owed := by rw [hVendor, Simulation.owed_wakeAll]
  have hThreads : r'.vendor.threads = r.vendor.threads.map LoopThread.wake := by rw [hVendor]; rfl
  have hHandler : r'.vendor.handler = r.vendor.handler := by rw [hVendor]; rfl
  have hInLoop : r'.vendor.inLoop = r.vendor.inLoop := by rw [hVendor]; rfl
  refine h.moved fit ?_ (by rw [hController]) (by rw [hVendor]; rfl) (by rw [hVendor]; rfl)
    (by rw [hOwed, hVendor]; rfl) (by rw [hVendor]; exact h.own) hCleanups
  cases h.lodging with
  | vacant hPhase hGone hEmpty hOut hFree =>
      exact .vacant (hController ▸ hPhase) (hWorkers ▸ hGone) (by rw [hThreads, hEmpty]; rfl)
        (hInLoop.trans hOut) (hHandler.trans hFree)
  | awaited w attends hEmpty hOut hSlot =>
      exact .awaited w (hAttends attends) (by rw [hThreads, hEmpty]; rfl) (hInLoop.trans hOut)
        (hHandler.trans (hSlot.trans hDue.symm))
  | waiting w t attends hOnly hId hSession hInside hIn hSlot =>
      exact .waiting w t.wake (hAttends attends) (by rw [hThreads, hOnly]; rfl)
        (t.id_wake.trans hId) (t.session_wake.trans hSession) (t.inside_wake.trans hInside)
        (hInLoop.trans hIn) (hHandler.trans (hSlot.trans hDue.symm))
  | leaving w t attends hOnly hId hSession hPast hOut hFree hStopping =>
      have hSame : t.wake = t := by rw [LoopThread.wake, hPast]
      exact .leaving w t (hAttends attends) (by rw [hThreads, hOnly, List.map_singleton, hSame]) hId
        hSession hPast (hInLoop.trans hOut) (hHandler.trans hFree) (hController ▸ hStopping)

/-- A worker that the session's thread belongs to lets that thread run on. -/
theorem Custody.ranOn {w w' : Worker} {report : Option Bool}
    {s : Surroundings (Simulation SessionHandle)} (h : r.Custody) (fit : r'.Fit)
    (hMember : w ∈ r.workers) (hStage : w.stage = .inLoop)
    (hStep : w.advance? Simulation.library r.toSurroundings = some (report, w', s))
    (hController : r'.controller = r.controller)
    (hWorkers : r'.workers = r.workers.map fun other => if other.id = w.id then w' else other)
    (hSurroundings : r'.toSurroundings = s) : r'.Custody := by
  have hOutstanding : w.isOutstanding = true := by simp [Worker.isOutstanding, hStage]
  have hRun : Surroundings.runLoop Simulation.library w.id r.toSurroundings =
      ((r.vendor.runLoop w.id).1, { r.toSurroundings with vendor := (r.vendor.runLoop w.id).2 }) :=
    rfl
  simp only [Worker.advance?, hStage, hRun] at hStep
  cases h.lodging with
  | vacant _ hGone => exact absurd hStage (hGone w hMember).2
  | awaited u attends =>
      obtain rfl := attends.eq h.fit (by simp) hMember hOutstanding
      cases hStage.symm.trans attends.stage
  | waiting u t attends hThreads hId hSession hInside hInLoop hHandler =>
      obtain rfl := attends.eq h.fit (by simp) hMember hOutstanding
      have hKnown : r.vendor.thread? t.id = some t := by simp [Simulation.thread?, hThreads]
      cases hAt : t.stage with
      | leaving => simp [hAt, Simulation.LoopStage.inside] at hInside
      | parked =>
          have hProgress : (r.vendor.runLoop u.id).1 = .waiting := by
            rw [← hId, Simulation.runLoop_of_parked hKnown hAt]
          simp [hProgress] at hStep
      | awake =>
          have hProgress : (r.vendor.runLoop u.id).1 = .running := by
            rw [← hId, Simulation.runLoop_of_look hKnown hAt]
          simp only [hProgress, Option.some.injEq, Prod.mk.injEq] at hStep
          obtain ⟨_, rfl, rfl⟩ := hStep
          rw [Crew.replace_self hMember h.fit.numbered.nodup] at hWorkers
          exact h.looked fit attends hThreads hId hSession hAt hInLoop hHandler hController hWorkers
            (by rw [hSurroundings]) (by rw [hSurroundings])
  | leaving u t attends hThreads hId hSession hPast hInLoop hHandler hStopping =>
      obtain rfl := attends.eq h.fit (by simp) hMember hOutstanding
      have hKnown : r.vendor.thread? t.id = some t := by simp [Simulation.thread?, hThreads]
      have hProgress : (r.vendor.runLoop u.id).1 = .returned := by
        rw [← hId, Simulation.runLoop_of_past hKnown hPast]
      simp only [hProgress, Option.some.injEq, Prod.mk.injEq] at hStep
      obtain ⟨_, rfl, rfl⟩ := hStep
      exact h.returned fit attends hThreads hId hSession hPast hInLoop hHandler hStopping
        hController hWorkers (by rw [hSurroundings]) (by rw [hSurroundings])

/-- A worker's step leaves the session's thread and the handler where they should be. -/
theorem Custody.advanced {id : Vendor.WorkerId} {report : Option Bool}
    {crew : Crew (Simulation SessionHandle)} (h : r.Custody)
    (hAdvance : r.toCrew.advance? Simulation.library id = some (report, crew)) :
    { r with toCrew := crew }.Custody := by
  obtain ⟨w, w', s, hMember, rfl, hStep, rfl⟩ := Crew.advance?_eq_some hAdvance
  obtain ⟨hStride, hAdds⟩ := Worker.stride_of_advance? hStep
  let r' : Radio (Simulation SessionHandle) :=
    { s with
      workers := r.workers.map fun other => if other.id = w.id then w' else other
      controller := r.controller }
  have fit : r'.Fit := h.fit.strode hMember hStride rfl rfl
  change r'.Custody
  cases hStage : w.stage with
  | inLoop => exact h.ranOn fit hMember hStage hStep rfl rfl rfl
  | spawned =>
      simp only [Worker.advance?, hStage, Option.some.injEq, Prod.mk.injEq] at hStep
      obtain ⟨_, rfl, rfl⟩ := hStep
      apply h.entered fit hMember hStage rfl rfl rfl
      have hCleanups : r'.journal.cleanups = _ := Surroundings.Adds.cleanups hAdds
      rw [hCleanups, cleaned?_of_nextCalls, List.append_nil]
  | returned | sampled =>
      have hOut : w'.stage ≠ .spawned ∧ w'.stage ≠ .inLoop := by
        cases hStride <;> simp_all
      simp only [Worker.advance?, hStage, Option.some.injEq, Prod.mk.injEq] at hStep
      obtain ⟨_, _, rfl⟩ := hStep
      exact h.strodeOut fit hMember hStride (by simp [hStage]) hOut rfl rfl rfl rfl
  | finished => simp [Worker.advance?, hStage] at hStep

theorem Shift.custody {cause : Cause} (shift : r.Shift cause r')
    (served : r.Served Simulation.library r')
    (expects : ∀ worker requested, cause = .exitReport worker requested →
      r.Expects worker requested) (h : r.Custody) : r'.Custody := by
  have fit := shift.fit expects h.fit
  have hSame {calls : List Vendor.Call} {told : List Delivery} {fatals : List Phase}
      (same : r.SameState r') (adds : r.Adds r' calls told fatals)
      (hVendor : ∃ counts, r'.vendor = { r.vendor with calls := counts })
      (hNone : calls.filterMap (·.cleaned?) = []) : r'.Custody := by
    refine h.congr fit (by rw [same.1]) (by rw [same.1]) same.2
      (hVendor.imp fun _ hCounted => ⟨r.vendor.exitHeld, hCounted⟩) ?_
    rw [Surroundings.Adds.cleanups adds, hNone, List.append_nil]
  have hSilent {told : List Delivery} {fatals : List Phase} (same : r.SameState r')
      (adds : r.Adds r' [] told fatals) : r'.Custody :=
    hSame same adds (Simulation.serves_inquiries (served.serves adds) (by simp)) rfl
  cases shift with
  | opened handle asked hPhase hController hWorkers adds =>
      obtain ⟨hStarted, hSession, _, _⟩ := fields_of_opened hController
      have hInquires : ∀ call ∈ .interfaces handle :: asked.map Vendor.Call.interfaceName,
          call.inquires = true := by
        simp [Vendor.Call.inquires]
      apply h.opened fit hPhase hStarted hSession hWorkers (served.serves adds) hInquires
      rw [Surroundings.Adds.cleanups adds, List.filterMap_cons, cleaned?_of_inquires hInquires]
      exact List.append_nil _
  | failed status _ same adds => exact hSame same adds (Simulation.serves_failed (served.serves adds)) rfl
  | repeated _ same adds | refused _ same adds | echoed _ same adds | abandoned _ same adds =>
      exact hSilent same adds
  | torn handle worker hPhase hHeld _ hController hWorkers adds =>
      refine h.torn fit hPhase hHeld ?_ ?_ hWorkers
        (Simulation.serves_cleanup (served.serves adds)) (Surroundings.Adds.cleanups adds)
      · rw [hController]
        rfl
      · rw [hController]
        rfl
  | absorbed => exact h
  | @served _ _ calls _ _ _ kept hWorkers adds _ asks =>
      have hInquires : ∀ call ∈ calls, call.inquires = true :=
        fun call hCall => call.inquires_of_asksVersion (asks call hCall).1
      obtain ⟨counts, hCounted⟩ := Simulation.serves_inquiries (served.serves adds) hInquires
      refine h.congr fit kept.phase kept.session hWorkers ⟨counts, _, hCounted⟩ ?_
      rw [Surroundings.Adds.cleanups adds, cleaned?_of_inquires hInquires, List.append_nil]
  | closed command hPhase _ hController hWorkers adds =>
      have hIdle := h.fit.idle_of_expects (expects _ _ rfl)
      refine h.closed fit hIdle (by rw [hController]; rfl) hWorkers ?_ ?_
      · exact (served.serves adds).eq_of_nil
      · rw [Surroundings.Adds.cleanups adds]
        exact List.append_nil _

/-- At most one thread is in the wait loop, and the library's flag tells whether there is one. -/
theorem Lodging.flag (h : r.Lodging) :
    (r.vendor.threads.filter (·.stage.inside)).length ≤ 1 ∧
      (r.vendor.inLoop = true ↔ ∃ t ∈ r.vendor.threads, t.stage.inside = true) := by
  cases h with
  | vacant _ _ hThreads hInLoop | awaited _ _ hThreads hInLoop => simp [hThreads, hInLoop]
  | waiting _ t _ hThreads _ _ hInside hInLoop => simp [hThreads, hInside, hInLoop]
  | leaving _ t _ hThreads _ _ hPast hInLoop =>
      simp [hThreads, hPast, hInLoop, Simulation.LoopStage.inside]

/-- While no handler is to be run, those of all teardowns have run, each for its own session. -/
theorem Custody.completions (h : r.Custody) (hNone : r.vendor.owed = []) :
    r.vendor.completions = r.journal.cleanups.map fun session => (session, session) := by
  rw [h.handlers, hNone, List.append_nil, List.map_map]
  refine ((List.map_congr_left fun c hRan => ?_).trans (List.map_id _)).symm
  exact Prod.ext rfl (h.own c hRan).symm

end Radio

end RadioLifecycle
