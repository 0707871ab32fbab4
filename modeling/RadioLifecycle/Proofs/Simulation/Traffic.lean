import Mathlib.Data.List.Nodup
import RadioLifecycle.Simulation.Library

/-!
A simulated library that any number of threads call at any time. A call that changes the conditions
for leaving the event loop does so in one step and wakes the parked threads in a later one, and
anything may happen between the two. What has happened is kept as a history, and all that a later
step depends on can be read off it.
-/

namespace RadioLifecycle.Simulation

open Vendor (Status SessionHandle WorkerId)

/-- One thing that happened to a library. -/
inductive Mark (τ : Type) where
  | broughtUp (outcome : Except Status SessionHandle)
  | cleanupRequested (handler : τ)
  | exitHeld
  | exitAllowed
  | endRequested
  /-- A call that changed the conditions for leaving has now woken the parked threads. -/
  | woken
  | entered (thread : WorkerId) (session : SessionHandle)
  | parked (thread : WorkerId)
  | left (thread : WorkerId)
  | returned (thread : WorkerId)

/-- What has happened, latest first. -/
abbrev History (τ : Type) := List (Mark τ)

variable {τ : Type}

namespace Mark

/-- What a mark says of whether the exit is held. -/
def hold? : Mark τ → Option Bool
  | exitHeld => some true
  | exitAllowed => some false
  | broughtUp _ | cleanupRequested _ | endRequested | woken | entered _ _ | parked _ | left _
  | returned _ => none

/-- What a mark says of whether the event loop is to end without a teardown. -/
def ending? : Mark τ → Option Bool
  | endRequested => some true
  | broughtUp (.ok _) => some false
  | broughtUp (.error _) | cleanupRequested _ | exitHeld | exitAllowed | woken | entered _ _
  | parked _ | left _ | returned _ => none

/-- What a mark says of whether a teardown is to be done. -/
def cleanup? : Mark τ → Option Bool
  | cleanupRequested _ => some true
  | broughtUp (.ok _) => some false
  | broughtUp (.error _) | exitHeld | exitAllowed | endRequested | woken | entered _ _ | parked _
  | left _ | returned _ => none

/-- What a mark says of which handler is to be taken by the next thread that leaves. -/
def slot? : Mark τ → Option (Option τ)
  | cleanupRequested handler => some (some handler)
  | broughtUp (.ok _) | left _ => some none
  | broughtUp (.error _) | exitHeld | exitAllowed | endRequested | woken | entered _ _ | parked _
  | returned _ => none

/-- The session for which a thread calls the event loop. -/
def session? (thread : WorkerId) : Mark τ → Option SessionHandle
  | entered other session => if other = thread then some session else none
  | broughtUp _ | cleanupRequested _ | exitHeld | exitAllowed | endRequested | woken | parked _
  | left _ | returned _ => none

/-- The handler that comes with a cleanup. -/
def handler? : Mark τ → Option τ
  | cleanupRequested handler => some handler
  | broughtUp _ | exitHeld | exitAllowed | endRequested | woken | entered _ _ | parked _ | left _
  | returned _ => none

/-- Whether a handler that no thread has taken yet is lost by this. -/
def overtakes : Mark τ → Bool
  | cleanupRequested _ | broughtUp (.ok _) => true
  | broughtUp (.error _) | exitHeld | exitAllowed | endRequested | woken | entered _ _ | parked _
  | left _ | returned _ => false

end Mark

namespace History

/-- Whether the exit is held. -/
def isHeld (history : History τ) : Bool :=
  (history.findSome? Mark.hold?).getD false

/-- Whether an end was asked for since the library last came up. -/
def endRequested (history : History τ) : Bool :=
  (history.findSome? Mark.ending?).getD false

/-- Whether a cleanup was asked for since the library last came up. -/
def cleanupRequested (history : History τ) : Bool :=
  (history.findSome? Mark.cleanup?).getD false

/-- The handler of the latest cleanup, unless the library came up or a thread left the loop since.
-/
def untaken? (history : History τ) : Option τ :=
  (history.findSome? Mark.slot?).getD none

/-- The session for which a thread called the event loop last. -/
def session? (history : History τ) (thread : WorkerId) : Option SessionHandle :=
  history.findSome? (Mark.session? thread)

/-- The handler that a thread found when it left the loop last. -/
def taken? (thread : WorkerId) : History τ → Option τ
  | [] => none
  | .left other :: earlier => if other = thread then untaken? earlier else taken? thread earlier
  | _ :: earlier => taken? thread earlier

/-- The handlers that are run by threads as they return, earliest first: each thread runs what it
found when it left, for the session that it had called the event loop for. -/
def completions : History τ → List (τ × SessionHandle)
  | [] => []
  | .returned thread :: earlier =>
    completions earlier ++ ((taken? thread earlier).bind fun handler =>
      (session? earlier thread).map fun session => (handler, session)).toList
  | _ :: earlier => completions earlier

/-- The handlers of all cleanups, latest first. -/
def handlers (history : History τ) : List τ :=
  history.filterMap Mark.handler?

end History

/-- A library together with the number of calls that have changed the conditions for leaving the
event loop and have still to wake the parked threads. -/
structure Traffic (τ : Type) where
  vendor : Simulation τ
  unsignalled : Nat := 0

/-- The thread of this number, if it has called the event loop and has not returned from it. -/
def thread? (s : Simulation τ) (id : WorkerId) : Option (LoopThread τ) :=
  s.threads.find? (·.id = id)

/-- The thread is inside the wait loop, whether it looks at the conditions for leaving or waits. -/
def LoopStage.inside : LoopStage τ → Bool
  | .awake | .parked => true
  | .leaving _ => false

namespace Traffic

/-- One step of one of the threads, with the mark that it leaves. -/
inductive Step (c : Traffic τ) : Mark τ → Traffic τ → Prop
  | bringUp : Step c (.broughtUp c.vendor.bringUp.1) { c with vendor := c.vendor.bringUp.2.2 }
  | requestCleanup (handler : τ) :
      Step c (.cleanupRequested handler) ⟨c.vendor.requestCleanup handler, c.unsignalled + 1⟩
  | hold : Step c .exitHeld { c with vendor := c.vendor.hold }
  | allowExit : Step c .exitAllowed ⟨c.vendor.allowExit, c.unsignalled + 1⟩
  | requestEnd : Step c .endRequested ⟨c.vendor.requestEnd, c.unsignalled + 1⟩
  | wake {n : Nat} (due : c.unsignalled = n + 1) : Step c .woken ⟨c.vendor.wakeAll, n⟩
  | enter (id : WorkerId) (session : SessionHandle) (absent : c.vendor.thread? id = none) :
      Step c (.entered id session) { c with vendor := c.vendor.enterLoop id session }
  /-- A thread looks at the conditions for leaving, which do not hold. -/
  | park {t : LoopThread τ} (present : c.vendor.thread? t.id = some t) (awake : t.stage = .awake)
      (stays : c.vendor.mayLeave = false) :
      Step c (.parked t.id) { c with vendor := (c.vendor.runLoop t.id).2 }
  /-- A thread looks at the conditions for leaving, and they hold. -/
  | leave {t : LoopThread τ} (present : c.vendor.thread? t.id = some t) (awake : t.stage = .awake)
      (goes : c.vendor.mayLeave = true) :
      Step c (.left t.id) { c with vendor := (c.vendor.runLoop t.id).2 }
  /-- A thread that is past the loop returns to its caller. -/
  | comeBack {t : LoopThread τ} {taken : Option τ} (present : c.vendor.thread? t.id = some t)
      (past : t.stage = .leaving taken) :
      Step c (.returned t.id) { c with vendor := (c.vendor.runLoop t.id).2 }

/-- What comes of some steps, with the history of all that happened. -/
inductive Run (c : Traffic τ) : History τ → Traffic τ → Prop
  | refl : Run c [] c
  | step {d e : Traffic τ} {history : History τ} {mark : Mark τ} (prior : Run c history d)
      (last : Step d mark e) : Run c (mark :: history) e

/-- A library of this behaviour that nobody has called yet. -/
def fresh (τ : Type) (behaviour : Behaviour) : Traffic τ :=
  { vendor := { behaviour } }

end Traffic

section Calls

variable {s : Simulation τ} {t : LoopThread τ}

theorem id_of_thread? {id : WorkerId} (h : s.thread? id = some t) : t.id = id := by
  simpa using List.find?_some h

theorem mem_of_thread? {id : WorkerId} (h : s.thread? id = some t) : t ∈ s.threads :=
  List.mem_of_find?_eq_some h

theorem thread?_eq_none {id : WorkerId} : s.thread? id = none ↔ ∀ t ∈ s.threads, t.id ≠ id := by
  simp [thread?]

@[simp] theorem LoopThread.id_wake (t : LoopThread τ) : t.wake.id = t.id := by
  rw [LoopThread.wake]
  split <;> rfl

@[simp] theorem LoopThread.session_wake (t : LoopThread τ) : t.wake.session = t.session := by
  rw [LoopThread.wake]
  split <;> rfl

@[simp] theorem LoopThread.inside_wake (t : LoopThread τ) :
    t.wake.stage.inside = t.stage.inside := by
  rw [LoopThread.wake]
  split <;> simp_all [LoopStage.inside]

theorem LoopThread.wake_ne_parked (t : LoopThread τ) : t.wake.stage ≠ .parked := by
  rw [LoopThread.wake]
  split <;> simp_all

theorem thread?_wakeAll (s : Simulation τ) (id : WorkerId) :
    s.wakeAll.thread? id = (s.thread? id).map LoopThread.wake := by
  simp only [thread?, wakeAll, List.find?_map]
  congr 2
  funext t
  simp

theorem thread?_enterLoop (s : Simulation τ) (id other : WorkerId) (session : SessionHandle) :
    (s.enterLoop id session).thread? other =
      (s.thread? other).or (if id = other then some { id, session } else none) := by
  simp [thread?, enterLoop, List.find?_append, List.find?_singleton]

theorem thread?_setStage (s : Simulation τ) (id other : WorkerId) (stage : LoopStage τ) :
    (s.setStage id stage).thread? other =
      (s.thread? other).map fun t => if t.id = id then { t with stage } else t := by
  simp only [thread?, setStage, List.find?_map]
  congr 2
  funext t
  by_cases h : t.id = id <;> simp [h]

theorem thread?_setStage_self {id : WorkerId} {stage : LoopStage τ} (present : s.thread? id = some t) :
    (s.setStage id stage).thread? id = some { t with stage } := by
  simp [thread?_setStage, present, id_of_thread? present]

theorem thread?_setStage_of_ne {id other : WorkerId} {stage : LoopStage τ} (h : other ≠ id) :
    (s.setStage id stage).thread? other = s.thread? other := by
  rw [thread?_setStage]
  cases hKnown : s.thread? other with
  | none => rfl
  | some t => simp [id_of_thread? hKnown, h]

/-- An attempt to bring the library up either fails and only counts, or begins a session. -/
theorem bringUp_cases (s : Simulation τ) :
    (∃ status, s.bringUp.1 = .error status ∧
      s.bringUp.2.2 = { s with calls.bringUp := s.calls.bringUp + 1 }) ∨
    (s.bringUp.1 = .ok ⟨s.nextHandle⟩ ∧
      s.bringUp.2.2 = { s with
        calls.bringUp := s.calls.bringUp + 1
        nextHandle := s.nextHandle + 1
        cleanupRequested := false
        terminated := false
        handler := none }) := by
  cases hError : s.behaviour.bringUpError with
  | none => exact .inr (by simp [bringUp, hError])
  | some status => exact .inl ⟨status, by simp [bringUp, hError]⟩

/-- A thread that has returned is no longer known, and the others stay as they are. -/
theorem thread?_filter_of_ne {id other : WorkerId} (h : other ≠ id) :
    { s with threads := s.threads.filter (·.id ≠ id) }.thread? other = s.thread? other := by
  rw [thread?, thread?, List.find?_filter]
  congr 1
  funext t
  by_cases hSame : t.id = other <;> simp [hSame, h]

theorem runLoop_of_parked (present : s.thread? t.id = some t) (parked : t.stage = .parked) :
    s.runLoop t.id = (.waiting, s) := by
  rw [thread?] at present
  simp [runLoop, present, parked]

theorem runLoop_of_stays (present : s.thread? t.id = some t) (awake : t.stage = .awake)
    (stays : s.mayLeave = false) : s.runLoop t.id = (.running, s.setStage t.id .parked) := by
  rw [thread?] at present
  simp [runLoop, present, awake, stays]

theorem runLoop_of_goes (present : s.thread? t.id = some t) (awake : t.stage = .awake)
    (goes : s.mayLeave = true) :
    s.runLoop t.id =
      (.running,
        { s with inLoop := false, handler := none }.setStage t.id (.leaving s.handler)) := by
  rw [thread?] at present
  simp [runLoop, present, awake, goes]

theorem runLoop_of_look (present : s.thread? t.id = some t) (awake : t.stage = .awake) :
    (s.runLoop t.id).1 = .running := by
  cases hLeave : s.mayLeave with
  | true => rw [runLoop_of_goes present awake hLeave]
  | false => rw [runLoop_of_stays present awake hLeave]

/-- A thread that looks is past the loop, with the handler that it found, or parks. -/
theorem thread?_look (present : s.thread? t.id = some t) (awake : t.stage = .awake) :
    (s.runLoop t.id).2.thread? t.id =
      some { t with stage := if s.mayLeave then .leaving s.handler else .parked } := by
  cases hLeave : s.mayLeave with
  | true =>
      rw [runLoop_of_goes present awake hLeave]
      exact thread?_setStage_self present
  | false =>
      rw [runLoop_of_stays present awake hLeave]
      exact thread?_setStage_self present

theorem runLoop_of_past {taken : Option τ} (present : s.thread? t.id = some t)
    (past : t.stage = .leaving taken) :
    s.runLoop t.id =
      (.returned,
        { s with
          threads := s.threads.filter (·.id ≠ t.id)
          completions :=
            s.completions ++ (taken.map fun handler => (handler, t.session)).toList }) := by
  rw [thread?] at present
  simp [runLoop, present, past]

end Calls

namespace Traffic

variable {c d : Traffic τ} {history : History τ} {mark : Mark τ}

/-! The calls of a program as runs. Others may come in between their steps, which is why the steps
are those of a run and not the calls. -/

/-- A step that changes the conditions for leaving is followed by one that wakes. -/
theorem Step.thenWakes {changed : Simulation τ} (step : Step c mark ⟨changed, c.unsignalled + 1⟩) :
    Run c [.woken, mark] { c with vendor := changed.wakeAll } :=
  .step (.step .refl step) (.wake rfl)

theorem run_cleanup (c : Traffic τ) (handler : τ) :
    Run c [.woken, .cleanupRequested handler] { c with vendor := c.vendor.cleanup handler } :=
  (Step.requestCleanup handler).thenWakes

theorem run_release (c : Traffic τ) :
    Run c [.woken, .exitAllowed] { c with vendor := c.vendor.release } :=
  Step.allowExit.thenWakes

theorem run_terminate (c : Traffic τ) :
    Run c [.woken, .endRequested] { c with vendor := c.vendor.terminate } :=
  Step.requestEnd.thenWakes

/-- A thread that runs on makes one step, or none if it waits or is not in the event loop. -/
theorem run_runLoop (c : Traffic τ) (id : WorkerId) :
    ∃ history, Run c history { c with vendor := (c.vendor.runLoop id).2 } := by
  cases hThread : c.vendor.thread? id with
  | none =>
      have hSame : c.vendor.runLoop id = (.waiting, c.vendor) := by
        rw [thread?] at hThread
        simp [runLoop, hThread]
      rw [hSame]
      exact ⟨[], .refl⟩
  | some t =>
      obtain rfl := id_of_thread? hThread
      cases hStage : t.stage with
      | parked =>
          rw [runLoop_of_parked hThread hStage]
          exact ⟨[], .refl⟩
      | awake =>
          cases hLeave : c.vendor.mayLeave with
          | true => exact ⟨_, .step .refl (.leave hThread hStage hLeave)⟩
          | false => exact ⟨_, .step .refl (.park hThread hStage hLeave)⟩
      | leaving => exact ⟨_, .step .refl (.comeBack hThread hStage)⟩

/-- The library's flags and its handler are what the history says of them. -/
structure Recorded (c : Traffic τ) (history : History τ) : Prop where
  exitHeld : c.vendor.exitHeld = history.isHeld
  terminated : c.vendor.terminated = history.endRequested
  cleanupRequested : c.vendor.cleanupRequested = history.cleanupRequested
  handler : c.vendor.handler = history.untaken?

theorem Recorded.mayLeave (h : c.Recorded history) :
    c.vendor.mayLeave =
      (history.endRequested || history.cleanupRequested && !history.isHeld) := by
  rw [Simulation.mayLeave, h.exitHeld, h.terminated, h.cleanupRequested]

theorem recorded_fresh (behaviour : Behaviour) : (fresh τ behaviour).Recorded [] :=
  ⟨rfl, rfl, rfl, rfl⟩

theorem Step.recorded (step : Step c mark d) (h : c.Recorded history) :
    d.Recorded (mark :: history) := by
  obtain ⟨hHeld, hTerminated, hCleanup, hHandler⟩ := h
  cases step with
  | bringUp =>
      rcases bringUp_cases c.vendor with ⟨status, hOutcome, hAfter⟩ | ⟨hOutcome, hAfter⟩
      · rw [hOutcome, hAfter]
        exact ⟨hHeld, hTerminated, hCleanup, hHandler⟩
      · rw [hOutcome, hAfter]
        exact ⟨hHeld, rfl, rfl, rfl⟩
  | requestCleanup handler => exact ⟨hHeld, hTerminated, rfl, rfl⟩
  | hold | allowExit => exact ⟨rfl, hTerminated, hCleanup, hHandler⟩
  | requestEnd => exact ⟨hHeld, rfl, hCleanup, hHandler⟩
  | wake | enter => exact ⟨hHeld, hTerminated, hCleanup, hHandler⟩
  | park present awake stays =>
      rw [runLoop_of_stays present awake stays]
      exact ⟨hHeld, hTerminated, hCleanup, hHandler⟩
  | leave present awake goes =>
      rw [runLoop_of_goes present awake goes]
      exact ⟨hHeld, hTerminated, hCleanup, rfl⟩
  | comeBack present past =>
      rw [runLoop_of_past present past]
      exact ⟨hHeld, hTerminated, hCleanup, hHandler⟩

/-- At any time the history tells all flags and the handler. -/
theorem Run.recorded {behaviour : Behaviour} (run : Run (fresh τ behaviour) history c) :
    c.Recorded history := by
  induction run with
  | refl => exact recorded_fresh behaviour
  | step prior last ih => exact last.recorded ih

end Traffic

end RadioLifecycle.Simulation
