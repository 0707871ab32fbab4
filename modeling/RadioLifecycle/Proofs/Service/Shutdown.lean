import RadioLifecycle.Proofs.ControlThread.Call
import RadioLifecycle.Proofs.System.Course
import RadioLifecycle.Service
import RadioLifecycle.Simulation.Library

/-!
The end of a service. Whoever shuts it down from elsewhere ends the control thread behind everything
submitted before, once; on the control thread itself the attempt is refused and leaves no trace.
When the control thread has ended, for whatever reason, the service is of no use any more: it
refuses everything, tells nobody of anything and leaves the vendor library alone, but for workers
that are still under way.
-/

namespace RadioLifecycle

open ControlThread (Account Course Discharged Step)
open Vendor (Library SessionHandle)

variable {σ : Type}

/-! Shutting down on the control thread. -/

namespace Operation

/-- These operations without the attempts to shut down. -/
def withoutShutDown (operations : List Operation) : List Operation :=
  operations.filter (· ≠ .shutDown)

theorem submissions_withoutShutDown (operations : List Operation) :
    (withoutShutDown operations).flatMap (·.submissions) =
      operations.flatMap (·.submissions) := by
  induction operations with
  | nil => rfl
  | cons operation rest ih =>
      rw [withoutShutDown] at ih ⊢
      cases operation with
      | shutDown =>
          rw [List.filter_cons_of_neg (by simp), ih, List.flatMap_cons]
          rfl
      | post commands | query commands =>
          rw [List.filter_cons_of_pos (by simp), List.flatMap_cons, List.flatMap_cons, ih]

end Operation

namespace Audience

/-- The same receivers, but none of them ever tries to shut the service down. -/
def withoutShutDown (a : Audience) : Audience :=
  { a with operations := fun before d => Operation.withoutShutDown (a.operations before d) }

theorem operationsDuring_withoutShutDown (a : Audience) (before told : List Delivery) :
    a.withoutShutDown.operationsDuring before told =
      Operation.withoutShutDown (a.operationsDuring before told) := by
  induction told generalizing before with
  | nil => rfl
  | cons d rest ih =>
      rw [operationsDuring, operationsDuring, ih]
      exact (List.filter_append ..).symm

end Audience

namespace Task

/-- A receiver that tries to shut the service down while it is told of an event has no effect. -/
theorem run_withoutShutDown (lib : Library σ) (audience : Audience) :
    Task.run lib audience.withoutShutDown = Task.run lib audience := by
  funext task r
  simp only [run, Audience.operationsDuring_withoutShutDown,
    Operation.submissions_withoutShutDown]
  rfl

/-- Client code that tries to shut the service down on the control thread is told that it may not,
and does otherwise what it would do without the attempt. -/
theorem run_client_withoutShutDown (lib : Library σ) (audience : Audience)
    (operations : List Operation) (r : Radio σ) :
    Task.run lib audience (.client operations) r =
      { Task.run lib audience (.client (Operation.withoutShutDown operations)) r with
        reply := .outcomes (operations.map (·.outcomeInside)) } := by
  simp only [run, act, idle, Operation.submissions_withoutShutDown]

end Task

/-! Histories of a service. -/

namespace Service

/-- The first attempt to shut a service down from elsewhere, up to where it waits. -/
def halting (s : Service σ) : Service σ where
  system := (s.system.submit .halt).2
  joined := true

/-- A service comes from one state to another, and its control thread has this to tell of it.
Clients and workers come between each other in any way; only who shuts the service down waits for
the end of the control thread, and only the first one has something to wait for. -/
inductive History (s : Service σ) : Incidents Task (Radio σ) Reply → Service σ → Prop
  | refl : History s [] s
  | within {story new : Incidents Task (Radio σ) Reply} {t : Service σ} {system : System σ}
      (prior : History s story t) (last : Step (System.setting σ) t.system new system) :
      History s (story ++ new) { t with system }
  | shutDown {story : Incidents Task (Radio σ) Reply} {t : Service σ} (prior : History s story t)
      (first : t.joined = false) : History s (story ++ t.system.submission .halt) t.halting

variable {lib : Library σ} {audience : Audience} {s t : Service σ}
  {story earlier later : Incidents Task (Radio σ) Reply}

theorem History.course (history : History s story t) :
    Course (System.setting σ) s.system story t.system := by
  induction history with
  | refl => exact .refl
  | within _ last ih => exact .snoc ih last
  | shutDown _ _ ih => exact ih.trans (ControlThread.course_submit _ _)

/-- Once somebody has waited for the end of the control thread, nobody waits for it again. -/
theorem History.joined (history : History s story t) (h : s.joined = true) : t.joined = true := by
  induction history with
  | refl => exact h
  | within _ _ ih => exact ih
  | shutDown => rfl

theorem history_of_course {system : System σ}
    (course : Course (System.setting σ) s.system story system) :
    History s story { s with system } := by
  induction course with
  | refl => exact .refl
  | snoc _ last ih => exact ih.within last

theorem History.trans {first second : Incidents Task (Radio σ) Reply} {u : Service σ}
    (left : History s first t) (right : History t second u) : History s (first ++ second) u := by
  induction right with
  | refl =>
      rw [List.append_nil]
      exact left
  | within _ last ih =>
      rw [← List.append_assoc]
      exact .within ih last
  | shutDown _ hFirst ih =>
      rw [← List.append_assoc]
      exact .shutDown ih hFirst

theorem history_post (s : Service σ) (task : Task) :
    History s (s.system.submission task) (s.post task).2 :=
  history_of_course (ControlThread.course_submit s.system task)

theorem history_query (lib : Library σ) (audience : Audience) (s : Service σ) (origin : Origin)
    (task : Task) : ∃ story, History s story (s.query lib audience origin task).2 := by
  have lawful : (System.setting σ).runs (Task.run lib audience) :=
    Task.admissible_run lib audience
  obtain ⟨story, hCall⟩ := ControlThread.course_call lawful s.system origin task
  exact ⟨story, history_of_course hCall⟩

/-- The first attempt from elsewhere waits while the control thread executes what is queued. -/
theorem shutDownWhile_first (run : Task → Radio σ → Execution Task (Radio σ) Reply)
    (hFirst : s.joined = false) :
    s.shutDownWhile run .elsewhere =
      (.ok (), { s.halting with system := s.halting.system.catchUp run }) := by
  rw [shutDownWhile, hFirst]
  rfl

theorem shutDownWhile_again (run : Task → Radio σ → Execution Task (Radio σ) Reply)
    (hJoined : s.joined = true) : s.shutDownWhile run .elsewhere = (.ok (), s) := by
  rw [shutDownWhile, hJoined]
  rfl

theorem history_shutDownWhile {run : Task → Radio σ → Execution Task (Radio σ) Reply}
    (lawful : (System.setting σ).runs run) (s : Service σ) (origin : Origin) :
    ∃ story, History s story (s.shutDownWhile run origin).2 := by
  cases origin with
  | controlThread => exact ⟨[], .refl⟩
  | elsewhere =>
      cases hJoined : s.joined with
      | true =>
          rw [shutDownWhile_again run hJoined]
          exact ⟨[], .refl⟩
      | false =>
          obtain ⟨story, hCatchUp⟩ := ControlThread.course_advance lawful
            s.halting.system.queue.length s.halting.system
          rw [shutDownWhile_first run hJoined]
          exact ⟨_, (History.refl.shutDown hJoined).trans (history_of_course hCatchUp)⟩

theorem History.account {vendor : σ} {interface : String}
    (history : History (.spawn vendor interface) story s) :
    Account (System.setting σ) (System.initial vendor interface).context story s.system :=
  history.course.account

/-! The end of the control thread. -/

/-- A thread that has answered a request to halt has ended. -/
theorem isClosed_of_told {system : System σ} {x : Radio σ} {ticket : Ticket}
    (h : Account (System.setting σ) x story system) (hHalt : (ticket, .halt) ∈ story.accepted)
    (hTold : (system.outcome? ticket).isSome = true) : system.isClosed = true := by
  by_contra hOpen
  have hRunning : system.condition = .running := by
    rw [ControlThread.isClosed, decide_eq_true_eq, not_not] at hOpen
    exact hOpen
  rcases (ControlThread.outcome?_isSome_iff system ticket).mp hTold with hClosed | hAnswered
  · exact hOpen hClosed
  · obtain ⟨⟨_, reply⟩, hReply, rfl⟩ := List.mem_map.mp hAnswered
    rw [h.replies, List.mem_filterMap] at hReply
    obtain ⟨p, hFinished, hAnswer⟩ := hReply
    obtain ⟨job, hJob, rfl⟩ := h.begun_of_finished hFinished
    have hTicket := (Prod.mk.inj (Progress.answer?_eq_some_iff.mp hAnswer).1).1
    have hProceed : job.execution.verdict = .proceed :=
      h.standing.proceed_of_running hRunning job.progress hFinished
    obtain ⟨ahead, behind, hAccepted⟩ := List.append_of_mem hHalt
    obtain ⟨before, after, hBegun⟩ := List.append_of_mem hJob
    have hEntry := (h.place hAccepted hBegun hTicket).2
    have hLeads := h.leads
    rw [hBegun] at hLeads
    obtain ⟨_, run, lawful, hExecution⟩ := hLeads.before
    rw [hExecution, show job.task = .halt from congrArg Prod.snd hEntry,
      Task.Admissible.halt lawful] at hProceed
    cases hProceed

/-- However far a service has come since somebody began to shut it down, its control thread ends
when it has executed what is queued, whatever breaks down on the way. -/
theorem isClosed_of_halting {vendor : σ} {interface : String}
    (history : History (.spawn vendor interface) earlier s) (rest : History s.halting later t)
    {run : Task → Radio σ → Execution Task (Radio σ) Reply} (lawful : (System.setting σ).runs run) :
    (t.system.complete.catchUp run).isClosed = true := by
  have account := (history.account.course (ControlThread.course_submit s.system .halt)).course
    rest.course
  obtain ⟨more, hCourse⟩ := ControlThread.course_catchUp lawful t.system
  by_cases hRunning : s.system.condition = .running
  · have hHalt : (⟨s.system.accepted⟩, .halt) ∈
        Incidents.accepted (earlier ++ s.system.submission .halt ++ later) := by
      rw [ControlThread.submission_of_running hRunning, Incidents.accepted_append,
        (earlier.snoc_accepted _).1]
      simp
    have hTold := account.told lawful hHalt
    apply isClosed_of_told (account.course hCourse) ?_ hTold
    rw [Incidents.accepted_append]
    exact List.mem_append_left _ hHalt
  · have hClosed : s.system.isClosed = true := decide_eq_true hRunning
    have hIdle := history.account.idle_of_closed hClosed
    have hSame : s.halting.system = s.system := by
      rw [halting, ControlThread.submit_of_closed hClosed]
    have hSince := rest.course.trans hCourse
    rw [hSame] at hSince
    exact (hSince.of_closed hClosed hIdle).2.1

/-- The first attempt to shut a service down waits for the end of the control thread, and returns.
-/
theorem ends_of_halting {vendor : σ} {interface : String}
    (history : History (.spawn vendor interface) earlier s) (hFirst : s.joined = false)
    (hIdle : s.system.busy = none) {run : Task → Radio σ → Execution Task (Radio σ) Reply}
    (lawful : (System.setting σ).runs run) :
    ∃ later t, History s.halting later t ∧ t.system.isClosed = true ∧
      s.shutDownWhile run .elsewhere = (.ok (), t) := by
  obtain ⟨later, hLater⟩ :=
    ControlThread.course_advance lawful s.halting.system.queue.length s.halting.system
  have hFree : s.halting.system.busy = none :=
    (ControlThread.submit_frame s.system .halt).2.1.trans hIdle
  have hEnds := isClosed_of_halting history .refl lawful
  rw [ControlThread.complete, hFree] at hEnds
  exact ⟨later, _, history_of_course hLater, hEnds, shutDownWhile_first run hFirst⟩

/-- When the control thread has ended, nothing happens any more but what workers and the vendor
library do. -/
theorem quiet_of_closed {system system' : System σ}
    (course : Course (System.setting σ) system story system') (hClosed : system.isClosed = true)
    (hIdle : system.busy = none) :
    system'.context.controller = system.context.controller ∧
      ∃ calls, system.context.Adds system'.context calls [] [] ∧ ∀ call ∈ calls, call.ByWorker := by
  induction course with
  | refl => exact ⟨rfl, [], Surroundings.Adds.refl _, by simp⟩
  | snoc prior last ih =>
      obtain ⟨hController, calls, hAdds, hCalls⟩ := ih
      obtain ⟨_, hStill, hFree, _⟩ := prior.of_closed hClosed hIdle
      rcases last.context_of_closed hStill hFree with hSame | hTouch
      · rw [hSame]
        exact ⟨hController, calls, hAdds, hCalls⟩
      · obtain ⟨hKept, more, hMore, hWorkers⟩ := Radio.Touch.adds hTouch
        refine ⟨hKept.trans hController, calls ++ more, Surroundings.Adds.trans hAdds hMore, ?_⟩
        intro call hCall
        exact (List.mem_append.mp hCall).elim (hCalls call) (hWorkers call)

theorem post_of_closed (hClosed : s.system.isClosed = true) (task : Task) :
    s.post task = (.error .controlThreadGone, s) := by
  rw [post, ControlThread.submit_of_closed hClosed]
  rfl

theorem ask_of_closed {α : Type} (hClosed : s.system.isClosed = true) (c : Command)
    (read : Answer → Option α) (otherwise : α) :
    s.ask lib audience .elsewhere c read otherwise = (.error .controlThreadGone, s) := by
  rw [ask, query, ControlThread.call_of_closed _ hClosed]
  rfl

theorem onChip_of_closed (hClosed : s.system.isClosed = true) (chip : ChipId) {r : Chip.Request}
    (hRequest : r ≠ .id) :
    s.onChip lib audience .elsewhere chip r = (.error .controlThreadGone, s) := by
  by_cases hWaits : r.waits = true
  · rw [onChip, if_pos hWaits]
    exact ask_of_closed hClosed _ _ _
  · rw [onChip, if_neg hWaits, if_neg hRequest, command, post_of_closed hClosed]
    rfl

/-- Every operation of a service continues its history. However the service has come to where it is,
whatever happens to it next, and whichever tasks break down: an attempt to shut it down on the
control thread is refused and has no effect at all, be it made through the service or by client code
in the middle of a task. The first attempt from elsewhere ends the control thread when it has
executed what is queued, and returns; by then the thread has executed every task submitted before
the attempt, in order, unless one of them ended it early or broke down. Any further attempt finds
nothing to do. When the control thread has ended, for whatever reason, it never executes anything
any more: nobody is told of anything, only workers still call the vendor library, every command and
every query is refused, and all that stays so. -/
theorem shutDown_once {vendor : σ} {interface : String}
    (history : History (.spawn vendor interface) earlier s) :
    (∀ lib audience,
      (∀ task, ∃ more, History s more (s.post task).2) ∧
      (∀ origin task, ∃ more, History s more (s.query lib audience origin task).2) ∧
      ∀ origin, ∃ more, History s more (s.shutDown lib audience origin).2) ∧
    (∀ lib audience,
      s.shutDown lib audience .controlThread = (.error .reentrantCall, s) ∧
      Operation.shutDown.outcomeInside = .error .reentrantCall ∧
      Task.run lib audience.withoutShutDown = Task.run lib audience ∧
      ∀ operations r, Task.run lib audience (.client operations) r =
        { Task.run lib audience (.client (Operation.withoutShutDown operations)) r with
          reply := .outcomes (operations.map (·.outcomeInside)) }) ∧
    (s.joined = false →
      (∀ later t, History s.halting later t →
        let story := earlier ++ s.system.submission .halt ++ later
        t.joined = true ∧
        (∀ run, (System.setting σ).runs run → (t.system.complete.catchUp run).isClosed = true) ∧
        (t.system.isClosed = true →
          story.begun.map Job.entry <+: story.accepted ∧
          story.finished = story.begun.map Job.progress ∧
          Discharged earlier.accepted story)) ∧
      (s.system.busy = none →
        (∀ run, (System.setting σ).runs run → ∃ later t, History s.halting later t ∧
          t.system.isClosed = true ∧ s.shutDownWhile run .elsewhere = (.ok (), t)) ∧
        ∀ lib audience, ∃ later t, History s.halting later t ∧
          t.system.isClosed = true ∧ s.shutDown lib audience .elsewhere = (.ok (), t))) ∧
    (s.joined = true → ∀ later t, History s later t →
      ∀ lib audience, t.shutDown lib audience .elsewhere = (.ok (), t)) ∧
    (s.system.isClosed = true → ∀ later t, History s later t →
      t.system.isClosed = true ∧ later = [] ∧
      t.system.context.controller = s.system.context.controller ∧
      (∃ calls, s.system.context.Adds t.system.context calls [] [] ∧
        ∀ call ∈ calls, call.ByWorker) ∧
      (∀ task, t.post task = (.error .controlThreadGone, t)) ∧
      ∀ lib audience,
        (∀ {α : Type} (c : Command) (read : Answer → Option α) (otherwise : α),
          t.ask lib audience .elsewhere c read otherwise = (.error .controlThreadGone, t)) ∧
        ∀ chip r, r ≠ .id →
          t.onChip lib audience .elsewhere chip r = (.error .controlThreadGone, t)) := by
  refine ⟨?_, ?_, ?_, ?_, ?_⟩
  · intro lib audience
    exact ⟨fun task => ⟨_, history_post s task⟩, history_query lib audience s,
      history_shutDownWhile (Task.admissible_run lib audience) s⟩
  · intro lib audience
    exact ⟨rfl, rfl, Task.run_withoutShutDown lib audience,
      Task.run_client_withoutShutDown lib audience⟩
  · intro hFirst
    constructor
    · intro later t rest
      have account := (history.account.course
        (ControlThread.course_submit s.system .halt)).course rest.course
      refine ⟨rest.joined rfl, fun run lawful => isClosed_of_halting history rest lawful, ?_⟩
      intro hClosed
      refine ⟨account.isPrefix, account.finished_of_idle (account.idle_of_closed hClosed), ?_⟩
      apply account.discharged hClosed
      rw [Incidents.accepted_append, Incidents.accepted_append, List.append_assoc]
      exact List.prefix_append ..
    · intro hIdle
      have hEnds (run) (lawful : (System.setting σ).runs run) :=
        ends_of_halting history hFirst hIdle lawful
      exact ⟨hEnds, fun lib audience => hEnds _ (Task.admissible_run lib audience)⟩
  · intro hJoined later t rest lib audience
    exact shutDownWhile_again _ (rest.joined hJoined)
  · intro hClosed later t rest
    have hIdle := history.account.idle_of_closed hClosed
    obtain ⟨hNothing, hStill, _⟩ := rest.course.of_closed hClosed hIdle
    obtain ⟨hController, hQuiet⟩ := quiet_of_closed rest.course hClosed hIdle
    refine ⟨hStill, hNothing, hController, hQuiet, post_of_closed hStill, ?_⟩
    intro lib audience
    exact ⟨ask_of_closed hStill, fun chip r => onChip_of_closed hStill chip⟩

/-- A session is started and the service shut down, while a subscriber tries to do so as well when
it is told of the start. The start is carried out first. The worker of the session enters the event
loop only after that, and nobody else does anything any more. Nor does anybody when client code that
looks at the chip breaks down before a stop is carried out and the service is shut down. -/
theorem shutDown_once_startedBefore :
    let vendor : Simulation SessionHandle :=
      { behaviour := { interfaces := [{ name := "wlan0" }] } }
    let library := Simulation.library
    let audience : Audience :=
      { respond := fun _ _ => .accepted, operations := fun _ _ => [.shutDown] }
    let started := (((spawn vendor "wlan0").subscribe ⟨3⟩).2.start ⟨1⟩).2
    let ended := (started.shutDown library audience .elsewhere).2
    let breaking (task : Task) (r : Radio (Simulation SessionHandle)) :=
      if task = .visitChip [] then
        { Task.run library audience task r with verdict := .fault "no chip expected" }
      else Task.run library audience task r
    let visited := ((started.post (.visitChip [])).2.stop ⟨2⟩).2
    let broken := (visited.shutDownWhile breaking .elsewhere).2
    (ended.system.context.controller.phase = .started ∧ ended.system.isClosed = true ∧
      ended.system.context.journal.deliveries.length = 1 ∧
      ∃ later, History ended [] later ∧
        later.system.context.journal.calls.length =
          ended.system.context.journal.calls.length + 1 ∧
        later.start ⟨2⟩ = (.error .controlThreadGone, later) ∧
        later.isStarted library audience .elsewhere = (.error .controlThreadGone, later) ∧
        later.shutDown library audience .elsewhere = (.ok (), later)) ∧
    broken.system.condition = .faulted "no chip expected" ∧
    broken.system.context.controller.phase = .started ∧
    visited.shutDownWhile breaking .elsewhere = (.ok (), broken) ∧
    broken.start ⟨2⟩ = (.error .controlThreadGone, broken) ∧
    broken.isStarted library audience .elsewhere = (.error .controlThreadGone, broken) ∧
    broken.shutDown library audience .elsewhere = (.ok (), broken) := by
  intro vendor library audience started ended breaking visited broken
  have hStarted := (history_post (spawn vendor "wlan0") (.perform [.subscribe ⟨3⟩])).trans
    (history_post ((spawn vendor "wlan0").subscribe ⟨3⟩).2 (.perform [.start ⟨1⟩]))
  constructor
  · obtain ⟨_, _, hFirst, _⟩ := shutDown_once hStarted
    obtain ⟨rest, t, hRest, hClosed, hReturns⟩ := ((hFirst rfl).2 rfl).2 library audience
    have hSame : ended = t := congrArg Prod.snd hReturns
    rw [← hSame] at hRest hClosed
    have hEnded : History (spawn vendor "wlan0") _ ended := (hStarted.shutDown rfl).trans hRest
    obtain ⟨_, _, _, hAgain, hGone⟩ := shutDown_once hEnded
    -- The worker of the session calls the event loop only now.
    let system := (ended.system.work? library ⟨0⟩).get (by decide +kernel)
    have hPhase : ended.system.context.controller.phase = .started := by decide +kernel
    have hTold : ended.system.context.journal.deliveries.length = 1 := by decide +kernel
    obtain ⟨story, hWork⟩ := System.course_of_work? (Option.some_get _).symm
    have hLater : History ended story { ended with system } := history_of_course hWork
    obtain ⟨_, rfl, _, _, hPost, hAsk⟩ := hGone hClosed _ _ hLater
    refine ⟨hPhase, hClosed, hTold, { ended with system }, hLater, ?_, ?_, ?_, ?_⟩
    · decide +kernel
    · rw [start, command]
      exact hPost (.perform [.start ⟨2⟩])
    · rw [isStarted]
      exact (hAsk library audience).1 _ _ _
    · exact hAgain rfl _ _ hLater library audience
  · have lawful : (System.setting _).runs breaking := by
      refine ⟨library, audience, fun task r => ?_⟩
      by_cases hVisit : task = .visitChip []
      · exact .inr ⟨by simp [hVisit], "no chip expected", by simp [breaking, hVisit]⟩
      · exact .inl (by simp [breaking, hVisit])
    have hVisited := (hStarted.trans (history_post started (.visitChip []))).trans
      (history_post (started.post (.visitChip [])).2 (.perform [.stop ⟨2⟩]))
    obtain ⟨_, _, hFirst, _⟩ := shutDown_once hVisited
    obtain ⟨rest, t, hRest, hClosed, hReturns⟩ := ((hFirst rfl).2 rfl).1 breaking lawful
    have hSame : broken = t := congrArg Prod.snd hReturns
    rw [← hSame] at hRest hClosed hReturns
    have hBroken : History (spawn vendor "wlan0") _ broken := (hVisited.shutDown rfl).trans hRest
    obtain ⟨_, _, _, hAgain, hGone⟩ := shutDown_once hBroken
    obtain ⟨_, _, _, _, hPost, hAsk⟩ := hGone hClosed _ _ .refl
    refine ⟨by decide +kernel, by decide +kernel, hReturns, ?_, ?_, ?_⟩
    · rw [start, command]
      exact hPost (.perform [.start ⟨2⟩])
    · rw [isStarted]
      exact (hAsk library audience).1 _ _ _
    · exact hAgain rfl _ _ .refl library audience

end Service

end RadioLifecycle
