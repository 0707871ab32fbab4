import RadioLifecycle.Daemon.Session
import RadioLifecycle.Proofs.System.Run

/-!
Runs of the daemon, at the grain of the runs of its system. The main thread is one more thread among
the others, so it may come in between any two moves of the control thread and of the workers, and so
may the signal. Nobody but the main thread submits from outside.
-/

namespace RadioLifecycle.Daemon

open Vendor (Library WorkerId)

variable {σ : Type}

/-- The task that the main thread submits at a stage, and where it goes from there with its
ticket. -/
def Stage.submission? : Stage → Option (Task × (Ticket → Stage))
  | .register => some (.perform [.subscribe listener], fun _ => .start)
  | .start => some (.perform [.start startCommand], fun _ => .visitChip)
  | .visitChip => some (.visitChip [.register listener, .report], fun _ => .awaitSignal)
  | .stop => some (.perform [.stop stopCommand], fun _ => .ask)
  | .ask => some (.perform [.isStarted], .awaitAnswer)
  | .awaitSignal | .awaitAnswer _ | .shutDown | .join | .finished | .failed _ => none

theorem Stage.report?_of_submission? {stage : Stage} {task : Task} {next : Ticket → Stage}
    (h : stage.submission? = some (task, next)) : task.report? = none := by
  cases stage <;> cases h <;> rfl

namespace Session

/-- A submission goes to the system, and the main thread goes on or fails. -/
theorem submit_eq (s : Session σ) (task : Task) (next : Ticket → Stage) :
    s.submit task next =
      { s with
        system := (s.system.submit task).2
        stage :=
          if s.system.isClosed then .failed .controlThreadGone else next ⟨s.system.accepted⟩ } := by
  rw [submit, ControlThread.submit]
  cases s.system.isClosed <;> rfl

/-- What a step of the main thread comes to. -/
inductive Proceeds (s : Session σ) : Session σ → Prop
  | submitted (task : Task) (next : Ticket → Stage) (submission : s.stage.submission? = some (task, next)) :
      Proceeds s (s.submit task next)
  | released (stage : s.stage = .awaitSignal) (ready : (s.signalled || s.startFailed) = true) :
      Proceeds s { s with stage := .stop }
  | answered (ticket : Ticket) (answer : Except ServiceError Reply)
      (stage : s.stage = .awaitAnswer ticket) (outcome : s.system.outcome? ticket = some answer) :
      Proceeds s { s with stage := afterAnswer answer }
  | halted (stage : s.stage = .shutDown) :
      Proceeds s { s with system := (s.system.submit .halt).2, stage := .join }
  | joined (stage : s.stage = .join) (closed : s.system.isClosed = true) :
      Proceeds s { s with stage := .finished }

theorem proceeds_of_step? {s t : Session σ} (h : s.step? = some t) : s.Proceeds t := by
  rw [step?] at h
  cases hStage : s.stage with
  | register | start | visitChip | stop | ask =>
      simp only [hStage, Option.some.injEq] at h
      rw [← h]
      exact .submitted _ _ (by rw [hStage]; rfl)
  | awaitSignal =>
      simp only [hStage] at h
      split at h
      · next hReady =>
          cases h
          exact .released hStage hReady
      · cases h
  | awaitAnswer ticket =>
      simp only [hStage] at h
      obtain ⟨answer, hOutcome, rfl⟩ := Option.map_eq_some_iff.mp h
      exact .answered ticket answer hStage hOutcome
  | shutDown =>
      simp only [hStage, Option.some.injEq] at h
      rw [← h]
      exact .halted hStage
  | join =>
      simp only [hStage] at h
      split at h
      · next hClosed =>
          cases h
          exact .joined hStage hClosed
      · cases h
  | finished | failed => simp [hStage] at h

/-- A step of the main thread leaves the system as it is or submits a task that is no report. -/
theorem Proceeds.system {s t : Session σ} (h : s.Proceeds t) :
    t.system = s.system ∨ ∃ task : Task, task.report? = none ∧ t.system = (s.system.submit task).2 := by
  cases h with
  | submitted task next hErrand =>
      exact .inr ⟨task, Stage.report?_of_submission? hErrand, by rw [submit_eq]⟩
  | halted => exact .inr ⟨.halt, rfl, rfl⟩
  | released | answered | joined => exact .inl rfl

end Session

/-- One thing that happens to the daemon. The library is that of this turn alone, so what it does
may depend on anything. -/
inductive Turn : Session σ → List (Deed σ) → Session σ → Prop
  /-- The main thread makes its next step. -/
  | proceed {s t : Session σ} (h : s.step? = some t) : Turn s [] t
  | signal (s : Session σ) : Turn s [] s.signal
  | begin {s : Session σ} {t : System σ} (lib : Library σ)
      (h : s.system.begin? (Task.run lib audience) = some t) :
      Turn s (s.system.nextDeeds lib audience.respond) { s with system := t }
  | issue {s : Session σ} {t : System σ} (h : s.system.issue? = some t) :
      Turn s [] { s with system := t }
  | finish {s : Session σ} {t : System σ} (h : s.system.finish? = some t) :
      Turn s [] { s with system := t }
  | work {s : Session σ} {t : System σ} (lib : Library σ) (worker : WorkerId)
      (h : s.system.work? lib worker = some t) : Turn s [] { s with system := t }
  | disturb (s : Session σ) (change : σ → σ) :
      Turn s [] { s with system := s.system.disturb change }

/-- The daemon comes from one state to another, and these deeds are done on the way. -/
inductive Run : Session σ → List (Deed σ) → Session σ → Prop
  | refl (s : Session σ) : Run s [] s
  | snoc {s t u : Session σ} {deeds more : List (Deed σ)} (prior : Run s deeds t)
      (last : Turn t more u) : Run s (deeds ++ more) u

variable {s t u : Session σ} {deeds more : List (Deed σ)}

theorem Run.trans (left : Run s deeds t) (right : Run t more u) : Run s (deeds ++ more) u := by
  induction right with
  | refl => simpa using left
  | snoc prior last ih =>
      rw [← List.append_assoc]
      exact .snoc ih last

theorem Turn.run (turn : Turn s deeds t) : Run s deeds t :=
  .snoc (.refl s) turn

/-- What happens to the daemon happens to its system too, or does not touch it. -/
theorem Turn.system (turn : Turn s deeds t) :
    (t.system = s.system ∧ deeds = []) ∨ System.Turn s.system deeds t.system := by
  cases turn with
  | proceed h =>
      rcases (Session.proceeds_of_step? h).system with hSame | ⟨task, hReport, hSubmitted⟩
      · exact .inl ⟨hSame, rfl⟩
      · rw [hSubmitted]
        exact .inr (.submit s.system task hReport)
  | signal => exact .inl ⟨rfl, rfl⟩
  | begin lib h => exact .inr (.begin lib audience h)
  | issue h => exact .inr (.issue h)
  | finish h => exact .inr (.finish h)
  | work lib worker h => exact .inr (.work lib worker h)
  | disturb change => exact .inr (.disturb s.system change)

theorem Turn.systemRun (turn : Turn s deeds t) : System.Run s.system deeds t.system := by
  rcases turn.system with ⟨hSame, rfl⟩ | hTurn
  · rw [hSame]
    exact .refl _
  · exact hTurn.run

theorem Run.system (run : Run s deeds t) : System.Run s.system deeds t.system := by
  induction run with
  | refl => exact .refl _
  | snoc prior last ih => exact ih.trans last.systemRun

/-- The task under execution can submit what it still has to and end, with nothing in between. -/
theorem run_complete (s : Session σ) : Run s [] { s with system := s.system.complete } := by
  obtain ⟨⟨context, queue, busy, condition, held, replies, accepted⟩, signalled, stage⟩ := s
  cases busy with
  | none => exact .refl _
  | some progress =>
      obtain ⟨ticket, reply, remaining, verdict⟩ := progress
      induction remaining generalizing queue accepted with
      | nil => exact (Turn.finish rfl).run
      | cons task rest ih => exact (Turn.issue rfl).run.trans (ih _ _)

namespace Session

/-- The deeds of an action. -/
def actionDeeds (lib : Library σ) (s : Session σ) : Action σ → List (Deed σ)
  | .proceed | .signal => []
  | .system action => s.system.actionDeeds lib audience action

/-- The deeds of a replay of actions. -/
def replayDeeds (lib : Library σ) : List (Action σ) → Session σ → List (Deed σ)
  | [], _ => []
  | action :: rest, s =>
    s.actionDeeds lib action ++ ((s.act? lib action).map (replayDeeds lib rest)).getD []

end Session

/-- An action is made of turns, unless it is a submission by somebody else than the main thread. -/
theorem run_of_act? {lib : Library σ} {action : Session.Action σ} (h : s.act? lib action = some t)
    (own : ∀ task, action ≠ .system (.submit task)) : Run s (s.actionDeeds lib action) t := by
  cases action with
  | proceed => exact (Turn.proceed h).run
  | signal =>
      cases h
      exact (Turn.signal s).run
  | system action =>
      obtain ⟨system, hAct, rfl⟩ := Option.map_eq_some_iff.mp h
      cases action with
      | submit task => exact absurd rfl (own task)
      | execute =>
          obtain ⟨begun, hBegun, rfl⟩ := Option.map_eq_some_iff.mp hAct
          have hRun := (Turn.begin lib hBegun).run.trans (run_complete { s with system := begun })
          rwa [List.append_nil] at hRun
      | work worker => exact (Turn.work lib worker hAct).run
      | disturb change =>
          cases hAct
          exact (Turn.disturb s change).run

/-- Every replay in which only the main thread submits is a run. -/
theorem run_of_replay? {lib : Library σ} {actions : List (Session.Action σ)}
    (h : s.replay? lib actions = some t) (own : ∀ task, .system (.submit task) ∉ actions) :
    Run s (s.replayDeeds lib actions) t := by
  induction actions generalizing s with
  | nil =>
      cases h
      exact .refl _
  | cons action rest ih =>
      obtain ⟨u, hAct, hRest⟩ := Option.bind_eq_some_iff.mp h
      have hFirst := run_of_act? hAct fun task hAction => own task (by simp [hAction])
      have hSecond := ih hRest fun task hTask => own task (List.mem_cons_of_mem _ hTask)
      rw [Session.replayDeeds, hAct]
      exact hFirst.trans hSecond

end RadioLifecycle.Daemon
