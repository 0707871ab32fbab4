import RadioLifecycle.Proofs.Daemon.Story
import RadioLifecycle.Simulation.Library

/-!
How the daemon leaves. The main thread asks again and again whether there is a session, and shuts
the service down when it is told that there is none. It is told so only after its stop has been
answered, for the question is queued behind the stop and a session counts as there until its worker
has reported. So whatever the vendor library does, and whenever the signal comes, nothing of a
session is left when the daemon shuts down.
-/

namespace RadioLifecycle

open Vendor (Library)

variable {σ : Type}

/-- Only a single command is answered by a single answer. -/
theorem Radio.eq_singleton_of_performAll {lib : Library σ} {respond : Response}
    {commands : List Command} {r : Radio σ} {answer : Answer}
    (h : (r.performAll lib respond commands).1 = [answer]) :
    ∃ command, commands = [command] ∧ (r.perform lib respond command).1 = answer := by
  cases commands with
  | nil => cases h
  | cons command rest =>
      cases rest with
      | nil => exact ⟨command, rfl, (List.cons.inj h).1⟩
      | cons => simp [performAll] at h

namespace Daemon

/-- Whether the main thread has turned to leaving. -/
def Stage.leaves : Stage → Bool
  | .shutDown | .join | .finished => true
  | .register | .start | .visitChip | .awaitSignal | .stop | .ask | .awaitAnswer _ | .failed _ =>
    false

theorem Stage.leaves_of_submission? {stage : Stage} {task : Task} {next : Ticket → Stage}
    (h : stage.submission? = some (task, next)) (ticket : Ticket) : (next ticket).leaves = false := by
  cases stage <;> cases h <;> rfl

/-- The daemon has been answered that there is no session, or it will be. -/
inductive Session.Denied (s : Session σ) : Prop
  | given (ticket : Ticket) (reply : (ticket, .answers [.flag false]) ∈ s.system.replies) : Denied s
  | coming (p : Progress Task Reply) (busy : s.system.busy = some p)
      (reply : p.reply = .answers [.flag false]) : Denied s
  | heeded (leaves : s.stage.leaves = true) : Denied s

namespace Session

variable {s t : Session σ}

theorem Denied.of_same (denied : t.Denied) (hReplies : t.system.replies = s.system.replies)
    (hBusy : t.system.busy = s.system.busy)
    (hLeaves : t.stage.leaves = true → s.Denied) : s.Denied := by
  cases denied with
  | given ticket hReply =>
      rw [hReplies] at hReply
      exact .given ticket hReply
  | coming p hProgress hReply =>
      rw [hBusy] at hProgress
      exact .coming p hProgress hReply
  | heeded leaves => exact hLeaves leaves

/-- The main thread heeds only what it has been answered. -/
theorem Denied.of_proceeds (proceeds : s.Proceeds t) (denied : t.Denied) : s.Denied := by
  cases proceeds with
  | submitted task next hErrand =>
      rw [submit_eq] at denied
      apply denied.of_same (s.system.submit_replies task) (s.system.submit_frame task).2.1
      intro hLeaves
      split at hLeaves
      · cases hLeaves
      · cases (Stage.leaves_of_submission? hErrand _).symm.trans hLeaves
  | released => exact denied.of_same rfl rfl fun hLeaves => by cases hLeaves
  | answered ticket answer hStage hOutcome =>
      refine denied.of_same rfl rfl fun hLeaves => ?_
      rcases ControlThread.outcome?_eq_some hOutcome with ⟨given, reply, rfl, hReply⟩ | ⟨e, rfl⟩
      · simp only [afterAnswer] at hLeaves
        split at hLeaves
        · next hNo =>
            cases hNo
            exact .given given hReply
        · cases hLeaves
        · cases hLeaves
      · cases hLeaves
  | halted hStage | joined hStage => exact .heeded (by rw [hStage]; rfl)

end Session

variable {s t : Session σ} {deeds : List (Deed σ)} {done : List Command}

/-- Nothing but a question that is answered now makes the daemon be told that there is no session.
-/
theorem Turn.denied (turn : Turn s deeds t) (denied : t.Denied) :
    s.Denied ∨ ∃ (lib : Library σ) (command : Command),
      errandsOf deeds = [command].filter (·.isErrand) ∧
      (s.system.context.perform lib audience.respond command).1 = .flag false := by
  cases turn with
  | proceed hStep => exact .inl (denied.of_proceeds (Session.proceeds_of_step? hStep))
  | signal | disturb => exact .inl (denied.of_same rfl rfl fun hLeaves => .heeded hLeaves)
  | begin lib hBegin =>
      obtain ⟨_, _, ticket, task, rest, hQueue, rfl⟩ := ControlThread.begin?_eq_some hBegin
      cases denied with
      | given ticket hReply => exact .inl (.given ticket hReply)
      | heeded hLeaves => exact .inl (.heeded hLeaves)
      | coming p hBusy hReply =>
          obtain rfl := Option.some.inj hBusy
          refine .inr ⟨lib, ?_⟩
          rw [System.errandsOf_nextDeeds hQueue]
          cases task with
          | perform commands =>
              obtain ⟨command, rfl, hAnswer⟩ :=
                Radio.eq_singleton_of_performAll (Reply.answers.inj hReply)
              exact ⟨command, rfl, hAnswer⟩
          | client | exitReport | halt => cases hReply
          | visitChip requests =>
              simp only [Task.run, Task.act, Task.idle] at hReply
              split at hReply <;> cases hReply
  | issue hIssue =>
      obtain ⟨ticket, reply, task, rest, verdict, hBusy, rfl⟩ := ControlThread.issue?_eq_some hIssue
      cases denied with
      | given ticket hReply => exact .inl (.given ticket hReply)
      | heeded hLeaves => exact .inl (.heeded hLeaves)
      | coming p hProgress hReply =>
          obtain rfl := Option.some.inj hProgress
          exact .inl (.coming _ hBusy hReply)
  | finish hFinish =>
      obtain ⟨p, hBusy, _, rfl⟩ := ControlThread.finish?_eq_some hFinish
      cases denied with
      | given ticket hReply =>
          rcases ControlThread.mem_replies_of_conclude hReply with hOld | hNew
          · exact .inl (.given ticket hOld)
          · exact .inl (.coming p hBusy (Prod.mk.inj hNew).2.symm)
      | heeded hLeaves => exact .inl (.heeded hLeaves)
      | coming q hProgress =>
          have hIdle : ({ s.system with busy := none }.conclude p).busy = none := by
            rw [ControlThread.conclude]
            split <;> rfl
          cases hIdle.symm.trans hProgress
  | work lib worker hWork =>
      obtain ⟨⟨report, crew⟩, _, rfl⟩ := Option.map_eq_some_iff.mp hWork
      obtain ⟨_, hBusy, _⟩ := s.system.afterWork_frame worker report crew
      refine .inl (denied.of_same ?_ hBusy fun hLeaves => .heeded hLeaves)
      cases report with
      | none => rfl
      | some requested => exact ControlThread.submit_replies _ _

theorem Turn.passes (turn : Turn s deeds t) :
    s.system.context.Passes deeds t.system.context := by
  rcases turn.system with ⟨hSame, rfl⟩ | hTurn
  · rw [hSame]
    exact .rested rfl rfl (Surroundings.Adds.refl _)
  · exact hTurn.passes

/-- What holds of the daemon, wherever its threads are: its errands are in order, its radio is where
they lead, and it is denied a session only after its stop has been answered. -/
structure Session.Course (s : Session σ) (done : List Command) : Prop where
  inOrder : s.InOrder done
  chapter : s.system.context.Chapter done
  answered : s.Denied → .stopped stopCommand ∈ s.system.context.reading.told

theorem Turn.course (turn : Turn s deeds t) (regular : s.system.Regular)
    (fit : s.system.context.Fit) (h : s.Course done) : t.Course (done ++ errandsOf deeds) := by
  obtain ⟨asked, hRoute⟩ :
      ∃ asked, done ++ errandsOf deeds <+: route ++ List.replicate asked .isStarted := by
    by_cases hGoesOn : s.system.GoesOn
    · obtain ⟨asked, hOrder⟩ := h.inOrder.order hGoesOn
      refine ⟨asked, List.IsPrefix.trans ?_ (s.stage.submitted_prefix asked)⟩
      rw [← hOrder, List.prefix_append_right_inj]
      exact turn.errandsOf_prefix
    · rw [(turn.systemRun.stalled hGoesOn).2.1, append_errandsOf_nil]
      exact h.chapter.story.route_prefix
  refine ⟨turn.inOrder h.inOrder, ?_, ?_⟩
  · exact turn.passes.chapter fit.sound hRoute h.chapter
  · intro denied
    have hTold : .stopped stopCommand ∈ s.system.context.reading.told := by
      rcases turn.denied denied with hBefore | ⟨lib, command, hErrands, hAnswer⟩
      · exact h.answered hBefore
      · rw [hErrands] at hRoute
        exact h.chapter.denies lib audience.respond hRoute hAnswer
    rw [Radio.reading, (turn.systemRun.leads regular).deliveries, lifecycleHeard_append]
    exact List.mem_append_left _ hTold

theorem Run.course (run : Run s deeds t) (regular : s.system.Regular)
    (fit : s.system.context.Fit) (h : s.Course done) : t.Course (done ++ errandsOf deeds) := by
  induction run with
  | refl =>
      rw [append_errandsOf_nil]
      exact h
  | snoc prior last ih =>
      rw [errandsOf_append, ← List.append_assoc]
      exact last.course (prior.system.regular regular).1 (prior.system.fit regular fit) ih

end Daemon

end RadioLifecycle
