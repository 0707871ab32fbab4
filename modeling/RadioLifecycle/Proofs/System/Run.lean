import RadioLifecycle.Proofs.Controller.Soundness
import RadioLifecycle.System

/-!
Runs of the whole system, at the grain at which its threads come between each other. Clients and
workers submit while a task is under execution, also between two tasks that this one submits, and
workers move on between any two moves of the control thread. What the control thread did with the
controller in the course of a run is kept as a list of deeds.
-/

namespace RadioLifecycle

open Vendor (Library WorkerId)

/-- One call on the controller that the control thread made, with the radio before and after. -/
structure Deed (σ : Type) where
  cause : Cause
  before : Radio σ
  after : Radio σ

namespace Deed

variable {σ : Type}

/-- What the journal gained. -/
def entries (d : Deed σ) : Journal :=
  d.after.journal.drop d.before.journal.length

/-- The vendor calls that were made. -/
def calls (d : Deed σ) : List Vendor.Call :=
  d.entries.calls

/-- What subscribers were told. -/
def told (d : Deed σ) : List Delivery :=
  d.entries.deliveries

/-- The fatal reports that were made. -/
def fatals (d : Deed σ) : List Phase :=
  d.entries.fatals

theorem entries_of_journal {d : Deed σ} {entries : Journal}
    (h : d.after.journal = d.before.journal ++ entries) : d.entries = entries := by
  rw [Deed.entries, h, List.drop_left]

theorem gained {d : Deed σ} {calls : List Vendor.Call} {told : List Delivery} {fatals : List Phase}
    (h : d.before.Adds d.after calls told fatals) :
    d.calls = calls ∧ d.told = told ∧ d.fatals = fatals := by
  obtain ⟨entries, hJournal, rfl, rfl, rfl⟩ := h
  simp only [Deed.calls, Deed.told, Deed.fatals, entries_of_journal hJournal, and_self]

end Deed

/-- The calls that carry commands out one after another. -/
def Radio.deeds {σ : Type} (lib : Library σ) (respond : Response) :
    List Command → Radio σ → List (Deed σ)
  | [], _ => []
  | command :: rest, r =>
    let after := r.obey lib respond (.command command)
    ⟨.command command, r, after⟩ :: deeds lib respond rest after

theorem Radio.cause_of_mem_deeds {σ : Type} {lib : Library σ} {respond : Response}
    {commands : List Command} {r : Radio σ} {d : Deed σ} (h : d ∈ r.deeds lib respond commands) :
    ∃ command, d.cause = .command command := by
  induction commands generalizing r with
  | nil => simp [deeds] at h
  | cons command rest ih =>
      rcases List.mem_cons.mp h with rfl | hRest
      · exact ⟨command, rfl⟩
      · exact ih hRest

namespace Task

variable {σ : Type}

/-- The worker that a task reports of and what that worker saw, if the task is an exit report. -/
def report? : Task → Option (Option WorkerId × Bool)
  | .exitReport worker requested => some (worker, requested)
  | .perform _ | .client _ | .visitChip _ | .halt => none

/-- The calls on the controller that a task consists of. -/
def deeds (lib : Library σ) (respond : Response) (r : Radio σ) : Task → List (Deed σ)
  | .perform commands => r.deeds lib respond commands
  | .exitReport worker requested =>
    let cause := .exitReport worker requested
    [⟨cause, r, r.obey lib respond cause⟩]
  | .client _ | .visitChip _ | .halt => []

end Task

namespace System

variable {σ : Type}

/-- The calls on the controller that the first queued task consists of. -/
def nextDeeds (lib : Library σ) (respond : Response) (s : System σ) : List (Deed σ) :=
  match s.queue with
  | [] => []
  | (_, task) :: _ => task.deeds lib respond s.context

/-- One thing that happens in the system. Library and audience are those of this turn alone, so
what they do may depend on anything, also on what other threads do in the middle of a task. A task
of several commands may be taken in parts, between which workers move on. The reports of workers
come from workers only. -/
inductive Turn : System σ → List (Deed σ) → System σ → Prop
  | submit (s : System σ) (task : Task) (client : task.report? = none) :
      Turn s [] (s.submit task).2
  | begin {s t : System σ} (lib : Library σ) (audience : Audience)
      (h : s.begin? (Task.run lib audience) = some t) : Turn s (s.nextDeeds lib audience.respond) t
  | part {s : System σ} {ticket : Ticket} {first second : List Command} {rest : List (Ticket × Task)}
      (h : s.queue = (ticket, .perform (first ++ second)) :: rest) :
      Turn s [] { s with
        queue := (ticket, .perform first) :: (ticket, .perform second) :: rest }
  | issue {s t : System σ} (h : s.issue? = some t) : Turn s [] t
  | finish {s t : System σ} (h : s.finish? = some t) : Turn s [] t
  | work {s t : System σ} (lib : Library σ) (worker : WorkerId) (h : s.work? lib worker = some t) :
      Turn s [] t
  | disturb (s : System σ) (change : σ → σ) : Turn s [] (s.disturb change)
  | release (s : System σ) : Turn s [] { s with held := false }
  | retire {s t : System σ} (h : s.retire? = some t) : Turn s [] t

/-- The system comes from one state to another, and these deeds are done on the way. -/
inductive Run : System σ → List (Deed σ) → System σ → Prop
  | refl (s : System σ) : Run s [] s
  | snoc {s t u : System σ} {deeds more : List (Deed σ)} (prior : Run s deeds t)
      (last : Turn t more u) : Run s (deeds ++ more) u

theorem Run.trans {s t u : System σ} {first second : List (Deed σ)} (left : Run s first t)
    (right : Run t second u) : Run s (first ++ second) u := by
  induction right with
  | refl => simpa using left
  | snoc prior last ih =>
      rw [← List.append_assoc]
      exact .snoc ih last

theorem Turn.run {s t : System σ} {deeds : List (Deed σ)} (turn : Turn s deeds t) :
    Run s deeds t :=
  .snoc (.refl s) turn

/-- The task under execution can submit what it still has to and end, with nothing in between. -/
theorem run_complete (s : System σ) : Run s [] s.complete := by
  obtain ⟨context, queue, busy, condition, held, replies, accepted⟩ := s
  cases busy with
  | none => exact .refl _
  | some progress =>
      obtain ⟨ticket, reply, remaining, verdict⟩ := progress
      induction remaining generalizing queue accepted with
      | nil => exact (Turn.finish rfl).run
      | cons task rest ih => exact (Turn.issue rfl).run.trans (ih _ _)

/-- The deeds of an action. -/
def actionDeeds (lib : Library σ) (audience : Audience) (s : System σ) : Action σ → List (Deed σ)
  | .execute => s.nextDeeds lib audience.respond
  | .submit _ | .work _ | .disturb _ => []

/-- The deeds of a replay of actions. -/
def replayDeeds (lib : Library σ) (audience : Audience) :
    List (Action σ) → System σ → List (Deed σ)
  | [], _ => []
  | action :: rest, s =>
    s.actionDeeds lib audience action ++
      ((s.act? lib audience action).map (replayDeeds lib audience rest)).getD []

/-- An action that takes a task from its beginning to its end is made of turns, like any other. -/
theorem run_of_act? {lib : Library σ} {audience : Audience} {s t : System σ} {action : Action σ}
    (h : s.act? lib audience action = some t)
    (client : ∀ task, action = .submit task → task.report? = none) :
    Run s (s.actionDeeds lib audience action) t := by
  cases action with
  | submit task =>
      cases h
      exact (Turn.submit s task (client task rfl)).run
  | execute =>
      obtain ⟨begun, hBegun, rfl⟩ := Option.map_eq_some_iff.mp h
      have hRun := (Turn.begin lib audience hBegun).run.trans (run_complete begun)
      rwa [List.append_nil] at hRun
  | work worker => exact (Turn.work lib worker h).run
  | disturb change =>
      cases h
      exact (Turn.disturb s change).run

/-- Every replay of actions is a run. -/
theorem run_of_replay? {lib : Library σ} {audience : Audience} {s t : System σ}
    {actions : List (Action σ)} (h : replay? lib audience actions s = some t)
    (client : ∀ task, .submit task ∈ actions → task.report? = none) :
    Run s (replayDeeds lib audience actions s) t := by
  induction actions generalizing s with
  | nil =>
      cases h
      exact .refl _
  | cons action rest ih =>
      obtain ⟨u, hAct, hRest⟩ := Option.bind_eq_some_iff.mp h
      have hFirst := run_of_act? hAct (fun task hTask => client task (by simp [hTask]))
      have hSecond := ih hRest (fun task hTask => client task (by simp [hTask]))
      rw [replayDeeds, hAct]
      exact hFirst.trans hSecond

end System

end RadioLifecycle
