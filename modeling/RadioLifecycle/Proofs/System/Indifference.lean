import RadioLifecycle.Proofs.Controller.Bisimulation
import RadioLifecycle.Proofs.Journal.Agreement
import RadioLifecycle.Proofs.System.Observers
import RadioLifecycle.Proofs.System.Obedience

/-!
What subscribers cannot do. A subscriber may fail or break down whenever it is told something, and
nothing comes of it but a remark in the log: two systems in which the same happens, and whose
subscribers respond differently, stay the same in everything else, step by step. In particular a
subscriber that failed is told of what comes later, and so are those behind it.
-/

namespace RadioLifecycle

open Vendor (Library WorkerId)

variable {σ : Type}

namespace Radio

/-- The radio without the remarks on endings in its journal. -/
def unremarked (r : Radio σ) : Radio σ :=
  r.within { r.toSurroundings with journal := r.journal.unremarked }

/-- Two radios are the same but for remarks on endings. -/
structure Agrees (r₁ r₂ : Radio σ) : Prop where
  controller : r₁.controller = r₂.controller
  workers : r₁.workers = r₂.workers
  surroundings : r₁.toSurroundings.Agrees r₂.toSurroundings

theorem Agrees.refl (r : Radio σ) : r.Agrees r :=
  ⟨rfl, rfl, rfl, rfl⟩

theorem agrees_iff_matches {r₁ r₂ : Radio σ} :
    r₁.Agrees r₂ ↔ r₁.Matches Surroundings.Agrees r₂ :=
  ⟨fun h => ⟨h.controller, h.workers, h.surroundings⟩,
    fun h => ⟨h.controller, h.workers, h.surroundings⟩⟩

theorem Agrees.unremarked {r₁ r₂ : Radio σ} (h : r₁.Agrees r₂) :
    r₁.unremarked = r₂.unremarked := by
  obtain ⟨⟨⟨vendor, journal⟩, workers⟩, controller⟩ := r₁
  obtain ⟨⟨⟨_, journal'⟩, _⟩, _⟩ := r₂
  obtain ⟨rfl, rfl, rfl, hJournal⟩ := h
  have hSame : journal.unremarked = journal'.unremarked := hJournal
  simp only [Radio.unremarked, hSame]
  rfl

end Radio

namespace Task

variable {r₁ r₂ : Radio σ}

/-- Executions that come to the same, but for remarks on endings. -/
structure ActsAlike (e₁ e₂ : Execution Task (Radio σ) Reply) : Prop where
  context : e₁.context.Agrees e₂.context
  reply : e₁.reply = e₂.reply
  submitted : e₁.submitted = e₂.submitted
  verdict : e₁.verdict = e₂.verdict

theorem act_alike (h : r₁.Agrees r₂) (lib : Library σ) (first second : Response) (task : Task) :
    ActsAlike (task.act lib first r₁) (task.act lib second r₂) := by
  have bisim := Surroundings.agrees_bisimulation lib
  have matched := Radio.agrees_iff_matches.mp h
  cases task with
  | perform commands =>
      obtain ⟨hAnswers, hNext⟩ := matched.performAll bisim first second commands
      exact ⟨Radio.agrees_iff_matches.mpr hNext, congrArg Reply.answers hAnswers, rfl, rfl⟩
  | exitReport worker requested =>
      obtain ⟨hVerdict, hNext⟩ := matched.onLoopExited bisim first second requested
      refine ⟨Radio.agrees_iff_matches.mpr hNext, ?_, rfl, hVerdict⟩
      simp only [act, hVerdict]
  | visitChip requests =>
      have hVisited := Radio.agrees_iff_matches.mpr
        (matched.within (h.surroundings.enter (.visit r₂.controller.currentChip)))
      simp only [act, h.controller]
      cases hChip : r₂.controller.currentChip with
      | none =>
          rw [hChip] at hVisited
          exact ⟨hVisited, rfl, rfl, rfl⟩
      | some chip =>
          rw [hChip] at hVisited
          exact ⟨hVisited, rfl, rfl, rfl⟩
  | client | halt => exact ⟨h, rfl, rfl, rfl⟩

/-- What subscribers submit while they are told of events depends on the events alone. -/
theorem run_alike (h : r₁.Agrees r₂) (lib : Library σ) (first second : Response)
    (operations : List Delivery → Delivery → List Operation) (task : Task) :
    ActsAlike (task.run lib ⟨first, operations⟩ r₁) (task.run lib ⟨second, operations⟩ r₂) := by
  have hAct := act_alike h lib first second task
  have hDuring (before : List Delivery) (told : List Delivery) :
      Audience.operationsDuring ⟨first, operations⟩ before told =
        Audience.operationsDuring ⟨second, operations⟩ before told := by
    induction told generalizing before with
    | nil => rfl
    | cons d rest ih => exact congrArg _ (ih _)
  refine ⟨hAct.context, hAct.reply, ?_, hAct.verdict⟩
  simp only [run, hAct.submitted, hAct.context.surroundings.deliveries, h.surroundings.deliveries,
    hDuring]

end Task

namespace ControlThread

variable {τ γ ρ : Type}

/-- The thread with another context. -/
def withContext (c : ControlThread τ γ ρ) (x : γ) : ControlThread τ γ ρ :=
  { c with context := x }

theorem submit_withContext (c : ControlThread τ γ ρ) (x : γ) (task : τ) :
    ((c.withContext x).submit task).2 = (c.submit task).2.withContext x := by
  have hClosed : (c.withContext x).isClosed = c.isClosed := rfl
  rw [submit, submit, hClosed]
  split <;> rfl

theorem complete_withContext (c : ControlThread τ γ ρ) (x : γ) :
    (c.withContext x).complete = c.complete.withContext x := by
  have hQueued (c : ControlThread τ γ ρ) (tasks : List τ) :
      tasks.foldl enqueue (c.withContext x) = (tasks.foldl enqueue c).withContext x := by
    induction tasks generalizing c with
    | nil => rfl
    | cons task rest ih => exact ih (c.enqueue task)
  have hConcluded (c : ControlThread τ γ ρ) (p : Progress τ ρ) :
      (c.withContext x).conclude p = (c.conclude p).withContext x := by
    rw [conclude, conclude]
    split <;> rfl
  obtain ⟨context, queue, busy, condition, held, replies, accepted⟩ := c
  cases busy with
  | none => rfl
  | some p =>
      rw [complete, complete, ← hConcluded, ← hQueued]
      rfl

end ControlThread

namespace System

open ControlThread (withContext)

/-- The system without the remarks on endings in its journal. -/
def unremarked (s : System σ) : System σ :=
  s.withContext s.context.unremarked

/-- Two systems are the same but for remarks on endings. -/
inductive Agrees (s : System σ) : System σ → Prop
  | intro {r : Radio σ} (h : s.context.Agrees r) : Agrees s (s.withContext r)

variable {s₁ s₂ : System σ}

theorem Agrees.unremarked (h : s₁.Agrees s₂) : s₁.unremarked = s₂.unremarked := by
  obtain ⟨h⟩ := h
  exact congrArg s₁.withContext h.unremarked

theorem Agrees.submit (h : s₁.Agrees s₂) (task : Task) :
    Agrees (s₁.submit task).2 (s₂.submit task).2 := by
  obtain ⟨h⟩ := h
  rw [ControlThread.submit_withContext]
  refine .intro ?_
  rw [(s₁.submit_frame task).1]
  exact h

/-- Whether a task is taken does not depend on the context, and what it comes to does not depend on
how subscribers respond. -/
theorem Agrees.execute (h : s₁.Agrees s₂) (lib : Library σ) (first second : Response)
    (operations : List Delivery → Delivery → List Operation) :
    Option.Rel Agrees (s₁.step? (Task.run lib ⟨first, operations⟩))
      (s₂.step? (Task.run lib ⟨second, operations⟩)) := by
  obtain @⟨r, h⟩ := h
  obtain ⟨context, queue, busy, condition, held, replies, accepted⟩ := s₁
  cases condition with
  | halted | faulted | retired => exact .none
  | running =>
      cases busy with
      | some p => exact .none
      | none =>
          cases queue with
          | nil => exact .none
          | cons queued rest =>
              obtain ⟨ticket, task⟩ := queued
              have hRun := Task.run_alike h lib first second operations task
              let begun : System σ :=
                { context := (task.run lib ⟨first, operations⟩ context).context
                  queue := rest
                  busy := some ⟨ticket, (task.run lib ⟨first, operations⟩ context).reply,
                    (task.run lib ⟨first, operations⟩ context).submitted,
                    (task.run lib ⟨first, operations⟩ context).verdict⟩
                  condition := .running
                  held, replies, accepted }
              have hSecond : (withContext ⟨context, (ticket, task) :: rest, none, .running, held,
                    replies, accepted⟩ r).begin? (Task.run lib ⟨second, operations⟩) =
                  some (begun.withContext (task.run lib ⟨second, operations⟩ r).context) := by
                simp only [begun, hRun.reply, hRun.submitted, hRun.verdict]
                rfl
              rw [ControlThread.step?, ControlThread.step?, hSecond]
              refine Option.Rel.some (a := begun.complete) ?_
              rw [ControlThread.complete_withContext]
              refine .intro ?_
              rw [ControlThread.complete_context]
              exact hRun.context

theorem Agrees.work (h : s₁.Agrees s₂) (lib : Library σ) (worker : WorkerId) :
    Option.Rel Agrees (s₁.work? lib worker) (s₂.work? lib worker) := by
  obtain @⟨r, h⟩ := h
  have hStep := Crew.advance?_bisim (Surroundings.agrees_bisimulation lib)
    (Radio.agrees_iff_matches.mp h) worker
  have hContext : (s₁.withContext r).context = r := rfl
  rw [work?, work?, hContext]
  generalize s₁.context.toCrew.advance? lib worker = step₁ at hStep ⊢
  generalize r.toCrew.advance? lib worker = step₂ at hStep ⊢
  cases hStep with
  | none => exact .none
  | @some p q hSame =>
      obtain ⟨report, crew₁⟩ := p
      obtain ⟨_, crew₂⟩ := q
      obtain ⟨rfl, hNext⟩ := hSame
      refine .some ?_
      have hMoved : Agrees { s₁ with context.toCrew := crew₁ }
          { s₁.withContext r with context.toCrew := crew₂ } :=
        .intro (Radio.agrees_iff_matches.mpr hNext)
      cases report with
      | none => exact hMoved
      | some requested => exact hMoved.submit _

theorem Agrees.act (h : s₁.Agrees s₂) (lib : Library σ) (first second : Response)
    (operations : List Delivery → Delivery → List Operation) (action : Action σ) :
    Option.Rel Agrees (s₁.act? lib ⟨first, operations⟩ action)
      (s₂.act? lib ⟨second, operations⟩ action) := by
  cases action with
  | submit task => exact .some (h.submit task)
  | execute => exact h.execute lib first second operations
  | work worker => exact h.work lib worker
  | disturb change =>
      obtain ⟨h⟩ := h
      have hVendor := h.surroundings.vendor
      refine .some (.intro ⟨h.controller, h.workers, ?_, h.surroundings.journal⟩)
      exact congrArg change hVendor

theorem Agrees.replay (h : s₁.Agrees s₂) (lib : Library σ) (first second : Response)
    (operations : List Delivery → Delivery → List Operation) (actions : List (Action σ)) :
    Option.Rel Agrees (replay? lib ⟨first, operations⟩ actions s₁)
      (replay? lib ⟨second, operations⟩ actions s₂) := by
  induction actions generalizing s₁ s₂ with
  | nil => exact .some h
  | cons action rest ih =>
      have hAct := h.act lib first second operations action
      rw [replay?, replay?]
      generalize s₁.act? lib ⟨first, operations⟩ action = next₁ at hAct ⊢
      generalize s₂.act? lib ⟨second, operations⟩ action = next₂ at hAct ⊢
      cases hAct with
      | none => exact .none
      | some hNext => exact ih hNext

theorem map_unremarked {first second : Option (System σ)} (h : Option.Rel Agrees first second) :
    first.map unremarked = second.map unremarked := by
  cases h with
  | none => rfl
  | some h => exact congrArg some h.unremarked

/-- Two systems in which the same happens, and whose subscribers end their handling of what they are
told differently, are the same but for the remarks on that; in particular the same was told and the
same calls were made. Whatever subscribers respond, an event goes to all who are registered at the
time, and they stay registered until they ask to leave, are removed, or their chip is gone. -/
theorem replay_ignoresEndings (lib : Library σ) (first second : Response)
    (operations : List Delivery → Delivery → List Operation) (vendor : σ) (interface : String)
    (actions : List (Action σ)) :
    let after (respond : Response) :=
      replay? lib ⟨respond, operations⟩ actions (initial vendor interface)
    (after first).map unremarked = (after second).map unremarked ∧
    (after first).map (·.context.journal.deliveries) =
      (after second).map (·.context.journal.deliveries) ∧
    (after first).map (·.context.journal.calls) = (after second).map (·.context.journal.calls) ∧
    ∀ d ∈ replayDeeds lib ⟨first, operations⟩ actions (initial vendor interface),
      d.before.controller.Tells d.cause d.told ∧
      (∀ s ∈ d.before.controller.subscribers.members, d.cause ≠ .command (.unsubscribe s) →
        s ∈ d.after.controller.subscribers.members) ∧
      ∀ chip, d.before.controller.chip = some chip →
        (∀ command, d.cause ≠ .command (.stop command)) →
        ∃ chip', d.after.controller.chip = some chip' ∧ ∀ s ∈ chip.subscribers.members,
          (∀ id, d.cause ≠ .command (.onChip id (.unregister s))) →
          (∀ id, d.cause ≠ .command (.onChip id .invalidate)) →
          s ∈ chip'.subscribers.members := by
  intro after
  have hStart : Agrees (initial vendor interface) (initial vendor interface) := .intro (.refl _)
  have hSame : (after first).map unremarked = (after second).map unremarked :=
    map_unremarked (hStart.replay lib first second operations actions)
  -- What is read off the system without remarks is the same for both.
  have hRead {α : Type} (read : System σ → α) (hRead : ∀ s, read s.unremarked = read s) :
      (after first).map read = (after second).map read := by
    have h := congrArg (Option.map read) hSame
    simpa only [Option.map_map, Function.comp_def, hRead] using h
  refine ⟨hSame, hRead _ fun s => Journal.deliveries_unremarked _,
    hRead _ fun s => Journal.calls_unremarked _, fun d hd => ?_⟩
  have obeyed := obeyed_replayDeeds lib ⟨first, operations⟩ actions
    (Controller.sound_initial interface) d hd
  refine ⟨obeyed.tells, fun s hMember hStays => ?_, fun chip hChip hStays =>
    obeyed.chipChange.members hChip obeyed.sound hStays⟩
  rw [obeyed.subscribers]
  exact Radio.member_subscribersAfter hMember hStays

/-- The first of two subscribers panics: that is remarked, and the second is told all the same. -/
example :
    let after := replay? Simulation.library
      { respond := fun _ d => if d.subscriber = ⟨1⟩ then .panicked else .accepted }
      [.submit (.perform [.subscribe ⟨1⟩, .subscribe ⟨2⟩, .stop ⟨3⟩]), .execute]
      (initial { behaviour := {} } "wlan0")
    after.map (·.context.journal.notices) = some [.subscriberPanicked "on_stop"] ∧
      after.map (·.context.journal.deliveries) =
        some [⟨⟨1⟩, .stopped ⟨3⟩⟩, ⟨⟨2⟩, .stopped ⟨3⟩⟩] := by
  decide +kernel

end System

end RadioLifecycle
