import Mathlib.Data.List.Basic
import RadioLifecycle.ControlThread

/-!
What the moves of a control thread come to. A thread goes on as long as it runs and the task under
execution does not end it. Once that is no longer so, nothing brings it back: no further task is
taken from the queue, and when the thread has ended nothing is accepted any more.
-/

namespace RadioLifecycle.ControlThread

variable {τ γ ρ : Type} {c c' : ControlThread τ γ ρ}

/-- The thread runs, and it will still run after the task under execution. -/
def GoesOn (c : ControlThread τ γ ρ) : Prop :=
  c.condition = .running ∧ ∀ p ∈ c.busy, p.verdict = .proceed

theorem begin?_eq_some {run : τ → γ → Execution τ γ ρ} (h : c.begin? run = some c') :
    c.condition = .running ∧ c.busy = none ∧ ∃ ticket task rest,
      c.queue = (ticket, task) :: rest ∧
      c' = { c with
        context := (run task c.context).context
        queue := rest
        busy := some ⟨ticket, (run task c.context).reply, (run task c.context).submitted,
          (run task c.context).verdict⟩ } := by
  rw [begin?] at h
  split at h
  · next ticket task rest hCondition hBusy hQueue =>
      exact ⟨hCondition, hBusy, ticket, task, rest, hQueue, (Option.some.inj h).symm⟩
  · cases h

theorem issue?_eq_some (h : c.issue? = some c') :
    ∃ ticket reply task rest verdict, c.busy = some ⟨ticket, reply, task :: rest, verdict⟩ ∧
      c' = { c with busy := some ⟨ticket, reply, rest, verdict⟩ }.enqueue task := by
  rw [issue?] at h
  split at h
  · next ticket reply task rest verdict hBusy =>
      exact ⟨ticket, reply, task, rest, verdict, hBusy, (Option.some.inj h).symm⟩
  · cases h
  · cases h

theorem finish?_eq_some (h : c.finish? = some c') :
    ∃ p, c.busy = some p ∧ p.remaining = [] ∧ c' = { c with busy := none }.conclude p := by
  rw [finish?] at h
  split at h
  · next hBusy => exact ⟨_, hBusy, rfl, (Option.some.inj h).symm⟩
  · cases h
  · cases h

theorem retire?_eq_some (h : c.retire? = some c') :
    c.busy = none ∧ c.queue = [] ∧ c' = c.close .retired := by
  rw [retire?] at h
  split at h
  · next hCondition hBusy hQueue =>
      cases hHeld : c.held with
      | true => simp [hHeld] at h
      | false =>
          simp only [hHeld, Bool.false_eq_true, ↓reduceIte, Option.some.injEq] at h
          exact ⟨hBusy, hQueue, h.symm⟩
  · cases h

/-- A thread that runs accepts every submission. -/
theorem submit_of_running (h : c.condition = .running) (task : τ) :
    c.submit task = (.ok ⟨c.accepted⟩, c.enqueue task) := by
  simp [submit, isClosed, h]

/-- A thread that has ended refuses every submission. -/
theorem submit_of_closed (h : c.isClosed = true) (task : τ) :
    c.submit task = (.error .controlThreadGone, c) := by
  rw [submit, if_pos h]

/-- A submission leaves everything but the queue as it is. -/
theorem submit_frame (c : ControlThread τ γ ρ) (task : τ) :
    (c.submit task).2.context = c.context ∧ (c.submit task).2.busy = c.busy ∧
      (c.submit task).2.condition = c.condition := by
  rw [submit]
  split
  · exact ⟨rfl, rfl, rfl⟩
  · exact ⟨rfl, rfl, rfl⟩

/-- A submission answers nobody. -/
theorem submit_replies (c : ControlThread τ γ ρ) (task : τ) :
    (c.submit task).2.replies = c.replies := by
  rw [submit]
  split <;> rfl

/-- The end of a task does not touch the context. -/
@[simp]
theorem conclude_context (c : ControlThread τ γ ρ) (p : Progress τ ρ) :
    (c.conclude p).context = c.context := by
  rw [conclude]
  split <;> rfl

/-- The end of a task answers nobody but whoever waits for it. -/
theorem mem_replies_of_conclude
    {p : Progress τ ρ} {entry : Ticket × ρ} (h : entry ∈ (c.conclude p).replies) :
    entry ∈ c.replies ∨ entry = (p.ticket, p.reply) := by
  rw [conclude] at h
  split at h
  · simpa [answer] using h
  · simpa [answer, close] using h
  · exact .inl h

/-- Whoever is given an answer is given a reply, or the thread has ended. -/
theorem outcome?_eq_some {ticket : Ticket}
    {outcome : Except ServiceError ρ} (h : c.outcome? ticket = some outcome) :
    (∃ given reply, outcome = .ok reply ∧ (given, reply) ∈ c.replies) ∨ ∃ e, outcome = .error e := by
  rw [outcome?] at h
  split at h
  · next given reply hFound =>
      exact .inl ⟨given, reply, (Option.some.inj h).symm, List.mem_of_find?_eq_some hFound⟩
  · split at h
    · exact .inr ⟨_, (Option.some.inj h).symm⟩
    · cases h

/-- A thread that does not go on takes no task from its queue. -/
theorem begin?_of_not_goesOn (stalled : ¬c.GoesOn) (run : τ → γ → Execution τ γ ρ) :
    c.begin? run = none := by
  cases hBegin : c.begin? run with
  | none => rfl
  | some c' =>
      obtain ⟨hRunning, hIdle, _⟩ := begin?_eq_some hBegin
      exact absurd ⟨hRunning, by simp [hIdle]⟩ stalled

/-- A thread that has ended stays so, and one whose task ends it ends with that task. -/
theorem conclude_of_not_goesOn {p : Progress τ ρ} (stalled : ¬c.GoesOn) (hBusy : c.busy = some p) :
    ¬({ c with busy := none }.conclude p).GoesOn := by
  intro hGoesOn
  apply stalled
  have hRunning := hGoesOn.1
  rw [conclude] at hRunning
  cases hVerdict : p.verdict with
  | proceed =>
      simp only [hVerdict] at hRunning
      refine ⟨hRunning, ?_⟩
      simp [hBusy, hVerdict]
  | halt => simp [hVerdict, close] at hRunning
  | fault message => simp [hVerdict, close] at hRunning

/-- Tasks that are put into the queue leave everything else as it is. -/
theorem foldl_enqueue_frame (c : ControlThread τ γ ρ) (tasks : List τ) :
    (tasks.foldl enqueue c).context = c.context ∧
      (tasks.foldl enqueue c).condition = c.condition := by
  induction tasks generalizing c with
  | nil => exact ⟨rfl, rfl⟩
  | cons task rest ih => exact ih (c.enqueue task)

@[simp]
theorem complete_context (c : ControlThread τ γ ρ) : c.complete.context = c.context := by
  rw [complete]
  split
  · rfl
  · rw [conclude_context, (foldl_enqueue_frame _ _).1]

/-- A thread whose task ends it has ended once that task is complete. -/
theorem isClosed_complete (stalled : ¬c.GoesOn) : c.complete.isClosed = true := by
  obtain ⟨context, queue, busy, condition, held, replies, accepted⟩ := c
  cases busy with
  | none =>
      have hCondition : condition ≠ .running := fun hRunning => stalled ⟨hRunning, by simp⟩
      exact decide_eq_true hCondition
  | some p =>
      obtain ⟨ticket, reply, remaining, verdict⟩ := p
      cases verdict with
      | proceed =>
          have hEnded : condition ≠ .running := fun hRunning => stalled ⟨hRunning, by simp⟩
          simpa [complete, conclude, answer, isClosed, (foldl_enqueue_frame _ _).2] using hEnded
      | halt => simp [complete, conclude, answer, close, isClosed]
      | fault message => simp [complete, conclude, close, isClosed]

end RadioLifecycle.ControlThread
