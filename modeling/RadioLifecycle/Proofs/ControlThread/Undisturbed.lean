import RadioLifecycle.Proofs.ControlThread.Call

/-!
Calls of a thread that nobody else gets at. What is queued is executed in order, as far as to the
first task that does not let the thread proceed, and what becomes of the context by that has nothing
to do with what is queued behind. So whoever calls is given what the task makes of the context that
is there once everything queued before has been executed.
-/

namespace RadioLifecycle.ControlThread

variable {τ γ ρ : Type} {run : τ → γ → Execution τ γ ρ} {setting : Setting τ γ ρ}
  {b c : ControlThread τ γ ρ} {story : Incidents τ γ ρ} {x : γ} {ticket : Ticket} {task : τ}
  {waiting rest : List (Ticket × τ)}

/-- What queued tasks make of the context, and how the thread stands when they have been executed or
one of them has ended it. -/
def serve (run : τ → γ → Execution τ γ ρ) : List (Ticket × τ) → γ → γ × Condition
  | [], x => (x, .running)
  | (_, task) :: rest, x =>
    let e := run task x
    if e.verdict = .proceed then serve run rest e.context else (e.context, e.verdict.condition)

/-- What the execution of the first queued task comes to. -/
theorem step?_of_queue (run : τ → γ → Execution τ γ ρ) (hRunning : c.condition = .running)
    (hIdle : c.busy = none) (hQueue : c.queue = (ticket, task) :: rest) :
    let job : Job τ γ ρ := ⟨ticket, task, c.context, run task c.context⟩
    ∃ d, c.step? run = some d ∧ d.context = job.execution.context ∧
      d.condition = job.execution.verdict.condition ∧ d.busy = none ∧
      d.replies = c.replies ++ job.progress.answer?.toList ∧
      (job.execution.verdict = .proceed → ∃ more, d.queue = rest ++ more) := by
  intro job
  let p : Progress τ ρ :=
    ⟨ticket, job.execution.reply, job.execution.submitted, job.execution.verdict⟩
  let begun : ControlThread τ γ ρ :=
    { c with context := job.execution.context, queue := rest, busy := some p }
  have hBegin : c.begin? run = some begun := by
    obtain ⟨context, queue, busy, condition, held, replies, accepted⟩ := c
    cases hRunning
    cases hIdle
    cases hQueue
    rfl
  let issued := p.remaining.foldl enqueue { begun with busy := none }
  have hComplete : begun.complete = issued.conclude p := rfl
  obtain ⟨hContext, hCondition⟩ := foldl_enqueue_frame { begun with busy := none } p.remaining
  obtain ⟨⟨more, hMore⟩, _, hReplies⟩ := foldl_enqueue_queue { begun with busy := none } p.remaining
  refine ⟨begun.complete, ?_, ?_, ?_, complete_busy begun, ?_, ?_⟩
  · rw [step?, hBegin]
    rfl
  · exact complete_context begun
  · rw [hComplete, conclude_condition p (hCondition.trans hRunning)]
  · rw [hComplete, conclude_replies, hReplies]
    rfl
  · intro hProceed
    refine ⟨more, ?_⟩
    rw [hComplete, conclude_queue, if_pos hProceed]
    exact hMore

theorem advance_of_step? {d : ControlThread τ γ ρ} (h : c.step? run = some d) (limit : Nat) :
    advance run (limit + 1) c = advance run limit d := by
  rw [advance, h]

theorem advance_of_closed (run : τ → γ → Execution τ γ ρ) (hClosed : c.isClosed = true)
    (limit : Nat) : advance run limit c = c := by
  cases limit with
  | zero => rfl
  | succ limit =>
      have stalled : ¬c.GoesOn := fun hGoesOn => of_decide_eq_true hClosed hGoesOn.1
      rw [advance, step?, begin?_of_not_goesOn stalled, Option.map_none]

theorem advance_add (run : τ → γ → Execution τ γ ρ) (first second : Nat)
    (c : ControlThread τ γ ρ) :
    advance run (first + second) c = advance run second (advance run first c) := by
  induction first generalizing c with
  | zero =>
      rw [Nat.zero_add]
      rfl
  | succ first ih =>
      rw [Nat.succ_add, advance, advance]
      cases hStep : c.step? run with
      | some d => exact ih d
      | none =>
          cases second with
          | zero => rfl
          | succ second => rw [advance, hStep]

/-- The first tasks of the queue are served, whatever is queued behind them, and only they are
answered meanwhile. -/
theorem advance_serve (run : τ → γ → Execution τ γ ρ) (hRunning : c.condition = .running)
    (hIdle : c.busy = none) (hQueue : c.queue = waiting ++ rest) :
    let d := advance run waiting.length c
    (d.context, d.condition) = serve run waiting c.context ∧ d.busy = none ∧
      (d.condition = .running → ∃ more, d.queue = rest ++ more) ∧
      ∃ answers, d.replies = c.replies ++ answers ∧
        ∀ answer ∈ answers, answer.1 ∈ waiting.map (·.1) := by
  induction waiting generalizing c rest with
  | nil =>
      refine ⟨congrArg (c.context, ·) hRunning, hIdle, fun _ => ⟨[], ?_⟩, [], ?_, by simp⟩
      · rw [List.append_nil]
        exact hQueue
      · exact (List.append_nil _).symm
  | cons entry waiting ih =>
      obtain ⟨ticket, task⟩ := entry
      have hFirst : c.queue = (ticket, task) :: (waiting ++ rest) := hQueue
      obtain ⟨d, hStep, hContext, hCondition, hFree, hReplies, hMore⟩ :=
        step?_of_queue run hRunning hIdle hFirst
      let given := (Job.progress ⟨ticket, task, c.context, run task c.context⟩).answer?.toList
      have hAnswer : ∀ answer ∈ given, answer.1 = ticket := by
        intro answer hAnswer
        exact (congrArg Prod.fst
          (Progress.answer?_eq_some_iff.mp (Option.mem_toList.mp hAnswer)).1).symm
      rw [List.length_cons, advance_of_step? hStep]
      by_cases hProceed : (run task c.context).verdict = .proceed
      · obtain ⟨more, hBehind⟩ := hMore hProceed
        rw [List.append_assoc] at hBehind
        have hGoesOn : d.condition = .running := by
          rw [hCondition, hProceed]
          rfl
        obtain ⟨hServed, hLast, hRest, answers, hAnswers, hAmong⟩ := ih hGoesOn hFree hBehind
        refine ⟨?_, hLast, ?_, given ++ answers, ?_, ?_⟩
        · rw [serve, if_pos hProceed, hServed, hContext]
        · intro hStill
          obtain ⟨submitted, hSubmitted⟩ := hRest hStill
          exact ⟨more ++ submitted, by rw [hSubmitted, List.append_assoc]⟩
        · rw [hAnswers, hReplies, List.append_assoc]
        · intro answer hMember
          rcases List.mem_append.mp hMember with hFirst | hLater
          · exact List.mem_cons.mpr (.inl (hAnswer answer hFirst))
          · exact List.mem_cons.mpr (.inr (hAmong answer hLater))
      · have hEnded : d.condition ≠ .running := by
          rw [hCondition]
          exact fun hStill => hProceed ((Verdict.running_iff _).mp hStill)
        rw [advance_of_closed run (decide_eq_true hEnded)]
        refine ⟨?_, hFree, fun hStill => absurd hStill hEnded, given, hReplies, ?_⟩
        · rw [serve, if_neg hProceed, hContext, hCondition]
        · intro answer hMember
          exact List.mem_cons.mpr (.inl (hAnswer answer hMember))

/-- A reply that comes behind others is that of its ticket, if none of them is. -/
theorem outcome?_of_last {given : List (Ticket × ρ)} {reply : ρ}
    (hReplies : c.replies = given ++ [(ticket, reply)])
    (hOthers : ∀ answer ∈ given, answer.1 ≠ ticket) : c.outcome? ticket = some (.ok reply) := by
  have hNone : given.find? (·.1 = ticket) = none := by
    rw [List.find?_eq_none]
    intro answer hAnswer hSame
    exact hOthers answer hAnswer (of_decide_eq_true hSame)
  have hFound : c.replies.find? (·.1 = ticket) = some (ticket, reply) := by
    rw [hReplies, List.find?_append, hNone]
    simp
  rw [outcome?, hFound]

theorem outcome?_of_none (hClosed : c.isClosed = true)
    (hNone : ∀ answer ∈ c.replies, answer.1 ≠ ticket) :
    c.outcome? ticket = some (.error .controlThreadGone) := by
  have hFound : c.replies.find? (·.1 = ticket) = none := by
    rw [List.find?_eq_none]
    intro answer hAnswer hSame
    exact hNone answer hAnswer (of_decide_eq_true hSame)
  rw [outcome?, hFound]
  exact if_pos hClosed

/-- The next ticket that the thread gives out is not in use. -/
theorem Account.next_unused (h : Account setting x story b) (hRunning : b.condition = .running) :
    (∀ ticket ∈ b.queue.map (·.1), ticket ≠ ⟨b.accepted⟩) ∧
      ∀ answer ∈ b.replies, answer.1 ≠ ⟨b.accepted⟩ := by
  constructor
  · rintro _ hQueued rfl
    obtain ⟨entry, hEntry, hTicket⟩ := List.mem_map.mp hQueued
    have hAccepted : entry ∈ story.accepted := by
      rw [h.order hRunning]
      exact List.mem_append_right _ hEntry
    have hLess := h.number_lt hAccepted
    rw [hTicket] at hLess
    exact Nat.lt_irrefl _ hLess
  · rintro ⟨_, reply⟩ hReply rfl
    exact h.not_answered_yet reply hReply

/-- What is queued is executed the same with one more task behind it, and by then that task is next
and has no reply. -/
theorem Account.advance_enqueue (h : Account setting x story b) (hRunning : b.condition = .running)
    (hIdle : b.busy = none) (run : τ → γ → Execution τ γ ρ) (task : τ) :
    let caughtUp := b.catchUp run
    let served := advance run b.queue.length (b.enqueue task)
    served.context = caughtUp.context ∧ served.condition = caughtUp.condition ∧
      served.busy = none ∧
      (served.condition = .running → ∃ more, served.queue = (⟨b.accepted⟩, task) :: more) ∧
      ∀ answer ∈ served.replies, answer.1 ≠ ⟨b.accepted⟩ := by
  obtain ⟨hQueued, hGiven⟩ := h.next_unused hRunning
  obtain ⟨hServed, _⟩ := advance_serve run hRunning hIdle (List.append_nil b.queue).symm
  obtain ⟨hAsked, hFree, hNext, answers, hAnswers, hAmong⟩ :=
    advance_serve (c := b.enqueue task) run hRunning hIdle rfl
  obtain ⟨hContext, hCondition⟩ := Prod.mk.inj (hAsked.trans hServed.symm)
  refine ⟨hContext, hCondition, hFree, hNext, ?_⟩
  intro answer hAnswer
  rw [hAnswers] at hAnswer
  rcases List.mem_append.mp hAnswer with hOld | hNew
  · exact hGiven answer hOld
  · exact hQueued _ (hAmong answer hNew)

/-- A call executes everything queued and then its own task, and looks what has become of that. -/
theorem call_of_running (run : τ → γ → Execution τ γ ρ) (hRunning : b.condition = .running)
    (task : τ) :
    let last := advance run 1 (advance run b.queue.length (b.enqueue task))
    b.call run .elsewhere task =
      ((last.outcome? ⟨b.accepted⟩).getD (.error .controlThreadGone), last) := by
  intro last
  have hCatchUp : (b.enqueue task).catchUp run = last := by
    have hLength : (b.enqueue task).queue.length = b.queue.length + 1 := by simp [enqueue]
    rw [catchUp, hLength, advance_add]
  simp only [call, request, submit_of_running hRunning]
  rw [← hCatchUp]

/-- A call of a thread that is not busy finds the context that is there when what is queued has been
executed. It is answered, unless the thread has ended by then. -/
theorem call_elsewhere (h : Account setting x story b) (hIdle : b.busy = none)
    (run : τ → γ → Execution τ γ ρ) (task : τ) :
    let caughtUp := b.catchUp run
    let execution := run task caughtUp.context
    let returned := b.call run .elsewhere task
    (caughtUp.isClosed = true →
      returned.1 = .error .controlThreadGone ∧ returned.2.context = caughtUp.context) ∧
    (caughtUp.isClosed = false → (∀ message, execution.verdict ≠ .fault message) →
      returned.1 = .ok execution.reply ∧ returned.2.context = execution.context) := by
  intro caughtUp execution returned
  by_cases hRunning : b.condition = .running
  case neg =>
    have hClosed : b.isClosed = true := decide_eq_true hRunning
    have hSame : caughtUp = b := advance_of_closed run hClosed _
    have hReturned : returned = (.error .controlThreadGone, b) := call_of_closed run hClosed task
    rw [hSame, hReturned]
    exact ⟨fun _ => ⟨rfl, rfl⟩, fun hOpen => by simp [hClosed] at hOpen⟩
  case pos =>
    let served := advance run b.queue.length (b.enqueue task)
    obtain ⟨hContext, hCondition, hFree, hNext, hOthers⟩ :=
      h.advance_enqueue hRunning hIdle run task
    let last := advance run 1 served
    have hReturned :
        returned = ((last.outcome? ⟨b.accepted⟩).getD (.error .controlThreadGone), last) :=
      call_of_running run hRunning task
    rw [hReturned]
    constructor
    · intro hClosed
      have hEnded : served.isClosed = true := by
        rw [isClosed, hCondition]
        exact hClosed
      have hLast : last = served := advance_of_closed run hEnded 1
      rw [hLast, outcome?_of_none hEnded hOthers]
      exact ⟨rfl, hContext⟩
    · intro hOpen hSound
      have hStill : served.condition = .running :=
        hCondition.trans (not_not.mp (of_decide_eq_false hOpen))
      obtain ⟨more, hBehind⟩ := hNext hStill
      obtain ⟨d, hStep, hAfter, _, _, hReplies, _⟩ := step?_of_queue run hStill hFree hBehind
      have hLast : last = d := advance_of_step? hStep 0
      have hSame : run task served.context = execution := congrArg (run task) hContext
      have hAnswer : (Job.progress ⟨⟨b.accepted⟩, task, served.context,
          run task served.context⟩).answer? = some (⟨b.accepted⟩, execution.reply) := by
        rw [Progress.answer?_eq_some_iff, Job.progress, hSame]
        exact ⟨rfl, hSound⟩
      rw [hAnswer] at hReplies
      rw [hLast, outcome?_of_last hReplies hOthers, hAfter]
      exact ⟨rfl, congrArg Execution.context hSame⟩

end RadioLifecycle.ControlThread
