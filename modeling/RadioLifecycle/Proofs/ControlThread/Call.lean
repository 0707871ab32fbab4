import RadioLifecycle.Proofs.ControlThread.Account

/-!
What becomes of a task whose reply is waited for, whatever else happens in the meantime. The caller
is told that the call is reentrant exactly on the control thread itself. Anywhere else it is given
the reply exactly if the task was executed to completion, which then happened once, behind all tasks
accepted before; and it is told that the thread is gone exactly if that never happened. Left to
itself, the thread gives one answer or the other.
-/

namespace RadioLifecycle

variable {τ γ ρ : Type}

/-- The tickets that were answered are among those that are done, in order. -/
theorem Progress.answers_sublist (done : List (Progress τ ρ)) :
    ((done.filterMap Progress.answer?).map (·.1)).Sublist (done.map (·.ticket)) := by
  induction done with
  | nil => exact List.Sublist.refl _
  | cons p rest ih =>
      cases hAnswer : p.answer? with
      | none =>
          rw [List.filterMap_cons_none hAnswer]
          exact ih.cons p.ticket
      | some answer =>
          rw [List.filterMap_cons_some hAnswer, ← (Progress.answer?_eq_some_iff.mp hAnswer).1]
          exact ih.cons_cons p.ticket

/-- The replies under a ticket, one for each time that its task was executed to completion. -/
def Incidents.completions (story : Incidents τ γ ρ) (ticket : Ticket) : List ρ :=
  ((story.finished.filterMap Progress.answer?).filter (·.1 = ticket)).map (·.2)

namespace ControlThread

/-- A call ends: the caller is told this, the thread stands like that, and this happened meanwhile.
Whoever waits learns the outcome at any time after there is one. -/
inductive Returns (setting : Setting τ γ ρ) (b : ControlThread τ γ ρ) (origin : Origin) (task : τ) :
    Incidents τ γ ρ → Except ServiceError ρ → ControlThread τ γ ρ → Prop
  | refused {e : ServiceError} {c : ControlThread τ γ ρ}
      (h : b.request origin task = (.error e, c)) : Returns setting b origin task [] (.error e) c
  | answered {ticket : Ticket} {d c : ControlThread τ γ ρ} {later : Incidents τ γ ρ}
      {result : Except ServiceError ρ} (h : b.request origin task = (.ok ticket, d))
      (course : Course setting d later c) (told : c.outcome? ticket = some result) :
      Returns setting b origin task (.accepted (ticket, task) :: later) result c

/-- A task was executed to completion, once and with this reply. It found the context that the tasks
accepted before it had left behind, and none accepted later had been begun by then. -/
structure Completed (setting : Setting τ γ ρ) (x : γ) (ahead : List (Ticket × τ)) (ticket : Ticket)
    (task : τ) (story : Incidents τ γ ρ) (reply : ρ) : Prop where
  once : story.completions ticket = [reply]
  executed : ∃ before job after run, story.begun = before ++ job :: after ∧
    job.entry = (ticket, task) ∧ before.map Job.entry = ahead ∧
    Leads setting x before job.context ∧ setting.runs run ∧
    job.execution = run task job.context ∧ job.execution.reply = reply ∧
    ∀ message, job.execution.verdict ≠ .fault message

/-- Why an accepted task is never executed to completion. -/
inductive Lost (ahead : List (Ticket × τ)) (ticket : Ticket) (story : Incidents τ γ ρ) : Prop
  /-- One accepted before it ended the thread. -/
  | overtaken (job : Job τ γ ρ) (begun : job ∈ story.begun) (ahead : job.entry ∈ ahead)
      (stops : job.execution.verdict ≠ .proceed) (never : ∀ job ∈ story.begun, job.ticket ≠ ticket)
  /-- It was begun and broke down. -/
  | brokeDown (job : Job τ γ ρ) (message : String) (begun : job ∈ story.begun)
      (own : job.ticket = ticket) (verdict : job.execution.verdict = .fault message)

variable {setting : Setting τ γ ρ} {b c d : ControlThread τ γ ρ} {story later : Incidents τ γ ρ}
  {x : γ} {ahead behind : List (Ticket × τ)} {ticket : Ticket} {task : τ} {reply : ρ}
  {origin : Origin} {run : τ → γ → Execution τ γ ρ}

theorem Account.tickets_isPrefix (h : Account setting x story c) :
    story.finished.map (·.ticket) <+: story.accepted.map (·.1) := by
  have hBegun : story.begun.map (·.ticket) <+: story.accepted.map (·.1) := by
    have hEntries := h.isPrefix.map Prod.fst
    rwa [List.map_map] at hEntries
  have hDone : story.finished.map (·.ticket) <+: story.begun.map (·.ticket) := by
    have hProgress : story.finished <+: story.begun.map Job.progress := by
      rw [h.executed]
      exact List.prefix_append ..
    have hTickets := hProgress.map Progress.ticket
    rwa [List.map_map] at hTickets
  exact hDone.trans hBegun

/-- Nobody is answered twice. -/
theorem Account.nodup_replies (h : Account setting x story c) : (c.replies.map (·.1)).Nodup := by
  rw [h.replies]
  apply (Progress.answers_sublist _).nodup
  exact h.tickets_isPrefix.sublist.nodup h.nodup_accepted

/-- Only accepted tasks are answered. -/
theorem Account.number_lt_of_reply (h : Account setting x story c)
    (hReply : (ticket, reply) ∈ c.replies) : ticket.number < c.accepted := by
  rw [h.replies] at hReply
  have hDone : ticket ∈ story.finished.map (·.ticket) :=
    (Progress.answers_sublist _).subset (List.mem_map_of_mem hReply)
  obtain ⟨entry, hAccepted, rfl⟩ := List.mem_map.mp (h.tickets_isPrefix.subset hDone)
  exact h.number_lt hAccepted

theorem Account.completions_eq (h : Account setting x story c) (ticket : Ticket) :
    story.completions ticket = (c.replies.filter (·.1 = ticket)).map (·.2) := by
  rw [h.replies]
  rfl

theorem Account.completions_eq_nil (h : Account setting x story c)
    (hNone : ∀ reply, (ticket, reply) ∉ c.replies) : story.completions ticket = [] := by
  rw [h.completions_eq, List.map_eq_nil_iff, List.filter_eq_nil_iff]
  rintro ⟨other, reply⟩ hReply hSame
  obtain rfl : other = ticket := of_decide_eq_true hSame
  exact hNone reply hReply

theorem Account.completions_eq_singleton (h : Account setting x story c)
    (hReply : (ticket, reply) ∈ c.replies) : story.completions ticket = [reply] := by
  have hNodup := h.nodup_replies
  rw [h.completions_eq]
  obtain ⟨before, after, hReplies⟩ := List.append_of_mem hReply
  rw [hReplies, List.map_append, List.map_cons, List.nodup_middle, List.nodup_cons,
    ← List.map_append] at hNodup
  have hOthers : (before ++ after).filter (·.1 = ticket) = [] := by
    rw [List.filter_eq_nil_iff]
    intro answer hAnswer hSame
    apply hNodup.1
    exact List.mem_map.mpr ⟨answer, hAnswer, of_decide_eq_true hSame⟩
  rw [List.filter_append, List.append_eq_nil_iff] at hOthers
  rw [hReplies, List.filter_append, hOthers.1, List.filter_cons_of_pos (by simp), hOthers.2]
  rfl

/-- Who waits under a ticket is told a reply exactly if there is one. -/
theorem Account.outcome?_ok_iff (h : Account setting x story c) :
    c.outcome? ticket = some (.ok reply) ↔ (ticket, reply) ∈ c.replies := by
  rw [outcome?]
  cases hFound : c.replies.find? (·.1 = ticket) with
  | none =>
      have hNone := List.find?_eq_none.mp hFound
      constructor
      · intro hOutcome
        simp only at hOutcome
        split at hOutcome <;> cases hOutcome
      · intro hReply
        exact absurd (decide_eq_true rfl) (hNone _ hReply)
  | some answer =>
      obtain ⟨given, first⟩ := answer
      have hGiven := List.find?_some hFound
      obtain rfl : given = ticket := of_decide_eq_true hGiven
      have hFirst : (given, first) ∈ c.replies := List.mem_of_find?_eq_some hFound
      constructor
      · intro hOutcome
        cases hOutcome
        exact hFirst
      · intro hReply
        have hOnce := (h.completions_eq_singleton hFirst).symm.trans
          (h.completions_eq_singleton hReply)
        rw [(List.cons.inj hOnce).1]

/-- Who waits under a ticket is told an error exactly if the thread ended without a reply. -/
theorem outcome?_error_iff (c : ControlThread τ γ ρ) (ticket : Ticket) (e : ServiceError) :
    c.outcome? ticket = some (.error e) ↔
      e = .controlThreadGone ∧ c.isClosed = true ∧ ∀ reply, (ticket, reply) ∉ c.replies := by
  rw [outcome?]
  cases hFound : c.replies.find? (·.1 = ticket) with
  | none =>
      have hNone : ∀ reply, (ticket, reply) ∉ c.replies := fun reply hReply =>
        List.find?_eq_none.mp hFound _ hReply (decide_eq_true rfl)
      cases hClosed : c.isClosed with
      | false => simp
      | true =>
          simp only [↓reduceIte, Option.some.injEq, Except.error.injEq, true_and]
          exact ⟨fun hError => ⟨hError.symm, hNone⟩, fun hGone => hGone.1.symm⟩
  | some answer =>
      obtain ⟨given, first⟩ := answer
      have hGiven := List.find?_some hFound
      obtain rfl : given = ticket := of_decide_eq_true hGiven
      constructor
      · intro hOutcome
        cases hOutcome
      · intro hGone
        exact absurd (List.mem_of_find?_eq_some hFound) (hGone.2.2 first)

/-- An answered task was executed to completion, at its place. -/
theorem Account.completed (h : Account setting x story c)
    (hAccepted : story.accepted = ahead ++ (ticket, task) :: behind)
    (hReply : (ticket, reply) ∈ c.replies) :
    Completed setting x ahead ticket task story reply := by
  refine ⟨h.completions_eq_singleton hReply, ?_⟩
  rw [h.replies, List.mem_filterMap] at hReply
  obtain ⟨p, hFinished, hAnswer⟩ := hReply
  obtain ⟨job, hJob, rfl⟩ := h.begun_of_finished hFinished
  obtain ⟨hSame, hNoFault⟩ := Progress.answer?_eq_some_iff.mp hAnswer
  obtain ⟨hTicket, hReply⟩ := Prod.mk.inj hSame
  obtain ⟨before, after, hBegun⟩ := List.append_of_mem hJob
  obtain ⟨hBefore, hEntry⟩ := h.place hAccepted hBegun hTicket
  have hLeads := h.leads
  rw [hBegun] at hLeads
  obtain ⟨hContext, run, lawful, hExecution⟩ := hLeads.before
  have hTask : job.task = task := congrArg Prod.snd hEntry
  rw [hTask] at hExecution
  exact ⟨before, job, after, run, hBegun, hEntry, hBefore, hContext, lawful, hExecution, hReply,
    hNoFault⟩

/-- A job whose thread is done with everything was answered, or it broke down. -/
theorem Account.answered_or_fault (h : Account setting x story c) (hIdle : c.busy = none)
    {job : Job τ γ ρ} (hBegun : job ∈ story.begun) :
    (job.ticket, job.execution.reply) ∈ c.replies ∨
      ∃ message, job.execution.verdict = .fault message := by
  have hFinished : job.progress ∈ story.finished := by
    rw [h.finished_of_idle hIdle]
    exact List.mem_map_of_mem hBegun
  by_cases hFault : ∃ message, job.execution.verdict = .fault message
  · exact .inr hFault
  · left
    rw [h.replies, List.mem_filterMap]
    refine ⟨job.progress, hFinished, Progress.answer?_eq_some_iff.mpr ⟨rfl, ?_⟩⟩
    intro message hVerdict
    exact hFault ⟨message, hVerdict⟩

/-- An accepted task that a thread left unanswered when it ended was overtaken or broke down. -/
theorem Account.lost (h : Account setting x story c)
    (hAccepted : story.accepted = ahead ++ (ticket, task) :: behind)
    (hClosed : c.isClosed = true) (hNone : ∀ reply, (ticket, reply) ∉ c.replies) :
    Lost ahead ticket story := by
  by_cases hBegun : ∃ job ∈ story.begun, job.ticket = ticket
  · obtain ⟨job, hJob, rfl⟩ := hBegun
    rcases h.answered_or_fault (h.idle_of_closed hClosed) hJob with hReply | ⟨message, hFault⟩
    · exact absurd hReply (hNone _)
    · exact .brokeDown job message hJob rfl hFault
  · have hNever : ∀ job ∈ story.begun, job.ticket ≠ ticket := by
      intro job hJob hTicket
      exact hBegun ⟨job, hJob, hTicket⟩
    have hNotBegun : (ticket, task) ∉ story.begun.map Job.entry := by
      intro hEntry
      obtain ⟨job, hJob, hSame⟩ := List.mem_map.mp hEntry
      exact hNever job hJob (congrArg Prod.fst hSame)
    rcases h.last_of_closed hClosed with ⟨before, last, hLast, _, hStops, _⟩ | ⟨_, hAll, _⟩
    · have hMember : last ∈ story.begun := by
        rw [hLast]
        exact List.mem_append_right _ (List.mem_singleton_self last)
      -- What was begun comes first among what was accepted, and does not reach this task.
      have hAhead : story.begun.map Job.entry <+: ahead := by
        have hTo : ahead ++ [(ticket, task)] <+: story.accepted :=
          ⟨behind, by rw [hAccepted, List.append_assoc]; rfl⟩
        rcases List.prefix_or_prefix_of_prefix h.isPrefix hTo with hShort | hLong
        · rcases List.prefix_concat_iff.mp hShort with hWhole | hWithin
          · rw [hWhole] at hNotBegun
            exact absurd (List.mem_append_right _ (List.mem_singleton_self _)) hNotBegun
          · exact hWithin
        · have hReached := hLong.subset (List.mem_append_right _ (List.mem_singleton_self _))
          exact absurd hReached hNotBegun
      exact .overtaken last hMember (hAhead.subset (List.mem_map_of_mem hMember)) hStops hNever
    · rw [← hAll, hAccepted] at hNotBegun
      exact absurd (List.mem_append_right _ List.mem_cons_self) hNotBegun

/-! A thread that is left to itself. -/

/-- Replies stay where they are. -/
theorem Course.replies_isPrefix (h : Account setting x story c) (course : Course setting c later d) :
    c.replies <+: d.replies := by
  rw [h.replies, (h.course course).replies, Incidents.finished_append, List.filterMap_append]
  exact List.prefix_append ..

/-- What waits among the first tasks of the queue is answered when as many have been executed,
unless the thread ends before that. -/
theorem answered_of_mem_queue (h : Account setting x story c) (lawful : setting.runs run)
    (hIdle : c.busy = none) {limit : Nat} (hWaits : ticket ∈ (c.queue.take limit).map (·.1)) :
    (advance run limit c).isClosed = true ∨ ticket ∈ (advance run limit c).replies.map (·.1) := by
  induction limit generalizing c story with
  | zero => simp at hWaits
  | succ limit ih =>
      rw [advance]
      cases hStep : c.step? run with
      | none =>
          left
          show c.isClosed = true
          apply decide_eq_true
          intro hRunning
          rw [step?, Option.map_eq_none_iff, begin?, hRunning, hIdle] at hStep
          cases hQueue : c.queue with
          | nil => simp [hQueue] at hWaits
          | cons entry rest => simp [hQueue] at hStep
      | some d =>
          obtain ⟨first, hCourse⟩ := course_of_step? lawful hStep
          have hLater := h.course hCourse
          obtain ⟨more, hRest⟩ := course_advance lawful limit d
          obtain ⟨hFree, hEnded | ⟨given, task, rest, reply, behind, hQueue, hNext, hReplies⟩⟩ :=
            step?_eq_some hStep
          · exact .inl (hRest.of_closed hEnded hFree).2.1
          · rw [hQueue, List.take_succ_cons, List.map_cons] at hWaits
            rcases List.mem_cons.mp hWaits with rfl | hBehind
            · right
              have hAnswered : (ticket, reply) ∈ d.replies := by
                rw [hReplies]
                exact List.mem_append_right _ (List.mem_singleton_self _)
              exact List.mem_map_of_mem ((hRest.replies_isPrefix hLater).subset hAnswered)
            · apply ih hLater hFree
              rw [hNext, List.take_append, List.map_append]
              exact List.mem_append_left _ hBehind

/-- A task that was accepted is waiting, under execution or done while the thread runs. -/
theorem Account.waits_or_answered (h : Account setting x story c) (hIdle : c.busy = none)
    (hRunning : c.condition = .running) {entry : Ticket × τ} (hAccepted : entry ∈ story.accepted) :
    entry.1 ∈ c.queue.map (·.1) ∨ entry.1 ∈ c.replies.map (·.1) := by
  rw [h.order hRunning] at hAccepted
  rcases List.mem_append.mp hAccepted with hBegun | hQueued
  · right
    obtain ⟨job, hJob, rfl⟩ := List.mem_map.mp hBegun
    have hProceed : job.execution.verdict = .proceed := by
      apply h.standing.proceed_of_running hRunning job.progress
      rw [h.finished_of_idle hIdle]
      exact List.mem_map_of_mem hJob
    rcases h.answered_or_fault hIdle hJob with hReply | ⟨message, hFault⟩
    · exact List.mem_map_of_mem hReply
    · cases hProceed.symm.trans hFault
  · exact .inl (List.mem_map_of_mem hQueued)

theorem outcome?_isSome_iff (c : ControlThread τ γ ρ) (ticket : Ticket) :
    (c.outcome? ticket).isSome = true ↔ c.isClosed = true ∨ ticket ∈ c.replies.map (·.1) := by
  rw [outcome?]
  cases hFound : c.replies.find? (·.1 = ticket) with
  | none =>
      have hNone : ticket ∉ c.replies.map (·.1) := by
        intro hReply
        obtain ⟨answer, hAnswer, hSame⟩ := List.mem_map.mp hReply
        exact List.find?_eq_none.mp hFound answer hAnswer (decide_eq_true hSame)
      cases hClosed : c.isClosed <;> simp [hNone]
  | some answer =>
      have hSame := List.find?_some hFound
      have hReply : ticket ∈ c.replies.map (·.1) := by
        rw [← of_decide_eq_true hSame]
        exact List.mem_map_of_mem (List.mem_of_find?_eq_some hFound)
      simp [hReply]

/-- Once the thread has executed what is queued, whoever waits for an accepted task is told. -/
theorem Account.told (h : Account setting x story c) (lawful : setting.runs run)
    {entry : Ticket × τ} (hAccepted : entry ∈ story.accepted) :
    ((c.complete.catchUp run).outcome? entry.1).isSome = true := by
  obtain ⟨first, hComplete⟩ := course_complete setting c
  have hLater := h.course hComplete
  have hIdle := complete_busy c
  obtain ⟨rest, hRest⟩ := course_advance lawful c.complete.queue.length c.complete
  have hStill : entry ∈ Incidents.accepted (story ++ first) := by
    rw [Incidents.accepted_append]
    exact List.mem_append_left _ hAccepted
  rw [outcome?_isSome_iff]
  by_cases hRunning : c.complete.condition = .running
  · rcases hLater.waits_or_answered hIdle hRunning hStill with hWaits | hAnswered
    · apply answered_of_mem_queue hLater lawful hIdle
      rwa [List.take_length]
    · right
      obtain ⟨answer, hAnswer, hSame⟩ := List.mem_map.mp hAnswered
      rw [← hSame]
      exact List.mem_map_of_mem ((hRest.replies_isPrefix hLater).subset hAnswer)
  · exact .inl (hRest.of_closed (decide_eq_true hRunning) hIdle).2.1

/-! How calls end. -/

/-- A call that is let in is made from elsewhere, while the thread runs. -/
theorem request_eq_ok (h : b.request origin task = (.ok ticket, d)) :
    origin = .elsewhere ∧ b.condition = .running ∧ ticket = ⟨b.accepted⟩ ∧ d = b.enqueue task := by
  cases origin with
  | controlThread => cases h
  | elsewhere =>
      rw [request] at h
      by_cases hRunning : b.condition = .running
      · rw [submit_of_running hRunning] at h
        cases h
        exact ⟨rfl, hRunning, rfl, rfl⟩
      · rw [submit_of_closed (decide_eq_true hRunning)] at h
        cases h

/-- A call that is turned away leaves everything as it is. -/
theorem request_eq_error {e : ServiceError} (h : b.request origin task = (.error e, d)) :
    d = b ∧ (origin = .controlThread ∧ e = .reentrantCall ∨
      origin = .elsewhere ∧ b.isClosed = true ∧ e = .controlThreadGone) := by
  cases origin with
  | controlThread =>
      cases h
      exact ⟨rfl, .inl ⟨rfl, rfl⟩⟩
  | elsewhere =>
      rw [request] at h
      by_cases hRunning : b.condition = .running
      · rw [submit_of_running hRunning] at h
        cases h
      · have hClosed : b.isClosed = true := decide_eq_true hRunning
        rw [submit_of_closed hClosed] at h
        cases h
        exact ⟨rfl, .inr ⟨rfl, hClosed, rfl⟩⟩

theorem Returns.course {result : Except ServiceError ρ}
    (returns : Returns setting b origin task story result c) : Course setting b story c := by
  cases returns with
  | refused h =>
      rw [(request_eq_error h).1]
      exact .refl
  | answered h hCourse _ =>
      obtain ⟨_, hRunning, rfl, rfl⟩ := request_eq_ok h
      exact (Step.submit task (submit_of_running hRunning task)).course.trans hCourse

/-- A ticket that is not given out yet stands for nothing that was done. -/
theorem Account.not_answered_yet (h : Account setting x story b) (reply : ρ) :
    (⟨b.accepted⟩, reply) ∉ b.replies := by
  intro hReply
  exact absurd (h.number_lt_of_reply hReply) (Nat.lt_irrefl _)

/-- There are three ways for a call to end. -/
theorem Returns.outcomes {earlier : Incidents τ γ ρ} {result : Except ServiceError ρ}
    (h : Account setting x earlier b) (returns : Returns setting b origin task story result c) :
    (origin = .controlThread ∧ result = .error .reentrantCall ∧ story = [] ∧ c = b) ∨
    (origin = .elsewhere ∧ ∃ reply, result = .ok reply ∧ (⟨b.accepted⟩, reply) ∈ c.replies ∧
      Completed setting x earlier.accepted ⟨b.accepted⟩ task (earlier ++ story) reply) ∨
    (origin = .elsewhere ∧ result = .error .controlThreadGone ∧ c.isClosed = true ∧
      (∀ reply, (⟨b.accepted⟩, reply) ∉ c.replies) ∧
      (b.isClosed = true ∨ Lost earlier.accepted ⟨b.accepted⟩ (earlier ++ story))) := by
  have hLater := h.course returns.course
  cases returns with
  | refused hRequest =>
      obtain ⟨rfl, ⟨rfl, rfl⟩ | ⟨rfl, hClosed, rfl⟩⟩ := request_eq_error hRequest
      · exact .inl ⟨rfl, rfl, rfl, rfl⟩
      · exact .inr (.inr ⟨rfl, rfl, hClosed, h.not_answered_yet, .inl hClosed⟩)
  | @answered ticket d _ later _ hRequest _ hTold =>
      obtain ⟨rfl, _, rfl, rfl⟩ := request_eq_ok hRequest
      have hAccepted : Incidents.accepted (earlier ++ .accepted (⟨b.accepted⟩, task) :: later) =
          earlier.accepted ++ (⟨b.accepted⟩, task) :: later.accepted :=
        Incidents.accepted_append ..
      cases result with
      | ok reply =>
          have hReply := hLater.outcome?_ok_iff.mp hTold
          exact .inr (.inl ⟨rfl, reply, rfl, hReply, hLater.completed hAccepted hReply⟩)
      | error e =>
          obtain ⟨rfl, hClosed, hNone⟩ := (outcome?_error_iff c _ e).mp hTold
          exact .inr (.inr ⟨rfl, rfl, hClosed, hNone, .inr (hLater.lost hAccepted hClosed hNone)⟩)

/-- What the caller of a task is told agrees with what came of the task, which has the ticket that
the thread gives out next. -/
structure Faithful (setting : Setting τ γ ρ) (x : γ) (earlier : Incidents τ γ ρ)
    (b : ControlThread τ γ ρ) (origin : Origin) (task : τ) (story : Incidents τ γ ρ)
    (result : Except ServiceError ρ) (c : ControlThread τ γ ρ) : Prop where
  reentrant_iff : result = .error .reentrantCall ↔ origin = .controlThread
  untouched : origin = .controlThread → story = [] ∧ c = b
  ok_iff (reply : ρ) : result = .ok reply ↔
    Completed setting x earlier.accepted ⟨b.accepted⟩ task (earlier ++ story) reply
  gone_iff : result = .error .controlThreadGone ↔
    origin = .elsewhere ∧ Incidents.completions (earlier ++ story) ⟨b.accepted⟩ = []
  why_gone : result = .error .controlThreadGone →
    b.isClosed = true ∨ Lost earlier.accepted ⟨b.accepted⟩ (earlier ++ story)
  /-- Nothing that happens later changes what came of the task. -/
  final : origin = .elsewhere → ∀ more d, Course setting c more d →
    Incidents.completions (earlier ++ story ++ more) ⟨b.accepted⟩ =
      Incidents.completions (earlier ++ story) ⟨b.accepted⟩

/-- However a call ends, the caller is told what came of the task. -/
theorem Returns.faithful {earlier : Incidents τ γ ρ} {result : Except ServiceError ρ}
    (h : Account setting x earlier b) (returns : Returns setting b origin task story result c) :
    Faithful setting x earlier b origin task story result c := by
  have hLater := h.course returns.course
  rcases returns.outcomes h with ⟨rfl, rfl, rfl, rfl⟩ | ⟨rfl, reply, rfl, hReply, hCompleted⟩ |
    ⟨rfl, rfl, hClosed, hNone, hWhy⟩
  · have hNothing := hLater.completions_eq_nil h.not_answered_yet
    refine ⟨by simp, fun _ => ⟨rfl, rfl⟩, ?_, by simp, by simp, by simp⟩
    intro reply
    constructor
    · intro hOk
      cases hOk
    · intro hCompleted
      cases hNothing.symm.trans hCompleted.once
  · have hOnce := hCompleted.once
    refine ⟨by simp, by simp, ?_, by simp [hOnce], by simp, ?_⟩
    · intro other
      constructor
      · intro hOk
        cases hOk
        exact hCompleted
      · intro hOther
        rw [(List.cons.inj (hOnce.symm.trans hOther.once)).1]
    · intro _ more d hMore
      have hStill := (hMore.replies_isPrefix hLater).subset hReply
      rw [(hLater.course hMore).completions_eq_singleton hStill, hOnce]
  · have hNothing := hLater.completions_eq_nil hNone
    refine ⟨by simp, by simp, ?_, by simp [hNothing], fun _ => hWhy, ?_⟩
    · intro reply
      constructor
      · intro hOk
        cases hOk
      · intro hCompleted
        cases hNothing.symm.trans hCompleted.once
    · intro _ more d hMore
      obtain ⟨rfl, _⟩ := hMore.of_closed hClosed (hLater.idle_of_closed hClosed)
      rw [List.append_nil]

/-- Where nobody else gets at the context, the reply is what the task makes of what all tasks
accepted before it made of the first context. -/
theorem Completed.reply_eq (h : Completed (Setting.alone run) x ahead ticket task story reply) :
    reply = (run task (contextAfter run x ahead)).reply := by
  obtain ⟨before, job, after, other, _, _, hAhead, hContext, hLawful, hExecution, hReply, _⟩ :=
    h.executed
  obtain rfl : other = run := hLawful
  rw [← hReply, hExecution, hContext.eq_contextAfter, hAhead]

theorem call_of_closed (run : τ → γ → Execution τ γ ρ) (hClosed : b.isClosed = true) (task : τ) :
    b.call run .elsewhere task = (.error .controlThreadGone, b) := by
  simp only [call, request, submit_of_closed hClosed]

theorem course_call (lawful : setting.runs run) (b : ControlThread τ γ ρ) (origin : Origin)
    (task : τ) : ∃ story, Course setting b story (b.call run origin task).2 := by
  rw [call]
  cases hRequest : b.request origin task with
  | mk outcome d =>
      cases outcome with
      | error e =>
          refine ⟨[], ?_⟩
          rw [(request_eq_error hRequest).1]
          exact .refl
      | ok ticket =>
          obtain ⟨_, hRunning, _, rfl⟩ := request_eq_ok hRequest
          obtain ⟨later, hLater⟩ :=
            course_advance lawful (b.enqueue task).queue.length (b.enqueue task)
          have hSubmit : Step setting b [.accepted (⟨b.accepted⟩, task)] (b.enqueue task) :=
            .submit task (submit_of_running hRunning task)
          exact ⟨_, hSubmit.course.trans hLater⟩

/-- A thread that is not busy executes everything up to the task and answers the call. -/
theorem returns_call {earlier : Incidents τ γ ρ} (h : Account setting x earlier b)
    (lawful : setting.runs run) (hIdle : b.busy = none) (origin : Origin) (task : τ) :
    ∃ story, Returns setting b origin task story (b.call run origin task).1
      (b.call run origin task).2 := by
  rw [call]
  cases hRequest : b.request origin task with
  | mk outcome d =>
      cases outcome with
      | error e => exact ⟨[], .refused hRequest⟩
      | ok ticket =>
          obtain ⟨rfl, hRunning, rfl, rfl⟩ := request_eq_ok hRequest
          obtain ⟨later, hCourse⟩ :=
            course_advance lawful (b.enqueue task).queue.length (b.enqueue task)
          have hAccepted : (⟨b.accepted⟩, task) ∈
              Incidents.accepted (earlier ++ [.accepted (⟨b.accepted⟩, task)]) := by
            rw [(earlier.snoc_accepted _).1]
            exact List.mem_append_right _ (List.mem_singleton_self _)
          have hTold := (h.enqueue hRunning task).told lawful hAccepted
          have hSame : (b.enqueue task).complete = b.enqueue task := by
            rw [complete, show (b.enqueue task).busy = none from hIdle]
          rw [hSame] at hTold
          obtain ⟨result, hResult⟩ := Option.isSome_iff_exists.mp hTold
          refine ⟨_, .answered hRequest hCourse ?_⟩
          show ((b.enqueue task).catchUp run).outcome? ⟨b.accepted⟩ =
            some ((((b.enqueue task).catchUp run).outcome? ⟨b.accepted⟩).getD
              (.error .controlThreadGone))
          rw [hResult, Option.getD_some]

end ControlThread

end RadioLifecycle
