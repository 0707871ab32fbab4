import Mathlib.Data.List.Nodup
import RadioLifecycle.Proofs.ControlThread.Course

/-!
An account of what a control thread did that was not alone. It is kept step by step, and tells which
tasks were executed, in which order and on which context, who was answered, and why the thread has
ended if it has.
-/

namespace RadioLifecycle.ControlThread

variable {τ γ ρ : Type} {setting : Setting τ γ ρ} {c d : ControlThread τ γ ρ}
  {story new : Incidents τ γ ρ} {x y : γ}

/-- Tasks one after another, with others at the context in between, make this of it. -/
inductive Leads (setting : Setting τ γ ρ) (x : γ) : List (Job τ γ ρ) → γ → Prop
  | refl : Leads setting x [] x
  | touch {jobs : List (Job τ γ ρ)} {y z : γ} (prior : Leads setting x jobs y)
      (h : setting.touches y z) : Leads setting x jobs z
  | job {jobs : List (Job τ γ ρ)} {run : τ → γ → Execution τ γ ρ} {ticket : Ticket} {task : τ}
      {y : γ} (prior : Leads setting x jobs y) (lawful : setting.runs run) :
      Leads setting x (jobs ++ [⟨ticket, task, y, run task y⟩]) (run task y).context

/-- A job found the context that those before it left behind, and executed as tasks may. -/
theorem Leads.before {before after : List (Job τ γ ρ)} {job : Job τ γ ρ}
    (h : Leads setting x (before ++ job :: after) y) :
    Leads setting x before job.context ∧
      ∃ run, setting.runs run ∧ job.execution = run job.task job.context := by
  generalize hJobs : before ++ job :: after = jobs at h
  induction h generalizing after with
  | refl => simp at hJobs
  | touch _ _ ih => exact ih hJobs
  | @job jobs run ticket task y prior lawful ih =>
      rcases List.eq_nil_or_concat after with rfl | ⟨rest, last, rfl⟩
      · obtain ⟨rfl, hJob⟩ := List.append_inj' hJobs rfl
        obtain rfl := List.singleton_inj.mp hJob
        exact ⟨prior, run, lawful, rfl⟩
      · rw [List.concat_eq_append, ← List.cons_append, ← List.append_assoc] at hJobs
        exact ih (List.append_inj' hJobs rfl).1

/-- Where nobody else gets at the context, only the tasks matter. -/
theorem Leads.eq_contextAfter {run : τ → γ → Execution τ γ ρ} {jobs : List (Job τ γ ρ)}
    (h : Leads (Setting.alone run) x jobs y) : y = contextAfter run x (jobs.map Job.entry) := by
  induction h with
  | refl => rfl
  | touch _ hTouch _ => exact hTouch.elim
  | @job jobs other ticket task y prior lawful ih =>
      obtain rfl : other = run := lawful
      rw [List.map_append, List.map_singleton, contextAfter_append_singleton, ← ih]
      rfl

/-- How a thread stands after what happened, and why. -/
inductive Standing (story : Incidents τ γ ρ) (c : ControlThread τ γ ρ) : Prop
  | running (running : c.condition = .running)
      (proceed : ∀ p ∈ story.finished, p.verdict = .proceed)
  | ended (before : List (Progress τ ρ)) (last : Progress τ ρ)
      (condition : c.condition = last.verdict.condition) (idle : c.busy = none)
      (latest : story.finished = before ++ [last]) (proceed : ∀ p ∈ before, p.verdict = .proceed)
      (stops : last.verdict ≠ .proceed)
  | retired (condition : c.condition = .retired) (idle : c.busy = none)
      (order : story.accepted = story.begun.map Job.entry)
      (proceed : ∀ p ∈ story.finished, p.verdict = .proceed)

/-- What there is to account for when a thread has begun with a context and this has happened. -/
structure Account (setting : Setting τ γ ρ) (x : γ) (story : Incidents τ γ ρ)
    (c : ControlThread τ γ ρ) : Prop where
  numbered : story.accepted.map (·.1.number) = List.range story.accepted.length
  count : c.accepted = story.accepted.length
  order : c.condition = .running → story.accepted = story.begun.map Job.entry ++ c.queue
  isPrefix : story.begun.map Job.entry <+: story.accepted
  executed : story.begun.map Job.progress =
    story.finished ++ (c.busy.map Progress.settled).toList
  replies : c.replies = story.finished.filterMap Progress.answer?
  leads : Leads setting x story.begun c.context
  standing : Standing story c

theorem account_initial (setting : Setting τ γ ρ) (x : γ) :
    Account setting x [] { context := x } where
  numbered := rfl
  count := rfl
  order _ := rfl
  isPrefix := List.prefix_rfl
  executed := rfl
  replies := rfl
  leads := .refl
  standing := .running rfl fun _ hNone => (List.not_mem_nil hNone).elim

theorem Standing.running_of_busy (h : Standing story c) {p : Progress τ ρ}
    (hBusy : c.busy = some p) : c.condition = .running := by
  cases h with
  | running hRunning => exact hRunning
  | ended _ _ _ hIdle | retired _ hIdle => cases hIdle.symm.trans hBusy

theorem Standing.proceed_of_running (h : Standing story c) (hRunning : c.condition = .running) :
    ∀ p ∈ story.finished, p.verdict = .proceed := by
  cases h with
  | running _ hProceed => exact hProceed
  | ended _ last hCondition _ _ _ hStops =>
      exact absurd ((Verdict.running_iff _).mp (hCondition.symm.trans hRunning)) hStops
  | retired hCondition => cases hCondition.symm.trans hRunning

/-- A task that is accepted while the thread runs comes behind all others. -/
theorem Account.enqueue (h : Account setting x story c) (hRunning : c.condition = .running)
    (task : τ) : Account setting x (story ++ [.accepted (⟨c.accepted⟩, task)]) (c.enqueue task) := by
  obtain ⟨hAccepted, hBegun, hFinished⟩ := story.snoc_accepted (⟨c.accepted⟩, task)
  constructor
  · rw [hAccepted, List.map_append, h.numbered, List.length_append, List.map_singleton, h.count]
    exact List.range_succ.symm
  · rw [hAccepted, List.length_append, List.length_singleton, ← h.count]
    rfl
  · intro _
    rw [hAccepted, hBegun, h.order hRunning, List.append_assoc]
    rfl
  · rw [hAccepted, hBegun]
    exact h.isPrefix.trans (List.prefix_append ..)
  · rw [hBegun, hFinished]
    exact h.executed
  · rw [hFinished]
    exact h.replies
  · rw [hBegun]
    exact h.leads
  · refine .running hRunning ?_
    rw [hFinished]
    exact h.standing.proceed_of_running hRunning

/-- The first queued task is begun on the context as it is, behind all begun before. -/
theorem Account.begin (h : Account setting x story c) {run : τ → γ → Execution τ γ ρ}
    (lawful : setting.runs run) {ticket : Ticket} {task : τ} (hBegin : c.begin? run = some d)
    (hNext : c.queue.head? = some (ticket, task)) :
    Account setting x (story ++ [.begun ⟨ticket, task, c.context, run task c.context⟩]) d := by
  obtain ⟨hRunning, hIdle, ticket', task', rest, hQueue, rfl⟩ := begin?_eq_some hBegin
  obtain ⟨rfl, rfl⟩ : ticket' = ticket ∧ task' = task := by
    rw [hQueue] at hNext
    simpa using hNext
  let job : Job τ γ ρ := ⟨ticket', task', c.context, run task' c.context⟩
  obtain ⟨hAccepted, hBegun, hFinished⟩ := story.snoc_begun job
  have hOrder : story.accepted = (story.begun ++ [job]).map Job.entry ++ rest := by
    rw [h.order hRunning, hQueue, List.map_append, List.append_assoc]
    rfl
  have hDone : story.begun.map Job.progress = story.finished := by
    simpa [hIdle] using h.executed
  constructor
  · rw [hAccepted]
    exact h.numbered
  · rw [hAccepted]
    exact h.count
  · intro _
    rw [hAccepted, hBegun]
    exact hOrder
  · rw [hAccepted, hBegun, hOrder]
    exact List.prefix_append ..
  · rw [hBegun, hFinished, List.map_append, hDone]
    rfl
  · rw [hFinished]
    exact h.replies
  · rw [hBegun]
    exact .job h.leads lawful
  · refine .running hRunning ?_
    rw [hFinished]
    exact h.standing.proceed_of_running hRunning

/-- What the task under execution has still to submit is no matter of the account. -/
theorem Account.withRemaining (h : Account setting x story c) {p q : Progress τ ρ}
    (hBusy : c.busy = some p) (hSettled : q.settled = p.settled) :
    Account setting x story { c with busy := some q } := by
  have hRunning := h.standing.running_of_busy hBusy
  refine { h with executed := ?_, standing := ?_ }
  · rw [h.executed, hBusy, Option.map_some, Option.map_some, hSettled]
  · exact .running hRunning (h.standing.proceed_of_running hRunning)

/-- A task that is done has done what it came to when it was begun. -/
theorem Account.finish (h : Account setting x story c) {p : Progress τ ρ}
    (hBusy : c.busy = some p) (hRemaining : p.remaining = []) :
    Account setting x (story ++ [.finished p]) ({ c with busy := none }.conclude p) := by
  have hRunning := h.standing.running_of_busy hBusy
  obtain ⟨hAccepted, hBegun, hFinished⟩ := story.snoc_finished p
  have hIdle := (conclude_frame { c with busy := none } p).2
  have hCondition : ({ c with busy := none }.conclude p).condition = p.verdict.condition :=
    conclude_condition p hRunning
  have hProceed := h.standing.proceed_of_running hRunning
  constructor
  · rw [hAccepted]
    exact h.numbered
  · rw [hAccepted, (conclude_frame _ p).1]
    exact h.count
  · intro hGoesOn
    have hVerdict := (Verdict.running_iff _).mp (hCondition.symm.trans hGoesOn)
    rw [hAccepted, hBegun, conclude_queue, if_pos hVerdict]
    exact h.order hRunning
  · rw [hAccepted, hBegun]
    exact h.isPrefix
  · rw [hBegun, hFinished, hIdle, h.executed, hBusy, Option.map_some,
      Progress.settled_of_remaining hRemaining]
    simp
  · rw [hFinished, conclude_replies, List.filterMap_append, ← h.replies]
    cases hAnswer : p.answer? <;> simp [hAnswer]
  · rw [hBegun, conclude_context]
    exact h.leads
  · by_cases hVerdict : p.verdict = .proceed
    · refine .running (hCondition.trans ((Verdict.running_iff _).mpr hVerdict)) ?_
      intro q hq
      rw [hFinished] at hq
      rcases List.mem_append.mp hq with hOld | hNew
      · exact hProceed q hOld
      · rw [List.mem_singleton.mp hNew]
        exact hVerdict
    · exact .ended story.finished p hCondition hIdle hFinished hProceed hVerdict

theorem Account.retire (h : Account setting x story c) (hRetire : c.retire? = some d) :
    Account setting x story d := by
  have hRunning := (held_of_retire? hRetire).1
  obtain ⟨hIdle, hQueue, rfl⟩ := retire?_eq_some hRetire
  have hOrder := h.order hRunning
  rw [hQueue, List.append_nil] at hOrder
  refine { h with order := ?_, standing := ?_ }
  · intro hEnded
    cases hEnded
  · exact .retired rfl hIdle hOrder (h.standing.proceed_of_running hRunning)

theorem Standing.congr (h : Standing story c) (hCondition : d.condition = c.condition)
    (hBusy : d.busy = c.busy) : Standing story d := by
  cases h with
  | running hRunning hProceed => exact .running (hCondition.trans hRunning) hProceed
  | ended before last hEnded hIdle hLatest hProceed hStops =>
      exact .ended before last (hCondition.trans hEnded) (hBusy.trans hIdle) hLatest hProceed hStops
  | retired hEnded hIdle hOrder hProceed =>
      exact .retired (hCondition.trans hEnded) (hBusy.trans hIdle) hOrder hProceed

/-- Every step is accounted for. -/
theorem Account.step (h : Account setting x story c) (step : Step setting c new d) :
    Account setting x (story ++ new) d := by
  cases step with
  | submit task hSubmit =>
      have hRunning : c.condition = .running := by
        by_contra hEnded
        rw [submit_of_closed (decide_eq_true hEnded)] at hSubmit
        cases hSubmit
      rw [submit_of_running hRunning] at hSubmit
      cases hSubmit
      exact h.enqueue hRunning task
  | begin lawful hBegin hNext => exact h.begin lawful hBegin hNext
  | issue hIssue hBusy hNext =>
      obtain ⟨ticket, reply, first, rest, verdict, hSame, rfl⟩ := issue?_eq_some hIssue
      cases hBusy.symm.trans hSame
      cases hNext
      have hLater := h.withRemaining (q := ⟨ticket, reply, rest, verdict⟩) hSame rfl
      exact hLater.enqueue (h.standing.running_of_busy hSame) _
  | finish hFinish hBusy =>
      obtain ⟨p, hSame, hRemaining, rfl⟩ := finish?_eq_some hFinish
      cases hBusy.symm.trans hSame
      exact h.finish hSame hRemaining
  | touch hTouch =>
      rw [List.append_nil]
      exact { h with leads := h.leads.touch hTouch, standing := h.standing.congr rfl rfl }
  | release =>
      rw [List.append_nil]
      exact { h with standing := h.standing.congr rfl rfl }
  | retire hRetire =>
      rw [List.append_nil]
      exact h.retire hRetire

theorem Account.course (h : Account setting x story c) (course : Course setting c new d) :
    Account setting x (story ++ new) d := by
  induction course with
  | refl =>
      rw [List.append_nil]
      exact h
  | snoc _ last ih =>
      rw [← List.append_assoc]
      exact ih.step last

theorem Course.account (course : Course setting { context := x } story c) :
    Account setting x story c :=
  (account_initial setting x).course course

/-! What an account tells. -/

theorem Account.idle_of_closed (h : Account setting x story c) (hClosed : c.isClosed = true) :
    c.busy = none := by
  cases h.standing with
  | running hRunning => exact absurd hRunning (of_decide_eq_true hClosed)
  | ended _ _ _ hIdle | retired _ hIdle => exact hIdle

/-- No two accepted tasks have one ticket. -/
theorem Account.nodup_accepted (h : Account setting x story c) :
    (story.accepted.map (·.1)).Nodup := by
  apply List.Nodup.of_map Ticket.number
  rw [List.map_map]
  change (story.accepted.map (·.1.number)).Nodup
  rw [h.numbered]
  exact List.nodup_range

theorem Account.number_lt (h : Account setting x story c) {entry : Ticket × τ}
    (hAccepted : entry ∈ story.accepted) : entry.1.number < c.accepted := by
  have hNumber : entry.1.number ∈ story.accepted.map (·.1.number) :=
    List.mem_map_of_mem hAccepted
  rw [h.numbered, List.mem_range] at hNumber
  rw [h.count]
  exact hNumber

/-- What is done was begun, and came to what it came to then. -/
theorem Account.begun_of_finished (h : Account setting x story c) {p : Progress τ ρ}
    (hFinished : p ∈ story.finished) : ∃ job ∈ story.begun, job.progress = p := by
  have hExecuted : p ∈ story.begun.map Job.progress := by
    rw [h.executed]
    exact List.mem_append_left _ hFinished
  exact List.mem_map.mp hExecuted

/-- A thread that is not busy has finished what it has begun. -/
theorem Account.finished_of_idle (h : Account setting x story c) (hIdle : c.busy = none) :
    story.finished = story.begun.map Job.progress := by
  rw [h.executed, hIdle]
  exact (List.append_nil _).symm

/-- A job that stands at some place among those begun was accepted at that place. -/
theorem Account.place (h : Account setting x story c) {ahead later : List (Ticket × τ)}
    {before after : List (Job τ γ ρ)} {entry : Ticket × τ} {job : Job τ γ ρ}
    (hAccepted : story.accepted = ahead ++ entry :: later)
    (hBegun : story.begun = before ++ job :: after) (hTicket : job.ticket = entry.1) :
    before.map Job.entry = ahead ∧ job.entry = entry := by
  obtain ⟨rest, hRest⟩ := h.isPrefix
  have hFirst : story.accepted =
      before.map Job.entry ++ job.entry :: (after.map Job.entry ++ rest) := by
    rw [← hRest, hBegun, List.map_append, List.append_assoc]
    rfl
  -- Both cut the accepted tasks at the ticket, and a ticket tells its place.
  have hPlace : (before.map Job.entry).length = ahead.length := by
    rw [← number_of_accepted h.numbered hFirst, ← number_of_accepted h.numbered hAccepted, ← hTicket]
    rfl
  obtain ⟨hBefore, hRest⟩ := List.append_inj (hFirst.symm.trans hAccepted) hPlace
  exact ⟨hBefore, (List.cons.inj hRest).1⟩

/-- The job with which a thread ended, or the thread ended with everything executed. -/
theorem Account.last_of_closed (h : Account setting x story c) (hClosed : c.isClosed = true) :
    (∃ before last, story.begun = before ++ [last] ∧
        (∀ job ∈ before, job.execution.verdict = .proceed) ∧
        last.execution.verdict ≠ .proceed ∧
        c.condition = last.execution.verdict.condition) ∨
      (c.condition = .retired ∧ story.accepted = story.begun.map Job.entry ∧
        ∀ job ∈ story.begun, job.execution.verdict = .proceed) := by
  have hDone := h.finished_of_idle (h.idle_of_closed hClosed)
  cases h.standing with
  | running hRunning => exact absurd hRunning (of_decide_eq_true hClosed)
  | ended before last hCondition _ hLatest hProceed hStops =>
      left
      rw [hDone] at hLatest
      obtain ⟨jobs, rest, hBegun, rfl, hLast⟩ := List.map_eq_append_iff.mp hLatest
      obtain ⟨job, rfl, rfl⟩ := List.map_eq_singleton_iff.mp hLast
      refine ⟨jobs, job, hBegun, ?_, hStops, hCondition⟩
      intro other hOther
      exact hProceed other.progress (List.mem_map_of_mem hOther)
  | retired hCondition _ hOrder hProceed =>
      right
      refine ⟨hCondition, hOrder, ?_⟩
      intro job hJob
      apply hProceed job.progress
      rw [hDone]
      exact List.mem_map_of_mem hJob

/-- The first of the tasks that were accepted were executed, all of them or as far as to the one
that ended the thread. -/
inductive Discharged (first : List (Ticket × τ)) (story : Incidents τ γ ρ) : Prop
  | all (begun : first <+: story.begun.map Job.entry)
      (proceed : ∀ job ∈ story.begun, job.entry ∈ first → job.execution.verdict = .proceed)
  | cut (before : List (Job τ γ ρ)) (last : Job τ γ ρ) (begun : story.begun = before ++ [last])
      (within : story.begun.map Job.entry <+: first) (stops : last.execution.verdict ≠ .proceed)

theorem Account.discharged (h : Account setting x story c) (hClosed : c.isClosed = true)
    {first : List (Ticket × τ)} (hFirst : first <+: story.accepted) : Discharged first story := by
  rcases h.last_of_closed hClosed with ⟨before, last, hBegun, hProceed, hStops, _⟩ | ⟨_, hAll, hProceed⟩
  · by_cases hAmong : last.entry ∈ first
    · apply Discharged.cut before last hBegun ?_ hStops
      rcases List.prefix_or_prefix_of_prefix h.isPrefix hFirst with hWithin | hBeyond
      · exact hWithin
      · -- The last job closes the list of those begun, so what contains it reaches to the end.
        have hNodup : (story.begun.map Job.entry).Nodup :=
          h.isPrefix.sublist.nodup h.nodup_accepted.of_map
        rw [hBegun, List.map_append, List.map_singleton] at hBeyond hNodup ⊢
        rcases List.prefix_concat_iff.mp hBeyond with hSame | hShort
        · rw [hSame]
        · have hTwice := List.nodup_append.mp hNodup
          exact absurd rfl (hTwice.2.2 _ (hShort.subset hAmong) _ (List.mem_singleton_self _))
    · apply Discharged.all
      · rcases List.prefix_or_prefix_of_prefix h.isPrefix hFirst with hWithin | hBeyond
        · have hLast : last.entry ∈ story.begun.map Job.entry := by
            rw [hBegun]
            exact List.mem_map_of_mem (List.mem_append_right _ (List.mem_singleton_self _))
          exact absurd (hWithin.subset hLast) hAmong
        · exact hBeyond
      · intro job hJob hEntry
        rw [hBegun] at hJob
        rcases List.mem_append.mp hJob with hBefore | hLast
        · exact hProceed job hBefore
        · rw [List.mem_singleton.mp hLast] at hEntry
          exact absurd hEntry hAmong
  · rw [hAll] at hFirst
    exact .all hFirst fun job hJob _ => hProceed job hJob

end RadioLifecycle.ControlThread
