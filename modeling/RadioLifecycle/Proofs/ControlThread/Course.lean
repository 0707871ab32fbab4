import RadioLifecycle.Proofs.ControlThread.Order

/-!
The courses that a control thread can take when it is not alone. Between any two moves others may
get at its context, each in ways of their own, and what a task does may differ from one time to the
next. What is accepted, begun and finished on the way makes up a story. The moves of a thread are
such courses, and so is what it does when it is left to itself; once it has ended, nothing is left
to tell.
-/

namespace RadioLifecycle

/-- What a control thread lives among. -/
structure Setting (τ γ ρ : Type) where
  /-- The ways in which tasks may execute. -/
  runs : (τ → γ → Execution τ γ ρ) → Prop
  /-- What others may do to the context between two moves. -/
  touches : γ → γ → Prop

/-- The control thread is the only one that gets at its context. -/
def Setting.alone {τ γ ρ : Type} (run : τ → γ → Execution τ γ ρ) : Setting τ γ ρ where
  runs other := other = run
  touches _ _ := False

/-- A task that the control thread took from its queue, with the context that it found and what it
came to. -/
structure Job (τ γ ρ : Type) where
  ticket : Ticket
  task : τ
  context : γ
  execution : Execution τ γ ρ

/-- One thing to tell of a control thread. -/
inductive Incident (τ γ ρ : Type) where
  | accepted (entry : Ticket × τ)
  | begun (job : Job τ γ ρ)
  | finished (p : Progress τ ρ)

/-- What happened to a control thread, earliest first. -/
abbrev Incidents (τ γ ρ : Type) := List (Incident τ γ ρ)

variable {τ γ ρ : Type}

namespace Job

/-- The task with its place in the order of acceptance. -/
def entry (job : Job τ γ ρ) : Ticket × τ :=
  (job.ticket, job.task)

/-- The job once it has submitted everything. -/
def progress (job : Job τ γ ρ) : Progress τ ρ :=
  ⟨job.ticket, job.execution.reply, [], job.execution.verdict⟩

end Job

namespace Progress

/-- The task under execution once it has submitted everything. -/
def settled (p : Progress τ ρ) : Progress τ ρ :=
  { p with remaining := [] }

/-- The answer that a task leaves behind. One that breaks down leaves none. -/
def answer? (p : Progress τ ρ) : Option (Ticket × ρ) :=
  match p.verdict with
  | .proceed | .halt => some (p.ticket, p.reply)
  | .fault _ => none

theorem settled_of_remaining {p : Progress τ ρ} (h : p.remaining = []) : p.settled = p := by
  obtain ⟨ticket, reply, remaining, verdict⟩ := p
  cases h
  rfl

theorem answer?_eq_some_iff {p : Progress τ ρ} {answer : Ticket × ρ} :
    p.answer? = some answer ↔
      (p.ticket, p.reply) = answer ∧ ∀ message, p.verdict ≠ .fault message := by
  rw [answer?]
  cases p.verdict <;> simp

end Progress

namespace Incidents

def accepted (story : Incidents τ γ ρ) : List (Ticket × τ) :=
  story.filterMap fun | .accepted entry => some entry | _ => none

def begun (story : Incidents τ γ ρ) : List (Job τ γ ρ) :=
  story.filterMap fun | .begun job => some job | _ => none

def finished (story : Incidents τ γ ρ) : List (Progress τ ρ) :=
  story.filterMap fun | .finished p => some p | _ => none

variable (first second : Incidents τ γ ρ)

@[simp]
theorem accepted_append : accepted (first ++ second) = accepted first ++ accepted second :=
  List.filterMap_append

@[simp]
theorem begun_append : begun (first ++ second) = begun first ++ begun second :=
  List.filterMap_append

@[simp]
theorem finished_append : finished (first ++ second) = finished first ++ finished second :=
  List.filterMap_append

variable (story : Incidents τ γ ρ)

theorem snoc_accepted (entry : Ticket × τ) :
    accepted (story ++ [.accepted entry]) = story.accepted ++ [entry] ∧
      begun (story ++ [.accepted entry]) = story.begun ∧
      finished (story ++ [.accepted entry]) = story.finished := by
  simp [accepted, begun, finished]

theorem snoc_begun (job : Job τ γ ρ) :
    accepted (story ++ [.begun job]) = story.accepted ∧
      begun (story ++ [.begun job]) = story.begun ++ [job] ∧
      finished (story ++ [.begun job]) = story.finished := by
  simp [accepted, begun, finished]

theorem snoc_finished (p : Progress τ ρ) :
    accepted (story ++ [.finished p]) = story.accepted ∧
      begun (story ++ [.finished p]) = story.begun ∧
      finished (story ++ [.finished p]) = story.finished ++ [p] := by
  simp [accepted, begun, finished]

end Incidents

namespace ControlThread

/-- One step of a control thread, and what there is to tell of it. A submission that is refused is
no step. -/
inductive Step (setting : Setting τ γ ρ) (c : ControlThread τ γ ρ) :
    Incidents τ γ ρ → ControlThread τ γ ρ → Prop
  | submit {ticket : Ticket} {d : ControlThread τ γ ρ} (task : τ)
      (h : c.submit task = (.ok ticket, d)) : Step setting c [.accepted (ticket, task)] d
  | begin {run : τ → γ → Execution τ γ ρ} {ticket : Ticket} {task : τ} {d : ControlThread τ γ ρ}
      (lawful : setting.runs run) (h : c.begin? run = some d)
      (next : c.queue.head? = some (ticket, task)) :
      Step setting c [.begun ⟨ticket, task, c.context, run task c.context⟩] d
  | issue {p : Progress τ ρ} {task : τ} {d : ControlThread τ γ ρ} (h : c.issue? = some d)
      (busy : c.busy = some p) (next : p.remaining.head? = some task) :
      Step setting c [.accepted (⟨c.accepted⟩, task)] d
  | finish {p : Progress τ ρ} {d : ControlThread τ γ ρ} (h : c.finish? = some d)
      (busy : c.busy = some p) : Step setting c [.finished p] d
  | touch {x : γ} (h : setting.touches c.context x) : Step setting c [] { c with context := x }
  | release : Step setting c [] { c with held := false }
  | retire {d : ControlThread τ γ ρ} (h : c.retire? = some d) : Step setting c [] d

/-- A control thread comes from one state to another, and this happens on the way. -/
inductive Course (setting : Setting τ γ ρ) (c : ControlThread τ γ ρ) :
    Incidents τ γ ρ → ControlThread τ γ ρ → Prop
  | refl : Course setting c [] c
  | snoc {story new : Incidents τ γ ρ} {d e : ControlThread τ γ ρ} (prior : Course setting c story d)
      (last : Step setting d new e) : Course setting c (story ++ new) e

variable {setting : Setting τ γ ρ} {b c d : ControlThread τ γ ρ}
  {story new first second : Incidents τ γ ρ} {x y : γ}

theorem Step.course (step : Step setting c story d) : Course setting c story d :=
  .snoc .refl step

theorem Course.trans (left : Course setting b first c) (right : Course setting c second d) :
    Course setting b (first ++ second) d := by
  induction right with
  | refl =>
      rw [List.append_nil]
      exact left
  | snoc prior last ih =>
      rw [← List.append_assoc]
      exact .snoc ih last

/-- What there is to tell of a submission: nothing when it is refused. -/
def submission (c : ControlThread τ γ ρ) (task : τ) : Incidents τ γ ρ :=
  (c.submit task).1.toOption.toList.map fun ticket => .accepted (ticket, task)

theorem submission_of_running (h : c.condition = .running) (task : τ) :
    c.submission task = [.accepted (⟨c.accepted⟩, task)] := by
  rw [submission, submit_of_running h]
  rfl

theorem submission_of_closed (h : c.isClosed = true) (task : τ) : c.submission task = [] := by
  rw [submission, submit_of_closed h]
  rfl

theorem course_submit (c : ControlThread τ γ ρ) (task : τ) :
    Course setting c (c.submission task) (c.submit task).2 := by
  by_cases hRunning : c.condition = .running
  · rw [submission_of_running hRunning, submit_of_running hRunning]
    exact (Step.submit task (submit_of_running hRunning task)).course
  · have hClosed : c.isClosed = true := decide_eq_true hRunning
    rw [submission_of_closed hClosed, submit_of_closed hClosed]
    exact .refl

/-- A thread that has ended accepts nothing, begins nothing and finishes nothing any more. -/
theorem Step.of_closed (step : Step setting c story d) (hClosed : c.isClosed = true)
    (hIdle : c.busy = none) :
    story = [] ∧ d.isClosed = true ∧ d.busy = none ∧ d.replies = c.replies := by
  have hEnded : c.condition ≠ .running := of_decide_eq_true hClosed
  cases step with
  | submit task hSubmit =>
      rw [submit_of_closed hClosed] at hSubmit
      cases hSubmit
  | begin _ hBegin => exact absurd (begin?_eq_some hBegin).1 hEnded
  | issue _ hBusy | finish _ hBusy => cases hIdle.symm.trans hBusy
  | touch | release => exact ⟨rfl, hClosed, hIdle, rfl⟩
  | retire hRetire => exact absurd (held_of_retire? hRetire).1 hEnded

/-- Only others change the context of a thread that has ended. -/
theorem Step.context_of_closed (step : Step setting c story d) (hClosed : c.isClosed = true)
    (hIdle : c.busy = none) : d.context = c.context ∨ setting.touches c.context d.context := by
  cases step with
  | submit task hSubmit =>
      rw [submit_of_closed hClosed] at hSubmit
      cases hSubmit
  | begin _ hBegin => exact absurd (begin?_eq_some hBegin).1 (of_decide_eq_true hClosed)
  | issue _ hBusy | finish _ hBusy => cases hIdle.symm.trans hBusy
  | touch hTouch => exact .inr hTouch
  | release => exact .inl rfl
  | retire hRetire =>
      obtain ⟨_, _, rfl⟩ := retire?_eq_some hRetire
      exact .inl rfl

theorem Course.of_closed (course : Course setting c story d) (hClosed : c.isClosed = true)
    (hIdle : c.busy = none) :
    story = [] ∧ d.isClosed = true ∧ d.busy = none ∧ d.replies = c.replies := by
  induction course with
  | refl => exact ⟨rfl, hClosed, hIdle, rfl⟩
  | snoc _ last ih =>
      obtain ⟨rfl, hStill, hFree, hReplies⟩ := ih
      obtain ⟨rfl, hAfter, hRest, hSame⟩ := last.of_closed hStill hFree
      exact ⟨rfl, hAfter, hRest, hSame.trans hReplies⟩

/-! Courses that the thread takes on its own. -/

/-- A move is a step where nobody else gets at the context. -/
theorem course_of_move? {run : τ → γ → Execution τ γ ρ} {m : Move τ} (h : c.move? run m = some d) :
    ∃ story, Course (Setting.alone run) c story d ∧ story.accepted = (c.accepts? m).toList ∧
      story.begun.map Job.entry = (c.begins? m).toList := by
  cases m with
  | submit task =>
      rw [move?] at h
      split at h
      · cases h
        refine ⟨c.submission task, course_submit c task, ?_⟩
        rw [accepts?]
        by_cases hRunning : c.condition = .running
        · rw [submission_of_running hRunning, submit_of_running hRunning]
          exact ⟨rfl, rfl⟩
        · have hClosed : c.isClosed = true := decide_eq_true hRunning
          rw [submission_of_closed hClosed, submit_of_closed hClosed]
          exact ⟨rfl, rfl⟩
      · cases h
  | begin =>
      obtain ⟨_, _, ticket, task, rest, hQueue, _⟩ := begin?_eq_some h
      have hNext : c.queue.head? = some (ticket, task) := by rw [hQueue, List.head?_cons]
      refine ⟨_, (Step.begin rfl h hNext).course, rfl, ?_⟩
      rw [begins?, hNext]
      rfl
  | issue =>
      obtain ⟨ticket, reply, task, rest, verdict, hBusy, _⟩ := issue?_eq_some h
      refine ⟨_, (Step.issue h hBusy rfl).course, ?_, rfl⟩
      rw [accepts?, hBusy]
      rfl
  | finish =>
      obtain ⟨p, hBusy, _⟩ := finish?_eq_some h
      exact ⟨_, (Step.finish h hBusy).course, rfl, rfl⟩
  | release =>
      cases h
      exact ⟨_, Step.release.course, rfl, rfl⟩
  | retire => exact ⟨_, (Step.retire h).course, rfl, rfl⟩

theorem course_of_moves? {run : τ → γ → Execution τ γ ρ} {moves : List (Move τ)}
    (h : moves? run moves c = some d) :
    ∃ story, Course (Setting.alone run) c story d ∧ story.accepted = seen accepts? run moves c ∧
      story.begun.map Job.entry = seen begins? run moves c := by
  induction moves generalizing c with
  | nil =>
      cases h
      exact ⟨[], .refl, rfl, rfl⟩
  | cons m rest ih =>
      obtain ⟨e, hMove, hRest⟩ := Option.bind_eq_some_iff.mp h
      obtain ⟨first, hFirst, hAccepted, hBegun⟩ := course_of_move? hMove
      obtain ⟨more, hMore, hLater, hNext⟩ := ih hRest
      refine ⟨first ++ more, hFirst.trans hMore, ?_, ?_⟩
      · rw [Incidents.accepted_append, seen_cons _ hMove, hAccepted, hLater]
      · rw [Incidents.begun_append, List.map_append, seen_cons _ hMove, hBegun, hNext]

/-- The task under execution can submit what it still has to and end, with nothing in between. -/
theorem course_complete (setting : Setting τ γ ρ) (c : ControlThread τ γ ρ) :
    ∃ story, Course setting c story c.complete := by
  obtain ⟨context, queue, busy, condition, held, replies, accepted⟩ := c
  cases busy with
  | none => exact ⟨[], .refl⟩
  | some p =>
      obtain ⟨ticket, reply, remaining, verdict⟩ := p
      induction remaining generalizing queue accepted with
      | nil => exact ⟨_, (Step.finish rfl rfl).course⟩
      | cons task rest ih =>
          obtain ⟨story, hRest⟩ := ih (queue ++ [(⟨accepted⟩, task)]) (accepted + 1)
          exact ⟨_, (Step.issue rfl rfl rfl).course.trans hRest⟩

theorem course_of_step? {run : τ → γ → Execution τ γ ρ} (lawful : setting.runs run)
    (h : c.step? run = some d) : ∃ story, Course setting c story d := by
  obtain ⟨begun, hBegin, rfl⟩ := Option.map_eq_some_iff.mp h
  obtain ⟨_, _, ticket, task, rest, hQueue, _⟩ := begin?_eq_some hBegin
  obtain ⟨story, hComplete⟩ := course_complete setting begun
  have hNext : c.queue.head? = some (ticket, task) := by rw [hQueue, List.head?_cons]
  exact ⟨_, (Step.begin lawful hBegin hNext).course.trans hComplete⟩

theorem course_advance {run : τ → γ → Execution τ γ ρ} (lawful : setting.runs run) (limit : Nat)
    (c : ControlThread τ γ ρ) : ∃ story, Course setting c story (advance run limit c) := by
  induction limit generalizing c with
  | zero => exact ⟨[], .refl⟩
  | succ limit ih =>
      rw [advance]
      cases hStep : c.step? run with
      | none => exact ⟨[], .refl⟩
      | some d =>
          obtain ⟨first, hFirst⟩ := course_of_step? lawful hStep
          obtain ⟨rest, hRest⟩ := ih d
          exact ⟨first ++ rest, hFirst.trans hRest⟩

/-- The thread can end what it is about and then execute what is queued. -/
theorem course_catchUp {run : τ → γ → Execution τ γ ρ} (lawful : setting.runs run)
    (c : ControlThread τ γ ρ) : ∃ story, Course setting c story (c.complete.catchUp run) := by
  obtain ⟨first, hComplete⟩ := course_complete setting c
  obtain ⟨rest, hRest⟩ := course_advance lawful c.complete.queue.length c.complete
  exact ⟨first ++ rest, hComplete.trans hRest⟩

/-! What the end of a task leaves of the queue and adds to the replies. -/

theorem conclude_replies (c : ControlThread τ γ ρ) (p : Progress τ ρ) :
    (c.conclude p).replies = c.replies ++ p.answer?.toList := by
  rw [conclude, Progress.answer?]
  cases p.verdict <;> simp [answer, close]

theorem conclude_condition (p : Progress τ ρ) (h : c.condition = .running) :
    (c.conclude p).condition = p.verdict.condition := by
  rw [conclude]
  cases p.verdict <;> simp [answer, close, Verdict.condition, h]

theorem conclude_frame (c : ControlThread τ γ ρ) (p : Progress τ ρ) :
    (c.conclude p).accepted = c.accepted ∧ (c.conclude p).busy = c.busy := by
  rw [conclude]
  cases p.verdict <;> exact ⟨rfl, rfl⟩

/-- The end of a task leaves the queue as it is, unless it ends the thread. -/
theorem conclude_queue (c : ControlThread τ γ ρ) (p : Progress τ ρ) :
    (c.conclude p).queue = if p.verdict = .proceed then c.queue else [] := by
  rw [conclude]
  cases p.verdict <;> simp [answer, close]

/-- Tasks that are put into the queue come behind those that wait there, and answer nobody. -/
theorem foldl_enqueue_queue (c : ControlThread τ γ ρ) (tasks : List τ) :
    (∃ more, (tasks.foldl enqueue c).queue = c.queue ++ more) ∧
      (tasks.foldl enqueue c).busy = c.busy ∧ (tasks.foldl enqueue c).replies = c.replies := by
  induction tasks generalizing c with
  | nil => exact ⟨⟨[], (List.append_nil _).symm⟩, rfl, rfl⟩
  | cons task rest ih =>
      obtain ⟨⟨more, hQueue⟩, hBusy, hReplies⟩ := ih (c.enqueue task)
      refine ⟨⟨(⟨c.accepted⟩, task) :: more, ?_⟩, hBusy, hReplies⟩
      rw [List.foldl_cons, hQueue, ControlThread.enqueue, List.append_assoc]
      rfl

@[simp]
theorem complete_busy (c : ControlThread τ γ ρ) : c.complete.busy = none := by
  rw [complete]
  split
  · assumption
  · next p _ =>
      rw [(conclude_frame _ p).2]
      exact (foldl_enqueue_queue _ p.remaining).2.1

/-- A task that is executed from its beginning to its end is answered, or it ends the thread. -/
theorem step?_eq_some {run : τ → γ → Execution τ γ ρ} (h : c.step? run = some d) :
    d.busy = none ∧ (d.isClosed = true ∨ ∃ ticket task rest reply more,
      c.queue = (ticket, task) :: rest ∧ d.queue = rest ++ more ∧
      d.replies = c.replies ++ [(ticket, reply)]) := by
  obtain ⟨begun, hBegin, rfl⟩ := Option.map_eq_some_iff.mp h
  refine ⟨complete_busy begun, ?_⟩
  by_cases hGoesOn : begun.GoesOn
  · right
    obtain ⟨hRunning, hIdle, ticket, task, rest, hQueue, rfl⟩ := begin?_eq_some hBegin
    have hVerdict : (run task c.context).verdict = .proceed := hGoesOn.2 _ rfl
    let done := { c with context := (run task c.context).context, queue := rest }
    obtain ⟨⟨more, hMore⟩, _, hReplies⟩ :=
      foldl_enqueue_queue { done with busy := none } (run task c.context).submitted
    refine ⟨ticket, task, rest, (run task c.context).reply, more, hQueue, ?_, ?_⟩
    · rw [complete, conclude_queue, if_pos hVerdict]
      exact hMore
    · rw [complete, conclude_replies, hReplies]
      simp [Progress.answer?, hVerdict, done]
  · exact .inl (isClosed_complete hGoesOn)

end ControlThread

end RadioLifecycle
