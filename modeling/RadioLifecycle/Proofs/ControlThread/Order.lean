import Mathlib.Data.List.Infix
import RadioLifecycle.Proofs.ControlThread.Moves

/-!
The order in which a control thread executes. Whoever submits, and whenever, accepted tasks are
executed in the order of their acceptance, one at a time, each on the context that the one before
left behind. The thread ends with the first task that does not let it proceed, and then what was
accepted behind that task is never executed; or it ends for want of work, and then nothing accepted
is left over.
-/

namespace RadioLifecycle

/-- How the thread stands after a verdict. -/
def Verdict.condition : Verdict → Condition
  | .proceed => .running
  | .halt => .halted
  | .fault message => .faulted message

namespace ControlThread

variable {τ γ ρ α : Type}

/-- What a move accepts: a task, and its place in the order of acceptance. -/
def accepts? (c : ControlThread τ γ ρ) : Move τ → Option (Ticket × τ)
  | .submit task => (c.submit task).1.toOption.map (·, task)
  | .issue => c.busy.bind fun p => p.remaining.head?.map (⟨c.accepted⟩, ·)
  | .begin | .finish | .release | .retire => none

/-- The task that a move begins to execute. -/
def begins? (c : ControlThread τ γ ρ) : Move τ → Option (Ticket × τ)
  | .begin => c.queue.head?
  | .submit _ | .issue | .finish | .release | .retire => none

/-- The ticket of the task whose execution a move ends. -/
def finishes? (c : ControlThread τ γ ρ) : Move τ → Option Ticket
  | .finish => c.busy.map (·.ticket)
  | .submit _ | .begin | .issue | .release | .retire => none

/-- What there is to see of some moves, one after another. -/
def seen (see? : ControlThread τ γ ρ → Move τ → Option α) (run : τ → γ → Execution τ γ ρ) :
    List (Move τ) → ControlThread τ γ ρ → List α
  | [], _ => []
  | m :: rest, c => (see? c m).toList ++ ((c.move? run m).map (seen see? run rest)).getD []

variable {run : τ → γ → Execution τ γ ρ} {c c' : ControlThread τ γ ρ} {m : Move τ}
  {course first second : List (Move τ)}

theorem seen_cons (see? : ControlThread τ γ ρ → Move τ → Option α) (h : c.move? run m = some c') :
    seen see? run (m :: course) c = (see? c m).toList ++ seen see? run course c' := by
  rw [seen, h]
  rfl

theorem seen_append (see? : ControlThread τ γ ρ → Move τ → Option α)
    (h : moves? run first c = some c') :
    seen see? run (first ++ second) c = seen see? run first c ++ seen see? run second c' := by
  induction first generalizing c with
  | nil =>
      cases h
      rfl
  | cons m rest ih =>
      obtain ⟨d, hMove, hRest⟩ := Option.bind_eq_some_iff.mp h
      rw [List.cons_append, seen_cons see? hMove, seen_cons see? hMove, ih hRest, List.append_assoc]

theorem moves?_append :
    moves? run (first ++ second) c = (moves? run first c).bind (moves? run second) := by
  induction first generalizing c with
  | nil => rfl
  | cons m rest ih =>
      rw [List.cons_append, moves?, moves?, Option.bind_assoc]
      exact congrArg _ (funext fun _ => ih)

/-! Tasks that are executed one after another, with nothing in between. -/

/-- The context that these tasks leave behind. -/
def contextAfter (run : τ → γ → Execution τ γ ρ) (x : γ) (tasks : List (Ticket × τ)) : γ :=
  tasks.foldl (fun x entry => (run entry.2 x).context) x

/-- What becomes of the thread after a task, if these tasks come before it. -/
def verdictAfter (run : τ → γ → Execution τ γ ρ) (x : γ) (tasks : List (Ticket × τ))
    (last : Ticket × τ) : Verdict :=
  (run last.2 (contextAfter run x tasks)).verdict

/-- Every one of these tasks lets the thread proceed. -/
def AllProceed (run : τ → γ → Execution τ γ ρ) (x : γ) (tasks : List (Ticket × τ)) : Prop :=
  ∀ before entry after, tasks = before ++ entry :: after →
    verdictAfter run x before entry = .proceed

variable {x : γ} {tasks before accepted executed : List (Ticket × τ)} {last entry : Ticket × τ}
  {finished : List Ticket}

theorem contextAfter_append_singleton :
    contextAfter run x (tasks ++ [last]) = (run last.2 (contextAfter run x tasks)).context := by
  simp [contextAfter]

theorem allProceed_nil : AllProceed run x [] := by
  intro before entry after hTasks
  simp at hTasks

theorem AllProceed.append_singleton (h : AllProceed run x tasks)
    (hLast : verdictAfter run x tasks last = .proceed) : AllProceed run x (tasks ++ [last]) := by
  intro before entry after hTasks
  rcases List.eq_nil_or_concat after with rfl | ⟨rest, final, rfl⟩
  · obtain ⟨rfl, hEntry⟩ := List.append_inj' hTasks rfl
    rw [← List.singleton_inj.mp hEntry]
    exact hLast
  · have hInit : tasks ++ [last] = (before ++ entry :: rest) ++ [final] := by simpa using hTasks
    exact h before entry rest (List.append_inj' hInit rfl).1

/-! What the moves of a thread have come to. -/

/-- How a thread stands that has accepted, begun and finished these tasks. -/
inductive Served (run : τ → γ → Execution τ γ ρ) (x : γ) (accepted executed : List (Ticket × τ))
    (finished : List Ticket) (c : ControlThread τ γ ρ) : Prop
  | idle (running : c.condition = .running) (idle : c.busy = none)
      (order : accepted = executed ++ c.queue) (proceed : AllProceed run x executed)
      (finished : executed.map (·.1) = finished)
  | busy (before : List (Ticket × τ)) (last : Ticket × τ) (p : Progress τ ρ)
      (running : c.condition = .running) (busy : c.busy = some p)
      (order : accepted = executed ++ c.queue) (latest : executed = before ++ [last])
      (proceed : AllProceed run x before) (ticket : p.ticket = last.1)
      (verdict : p.verdict = verdictAfter run x before last)
      (finished : before.map (·.1) = finished)
  | ended (before : List (Ticket × τ)) (last : Ticket × τ)
      (condition : c.condition = (verdictAfter run x before last).condition) (idle : c.busy = none)
      (order : executed <+: accepted) (latest : executed = before ++ [last])
      (proceed : AllProceed run x before) (stops : verdictAfter run x before last ≠ .proceed)
      (finished : executed.map (·.1) = finished)
  | retired (condition : c.condition = .retired) (released : c.held = false) (idle : c.busy = none)
      (order : accepted = executed) (proceed : AllProceed run x executed)
      (finished : executed.map (·.1) = finished)

/-- What a thread has accepted, begun and finished so far, in order. -/
structure Ledger (run : τ → γ → Execution τ γ ρ) (x : γ) (accepted executed : List (Ticket × τ))
    (finished : List Ticket) (c : ControlThread τ γ ρ) : Prop where
  numbered : accepted.map (·.1.number) = List.range accepted.length
  count : c.accepted = accepted.length
  context : c.context = contextAfter run x executed
  served : Served run x accepted executed finished c

theorem ledger_initial (run : τ → γ → Execution τ γ ρ) (x : γ) :
    Ledger run x [] [] [] { context := x } :=
  ⟨rfl, rfl, rfl, .idle rfl rfl rfl allProceed_nil rfl⟩

theorem Verdict.running_iff (v : Verdict) : v.condition = .running ↔ v = .proceed := by
  cases v <;> simp [Verdict.condition]

/-- As long as the thread runs, what was accepted and is not begun waits in the queue. -/
theorem Served.order (h : Served run x accepted executed finished c)
    (hRunning : c.condition = .running) : accepted = executed ++ c.queue := by
  cases h with
  | idle _ _ hOrder _ _ => exact hOrder
  | busy _ _ _ _ _ hOrder _ _ _ _ _ => exact hOrder
  | ended before last hCondition _ _ _ _ hStops _ =>
      exact absurd ((Verdict.running_iff _).mp (hCondition.symm.trans hRunning)) hStops
  | retired hCondition _ _ _ _ _ => cases hRunning.symm.trans hCondition

/-- A task that is accepted while the thread runs comes behind all others. -/
theorem Ledger.enqueue (h : Ledger run x accepted executed finished c)
    (hRunning : c.condition = .running) (task : τ) :
    Ledger run x (accepted ++ [(⟨c.accepted⟩, task)]) executed finished (c.enqueue task) := by
  have hOrder : accepted ++ [(⟨c.accepted⟩, task)] = executed ++ (c.enqueue task).queue := by
    rw [h.served.order hRunning, ControlThread.enqueue, List.append_assoc]
  refine ⟨?_, by simp [ControlThread.enqueue, h.count], h.context, ?_⟩
  · simp [h.numbered, h.count, List.range_succ]
  · cases h.served with
    | idle _ hIdle _ hProceed hFinished => exact .idle hRunning hIdle hOrder hProceed hFinished
    | busy before last p _ hBusy _ hLatest hProceed hTicket hVerdict hFinished =>
        exact .busy before last p hRunning hBusy hOrder hLatest hProceed hTicket hVerdict hFinished
    | ended before last hCondition _ _ _ _ hStops _ =>
        exact absurd ((Verdict.running_iff _).mp (hCondition.symm.trans hRunning)) hStops
    | retired hCondition _ _ _ _ _ => cases hRunning.symm.trans hCondition

/-- The first task of the queue is begun when no other is under execution. -/
theorem Ledger.begin (h : Ledger run x accepted executed finished c)
    (hBegin : c.begin? run = some c') :
    Ledger run x accepted (executed ++ c.queue.head?.toList) finished c' := by
  obtain ⟨hRunning, hIdle, ticket, task, rest, hQueue, rfl⟩ := begin?_eq_some hBegin
  have hOrder := h.served.order hRunning
  rw [hQueue, ← List.singleton_append, ← List.append_assoc] at hOrder
  rw [hQueue, List.head?_cons, Option.toList_some]
  refine ⟨h.numbered, h.count, ?_, ?_⟩
  · rw [contextAfter_append_singleton, ← h.context]
  · cases h.served with
    | idle _ _ _ hProceed hFinished =>
        refine .busy executed (ticket, task) _ hRunning rfl hOrder rfl hProceed rfl ?_ hFinished
        rw [verdictAfter, ← h.context]
    | busy _ _ _ _ hBusy => cases hIdle.symm.trans hBusy
    | ended before last hCondition _ _ _ _ hStops _ =>
        exact absurd ((Verdict.running_iff _).mp (hCondition.symm.trans hRunning)) hStops
    | retired hCondition => cases hRunning.symm.trans hCondition

/-- When the task under execution is done, the thread is free for the next, or it ends. -/
theorem Ledger.finish (h : Ledger run x accepted executed finished c) {p : Progress τ ρ}
    (hBusy : c.busy = some p) :
    Ledger run x accepted executed (finished ++ [p.ticket])
      ({ c with busy := none }.conclude p) := by
  obtain ⟨context, queue, busy, condition, held, replies, count⟩ := c
  obtain rfl : busy = some p := hBusy
  cases h.served with
  | idle _ hIdle => cases hIdle
  | ended _ _ _ hIdle => cases hIdle
  | retired _ _ hIdle => cases hIdle
  | busy before last q hRunning hSame hOrder hLatest hProceed hTicket hVerdict hFinished =>
      obtain rfl : p = q := Option.some.inj hSame
      have hDone : executed.map (·.1) = finished ++ [p.ticket] := by
        simp [hLatest, hFinished, hTicket]
      cases hCase : p.verdict with
      | proceed =>
          have hAll : AllProceed run x executed := by
            rw [hLatest]
            exact hProceed.append_singleton (hVerdict.symm.trans hCase)
          rw [conclude, hCase]
          exact ⟨h.numbered, h.count, h.context, .idle hRunning rfl hOrder hAll hDone⟩
      | halt | fault =>
          have hPrefix : executed <+: accepted := by
            rw [hOrder]
            exact List.prefix_append ..
          rw [conclude, hCase]
          refine ⟨h.numbered, h.count, h.context,
            .ended before last ?_ rfl hPrefix hLatest hProceed ?_ hDone⟩
          · rw [← hVerdict, hCase]
            rfl
          · simp [← hVerdict, hCase]

/-- A task under execution has been begun while the thread ran, and it runs still. -/
theorem Served.running_of_busy (h : Served run x accepted executed finished c) {p : Progress τ ρ}
    (hBusy : c.busy = some p) : c.condition = .running := by
  cases h with
  | busy _ _ _ hRunning => exact hRunning
  | idle _ hIdle | ended _ _ _ hIdle | retired _ _ hIdle => cases hBusy.symm.trans hIdle

/-- What the task under execution has still to submit is no matter of the ledger. -/
theorem Ledger.withRemaining (h : Ledger run x accepted executed finished c) {p q : Progress τ ρ}
    (hBusy : c.busy = some p) (hTicket : q.ticket = p.ticket) (hVerdict : q.verdict = p.verdict) :
    Ledger run x accepted executed finished { c with busy := some q } := by
  refine ⟨h.numbered, h.count, h.context, ?_⟩
  cases h.served with
  | busy before last r hRunning hSame hOrder hLatest hProceed hTicket' hVerdict' hFinished =>
      obtain rfl : p = r := Option.some.inj (hBusy.symm.trans hSame)
      exact .busy before last q hRunning rfl hOrder hLatest hProceed (hTicket.trans hTicket')
        (hVerdict.trans hVerdict') hFinished
  | idle _ hIdle | ended _ _ _ hIdle | retired _ _ hIdle => cases hBusy.symm.trans hIdle

/-- Nobody can submit any more when a thread ends for want of work. -/
theorem held_of_retire? (h : c.retire? = some c') : c.condition = .running ∧ c.held = false := by
  rw [retire?] at h
  split at h
  · next hRunning _ _ =>
      cases hHeld : c.held with
      | true => simp [hHeld] at h
      | false => exact ⟨hRunning, rfl⟩
  · cases h

theorem Ledger.retire (h : Ledger run x accepted executed finished c)
    (hRetire : c.retire? = some c') : Ledger run x accepted executed finished c' := by
  obtain ⟨hRunning, hHeld⟩ := held_of_retire? hRetire
  obtain ⟨hIdle, hQueue, rfl⟩ := retire?_eq_some hRetire
  refine ⟨h.numbered, h.count, h.context, ?_⟩
  cases h.served with
  | idle _ _ hOrder hProceed hFinished =>
      rw [hQueue, List.append_nil] at hOrder
      exact .retired rfl hHeld hIdle hOrder hProceed hFinished
  | busy _ _ _ _ hBusy => cases hIdle.symm.trans hBusy
  | ended before last hCondition _ _ _ _ hStops _ =>
      exact absurd ((Verdict.running_iff _).mp (hCondition.symm.trans hRunning)) hStops
  | retired hCondition => cases hRunning.symm.trans hCondition

theorem Ledger.release (h : Ledger run x accepted executed finished c) :
    Ledger run x accepted executed finished { c with held := false } := by
  refine ⟨h.numbered, h.count, h.context, ?_⟩
  cases h.served with
  | idle hRunning hIdle hOrder hProceed hFinished =>
      exact .idle hRunning hIdle hOrder hProceed hFinished
  | busy before last p hRunning hBusy hOrder hLatest hProceed hTicket hVerdict hFinished =>
      exact .busy before last p hRunning hBusy hOrder hLatest hProceed hTicket hVerdict hFinished
  | ended before last hCondition hIdle hOrder hLatest hProceed hStops hFinished =>
      exact .ended before last hCondition hIdle hOrder hLatest hProceed hStops hFinished
  | retired hCondition _ hIdle hOrder hProceed hFinished =>
      exact .retired hCondition rfl hIdle hOrder hProceed hFinished

/-- Every move is entered into the ledger. -/
theorem Ledger.move (h : Ledger run x accepted executed finished c)
    (hMove : c.move? run m = some c') :
    Ledger run x (accepted ++ (c.accepts? m).toList) (executed ++ (c.begins? m).toList)
      (finished ++ (c.finishes? m).toList) c' := by
  cases m with
  | submit task =>
      rw [move?] at hMove
      split at hMove
      · cases hMove
        by_cases hRunning : c.condition = .running
        · simpa [accepts?, begins?, finishes?, submit_of_running hRunning, Except.toOption]
            using h.enqueue hRunning task
        · simpa [accepts?, begins?, finishes?, submit_of_closed (decide_eq_true hRunning),
            Except.toOption] using h
      · cases hMove
  | begin => simpa [accepts?, begins?, finishes?] using h.begin hMove
  | issue =>
      obtain ⟨ticket, reply, task, rest, verdict, hBusy, rfl⟩ := issue?_eq_some hMove
      have hLater := h.withRemaining (q := ⟨ticket, reply, rest, verdict⟩) hBusy rfl rfl
      simpa [accepts?, begins?, finishes?, hBusy]
        using hLater.enqueue (h.served.running_of_busy hBusy) task
  | finish =>
      obtain ⟨p, hBusy, _, rfl⟩ := finish?_eq_some hMove
      simpa [accepts?, begins?, finishes?, hBusy] using h.finish hBusy
  | release =>
      cases hMove
      simpa [accepts?, begins?, finishes?] using h.release
  | retire => simpa [accepts?, begins?, finishes?] using h.retire hMove

theorem Ledger.moves (h : Ledger run x accepted executed finished c)
    (hMoves : moves? run course c = some c') :
    Ledger run x (accepted ++ seen accepts? run course c) (executed ++ seen begins? run course c)
      (finished ++ seen finishes? run course c) c' := by
  induction course generalizing c accepted executed finished with
  | nil =>
      cases hMoves
      simpa [seen] using h
  | cons m rest ih =>
      obtain ⟨d, hMove, hRest⟩ := Option.bind_eq_some_iff.mp hMoves
      simpa [seen_cons _ hMove] using ih (h.move hMove) hRest

/-- A thread that has ended accepts nothing, begins nothing and keeps its context. -/
theorem move_of_closed (hClosed : c.isClosed = true) (hIdle : c.busy = none)
    (hMove : c.move? run m = some c') :
    c.accepts? m = none ∧ c.begins? m = none ∧
      c'.context = c.context ∧ c'.isClosed = true ∧ c'.busy = none := by
  have hEnded : c.condition ≠ .running := of_decide_eq_true hClosed
  cases m with
  | submit task =>
      rw [move?] at hMove
      split at hMove
      · cases hMove
        simp [accepts?, begins?, submit_of_closed hClosed, Except.toOption, hClosed, hIdle]
      · cases hMove
  | begin => exact absurd (begin?_eq_some hMove).1 hEnded
  | issue =>
      obtain ⟨_, _, _, _, _, hBusy, _⟩ := issue?_eq_some hMove
      cases hIdle.symm.trans hBusy
  | finish =>
      obtain ⟨_, hBusy, _⟩ := finish?_eq_some hMove
      cases hIdle.symm.trans hBusy
  | release =>
      cases hMove
      exact ⟨rfl, rfl, rfl, hClosed, hIdle⟩
  | retire => exact absurd (held_of_retire? hMove).1 hEnded

theorem moves_of_closed (hClosed : c.isClosed = true) (hIdle : c.busy = none)
    (hMoves : moves? run course c = some c') :
    seen accepts? run course c = [] ∧ seen begins? run course c = [] ∧
      c'.context = c.context := by
  induction course generalizing c with
  | nil =>
      cases hMoves
      exact ⟨rfl, rfl, rfl⟩
  | cons m rest ih =>
      obtain ⟨d, hMove, hRest⟩ := Option.bind_eq_some_iff.mp hMoves
      obtain ⟨hAccepts, hBegins, hContext, hStill, hFree⟩ := move_of_closed hClosed hIdle hMove
      obtain ⟨hNoMore, hNone, hSame⟩ := ih hStill hFree hRest
      simp [seen_cons _ hMove, hAccepts, hBegins, hNoMore, hNone, hSame, hContext]

/-! What a ledger tells. -/

theorem Ledger.isPrefix (h : Ledger run x accepted executed finished c) :
    executed <+: accepted := by
  cases h.served with
  | idle _ _ hOrder _ _ =>
      rw [hOrder]
      exact List.prefix_append ..
  | busy _ _ _ _ _ hOrder _ _ _ _ _ =>
      rw [hOrder]
      exact List.prefix_append ..
  | ended _ _ _ _ hOrder _ _ _ _ => exact hOrder
  | retired _ _ _ hOrder _ _ => rw [hOrder]

/-- All tasks that were begun are finished, but for the one under execution. -/
theorem Ledger.tickets (h : Ledger run x accepted executed finished c) :
    executed.map (·.1) = finished ++ (c.busy.map (·.ticket)).toList := by
  cases h.served with
  | idle _ hIdle _ _ hFinished | ended _ _ _ hIdle _ _ _ _ hFinished
  | retired _ _ hIdle _ _ hFinished => simp [hIdle, hFinished]
  | busy before last p _ hBusy _ hLatest _ hTicket _ hFinished =>
      simp [hBusy, hLatest, hFinished, hTicket]

theorem AllProceed.of_append_singleton (h : AllProceed run x (tasks ++ [last])) :
    AllProceed run x tasks := by
  rintro before entry after rfl
  exact h before entry (after ++ [last]) (by simp)

/-- Only the task executed last can have kept the thread from proceeding. -/
theorem Ledger.allProceed (h : Ledger run x accepted executed finished c)
    (hLast : executed = before ++ [last]) : AllProceed run x before := by
  cases h.served with
  | idle _ _ _ hProceed _ | retired _ _ _ _ hProceed _ =>
      rw [hLast] at hProceed
      exact hProceed.of_append_singleton
  | busy _ _ _ _ _ _ hLatest hProceed _ _ _ | ended _ _ _ _ _ hLatest hProceed _ _ =>
      rwa [(List.append_inj' (hLast.symm.trans hLatest) rfl).1]

/-- A thread that has ended is not busy, and there are two ways in which it can have ended. -/
theorem Ledger.closed (h : Ledger run x accepted executed finished c)
    (hClosed : c.isClosed = true) :
    c.busy = none ∧
    ((∃ before last, executed = before ++ [last] ∧ verdictAfter run x before last ≠ .proceed ∧
        c.condition = (verdictAfter run x before last).condition) ∨
      (c.condition = .retired ∧ c.held = false ∧ executed = accepted ∧
        AllProceed run x executed)) := by
  have hEnded : c.condition ≠ .running := of_decide_eq_true hClosed
  cases h.served with
  | idle hRunning | busy _ _ _ hRunning => exact absurd hRunning hEnded
  | ended before last hCondition hIdle _ hLatest _ hStops _ =>
      exact ⟨hIdle, .inl ⟨before, last, hLatest, hStops, hCondition⟩⟩
  | retired hCondition hHeld hIdle hOrder hProceed _ =>
      exact ⟨hIdle, .inr ⟨hCondition, hHeld, hOrder.symm, hProceed⟩⟩

/-- The ticket of an accepted task tells how many were accepted before it. -/
theorem number_of_accepted {after : List (Ticket × τ)}
    (hNumbered : accepted.map (·.1.number) = List.range accepted.length)
    (hAccepted : accepted = before ++ entry :: after) : entry.1.number = before.length := by
  have hNumber := congrArg (·[before.length]?) hNumbered
  simpa [hAccepted] using hNumber

/-- The tasks that a thread has executed, or is executing, are the first of those it has accepted,
in the order of acceptance. One is finished before the next is begun, and the context is what they
make of it one after another. Every one but the last has let the thread proceed. While the thread
runs, all others that it has accepted wait in the queue. When it has ended, then either with the
first task that did not let it proceed, or, when nobody was left who could submit, with all of them
executed; and it never accepts or begins any more. A task that is accepted, from wherever it was
submitted, is executed behind everything accepted before it. -/
theorem moves_inOrder (h : moves? run course { context := x } = some c) :
    let start : ControlThread τ γ ρ := { context := x }
    let accepted := seen accepts? run course start
    let executed := seen begins? run course start
    accepted.map (·.1.number) = List.range accepted.length ∧
    executed <+: accepted ∧
    executed.map (·.1) = seen finishes? run course start ++ (c.busy.map (·.ticket)).toList ∧
    c.context = contextAfter run x executed ∧
    (∀ before last, executed = before ++ [last] → AllProceed run x before) ∧
    (c.condition = .running → accepted = executed ++ c.queue) ∧
    (c.isClosed = true →
      (∃ before last, executed = before ++ [last] ∧ verdictAfter run x before last ≠ .proceed ∧
        c.condition = (verdictAfter run x before last).condition) ∨
      (c.condition = .retired ∧ c.held = false ∧ executed = accepted ∧
        AllProceed run x executed)) ∧
    (c.isClosed = true → ∀ more c', moves? run more c = some c' →
      seen accepts? run more c = [] ∧ seen begins? run more c = [] ∧ c'.context = c.context) ∧
    ∀ earlier m later b entry, course = earlier ++ m :: later →
      moves? run earlier start = some b → b.accepts? m = some entry →
      ∀ before after, executed = before ++ entry :: after →
        before = seen accepts? run earlier start := by
  intro start accepted executed
  have ledger := (ledger_initial run x).moves h
  simp only [List.nil_append] at ledger
  refine ⟨ledger.numbered, ledger.isPrefix, ledger.tickets, ledger.context,
    fun _ _ hLast => ledger.allProceed hLast, ledger.served.order,
    fun hClosed => (ledger.closed hClosed).2,
    fun hClosed _ _ hMore => moves_of_closed hClosed (ledger.closed hClosed).1 hMore, ?_⟩
  rintro earlier m later b entry rfl hEarlier hAccepts before after hExecuted
  obtain ⟨d, hMove, _⟩ : ∃ d, b.move? run m = some d ∧ moves? run later d = some c := by
    rw [moves?_append, hEarlier] at h
    exact Option.bind_eq_some_iff.mp h
  have hAccepted : accepted =
      seen accepts? run earlier start ++ entry :: seen accepts? run later d := by
    change seen accepts? run (earlier ++ m :: later) start = _
    rw [seen_append _ hEarlier, seen_cons _ hMove, hAccepts]
    rfl
  obtain ⟨rest, hRest⟩ := ledger.isPrefix
  have hFirst : accepted = before ++ entry :: (after ++ rest) := by
    rw [← List.cons_append, ← List.append_assoc, ← hExecuted]
    exact hRest.symm
  -- The ticket tells how many come before, so both ways to cut the list cut it at one place.
  have hPlace := (number_of_accepted ledger.numbered hFirst).symm.trans
    (number_of_accepted ledger.numbered hAccepted)
  exact (List.append_inj (hFirst.symm.trans hAccepted) hPlace).1

/-- The first task submits two others, and somebody else submits a third between them. The first of
the two halts the thread, so neither of those behind it is executed, and what comes later is
refused. -/
theorem moves_inOrder_haltInside :
    let run : Nat → List Nat → Execution Nat (List Nat) Unit := fun task log =>
      { context := log ++ [task], reply := (), submitted := if task = 1 then [10, 11] else [],
        verdict := if task = 10 then .halt else .proceed }
    let course : List (Move Nat) :=
      [.submit 1, .submit 2, .begin, .issue, .submit 3, .issue, .finish, .begin, .finish, .begin,
        .submit 4, .finish, .submit 5]
    ∃ c, moves? run course { context := [] } = some c ∧
      (seen accepts? run course { context := [] }).map (·.2) = [1, 2, 10, 3, 11, 4] ∧
      c.context = [1, 2, 10] ∧ c.condition = .halted ∧
      ∀ more c', moves? run more c = some c' →
        seen begins? run more c = [] ∧ c'.context = [1, 2, 10] := by
  intro run course
  let c := (moves? run course { context := [] }).get rfl
  have hMoves : moves? run course { context := [] } = some c := (Option.some_get _).symm
  obtain ⟨_, _, _, _, _, _, _, hNoMore, _⟩ := moves_inOrder hMoves
  refine ⟨c, hMoves, rfl, rfl, rfl, fun more c' hMore => ?_⟩
  obtain ⟨_, hNone, hContext⟩ := hNoMore rfl more c' hMore
  exact ⟨hNone, hContext⟩

end ControlThread

end RadioLifecycle
