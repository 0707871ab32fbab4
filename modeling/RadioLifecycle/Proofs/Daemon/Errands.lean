import RadioLifecycle.Proofs.Daemon.Run
import RadioLifecycle.Proofs.System.Effect

/-!
The order of the daemon's errands. The main thread submits one command after another and never looks
back, so where it stands tells which commands it has submitted. The control thread executes them in
that order, whatever the visit of the chip and the workers submit in between: what it has executed
and what is still queued are what the main thread has submitted so far.
-/

namespace RadioLifecycle

/-- Whether a command is about more than a chip. -/
def Command.isErrand : Command → Bool
  | .onChip _ _ => false
  | .start _ | .stop _ | .phase | .isStarted | .teardown | .currentChip | .hasChip _ | .subscribe _
  | .unsubscribe _ => true

/-- The errands that a task consists of. -/
def Task.errands : Task → List Command
  | .perform commands => commands.filter (·.isErrand)
  | .client _ | .visitChip _ | .exitReport _ _ | .halt => []

/-- Whether a task runs client code that may submit anything. -/
def Task.isClient : Task → Bool
  | .client _ => true
  | .perform _ | .visitChip _ | .exitReport _ _ | .halt => false

/-- The errand that a deed carries out, if it carries one out. -/
def Deed.errand? {σ : Type} (d : Deed σ) : Option Command :=
  match d.cause with
  | .command command => if command.isErrand then some command else none
  | .exitReport _ _ => none

/-- The errands that some deeds carry out. -/
def errandsOf {σ : Type} (deeds : List (Deed σ)) : List Command :=
  deeds.filterMap (·.errand?)

/-- The errands that wait in the queue. -/
def System.errands {σ : Type} (s : System σ) : List Command :=
  s.queue.flatMap (·.2.errands)

variable {σ : Type}

theorem errandsOf_append (first second : List (Deed σ)) :
    errandsOf (first ++ second) = errandsOf first ++ errandsOf second :=
  List.filterMap_append

theorem append_errandsOf_nil (done : List Command) :
    done ++ errandsOf ([] : List (Deed σ)) = done :=
  List.append_nil done

theorem errandsOf_cons (d : Deed σ) (deeds : List (Deed σ)) :
    errandsOf (d :: deeds) = d.errand?.toList ++ errandsOf deeds := by
  cases hErrand : d.errand? <;> simp [errandsOf, hErrand]

theorem Radio.errandsOf_deeds (lib : Vendor.Library σ) (respond : Response)
    (commands : List Command) (r : Radio σ) :
    errandsOf (r.deeds lib respond commands) = commands.filter (·.isErrand) := by
  induction commands generalizing r with
  | nil => rfl
  | cons command rest ih =>
      rw [deeds, errandsOf_cons, ih, List.filter_cons]
      cases hErrand : command.isErrand <;> simp [Deed.errand?, hErrand]

/-- The deeds of a task carry its errands out. -/
theorem Task.errandsOf_deeds (lib : Vendor.Library σ) (respond : Response) (task : Task)
    (r : Radio σ) : errandsOf (task.deeds lib respond r) = task.errands := by
  cases task with
  | perform commands => exact r.errandsOf_deeds lib respond commands
  | client | visitChip | exitReport | halt => rfl

theorem System.errandsOf_nextDeeds {s : System σ} {ticket : Ticket} {task : Task}
    {rest : List (Ticket × Task)} (hQueue : s.queue = (ticket, task) :: rest)
    (lib : Vendor.Library σ) (respond : Response) :
    errandsOf (s.nextDeeds lib respond) = task.errands := by
  rw [nextDeeds, hQueue]
  exact task.errandsOf_deeds lib respond s.context

theorem System.errands_enqueue (s : System σ) (task : Task) :
    System.errands (s.enqueue task) = s.errands ++ task.errands := by
  simp [System.errands, ControlThread.enqueue]

namespace Daemon

/-- The listener issues no operations. -/
theorem operationsDuring_audience (before told : List Delivery) :
    audience.operationsDuring before told = [] := by
  induction told generalizing before with
  | nil => rfl
  | cons d rest ih => exact ih (before ++ [d])

/-- Unless client code is run, a task submits nothing but requests made of a chip. -/
theorem errands_of_mem_submitted {lib : Vendor.Library σ} {task submitted : Task} {r : Radio σ}
    (hTask : task.isClient = false) (h : submitted ∈ (task.run lib audience r).submitted) :
    submitted.isClient = false ∧ submitted.errands = [] := by
  rw [Task.run, operationsDuring_audience, List.flatMap_nil, List.append_nil] at h
  cases task with
  | client => cases hTask
  | perform | exitReport | halt => simp [Task.act] at h
  | visitChip requests =>
      simp only [Task.act] at h
      split at h
      · simp [Task.idle] at h
      · obtain ⟨operation, hOperation, hSubmitted⟩ := List.mem_flatMap.mp h
        obtain ⟨request, _, hRequest⟩ := List.mem_flatMap.mp hOperation
        rw [Chip.Request.operations] at hRequest
        split at hRequest
        · obtain rfl := List.mem_singleton.mp hRequest
          simp [Operation.submissions] at hSubmitted
        · split at hRequest
          · simp at hRequest
          · obtain rfl := List.mem_singleton.mp hRequest
            obtain rfl := List.mem_singleton.mp hSubmitted
            exact ⟨rfl, rfl⟩

/-- The commands by which the daemon comes and goes. -/
def route : List Command :=
  [.subscribe listener, .start startCommand, .stop stopCommand]

/-- What the main thread has submitted when it stands here and has asked so many times whether there
is a session. -/
def Stage.submitted : Stage → Nat → List Command
  | .register, _ => []
  | .start, _ => route.take 1
  | .visitChip, _ | .awaitSignal, _ | .stop, _ => route.take 2
  | .ask, asked | .awaitAnswer _, asked | .shutDown, asked | .join, asked | .finished, asked
  | .failed _, asked => route ++ List.replicate asked .isStarted

theorem Stage.submitted_prefix (stage : Stage) (asked : Nat) :
    stage.submitted asked <+: route ++ List.replicate asked .isStarted := by
  cases stage with
  | register => exact List.nil_prefix
  | start | visitChip | awaitSignal | stop =>
      exact (List.take_prefix _ _).trans (List.prefix_append _ _)
  | ask | awaitAnswer | shutDown | join | finished | failed => exact List.prefix_rfl

theorem Stage.isClient_of_submission? {stage : Stage} {task : Task} {next : Ticket → Stage}
    (h : stage.submission? = some (task, next)) : task.isClient = false := by
  cases stage <;> cases h <;> rfl

/-- A submission takes the main thread to where it has been made. -/
theorem Stage.submitted_of_submission? {stage : Stage} {task : Task} {next : Ticket → Stage}
    (h : stage.submission? = some (task, next)) (asked : Nat) :
    ∃ more, ∀ ticket, (next ticket).submitted more = stage.submitted asked ++ task.errands := by
  cases stage with
  | register | start | visitChip =>
      cases h
      exact ⟨asked, fun _ => rfl⟩
  | stop =>
      cases h
      exact ⟨0, fun _ => rfl⟩
  | ask =>
      cases h
      refine ⟨asked + 1, fun ticket => ?_⟩
      rw [submitted, submitted, List.replicate_succ', List.append_assoc]
      rfl
  | awaitSignal | awaitAnswer | shutDown | join | finished | failed => cases h

/-- What the control thread has executed and what is queued are what the main thread has submitted,
as long as the control thread goes on. -/
structure Session.InOrder (s : Session σ) (done : List Command) : Prop where
  own : ∀ entry ∈ s.system.queue, entry.2.isClient = false
  issued : ∀ p ∈ s.system.busy, ∀ task ∈ p.remaining, task.isClient = false ∧ task.errands = []
  order : s.system.GoesOn →
    ∃ asked, done ++ s.system.errands = s.stage.submitted asked

variable {s t : Session σ} {deeds : List (Deed σ)} {done : List Command}

/-- Only a control thread that goes on can have gone on before. -/
theorem Turn.goesOn (turn : Turn s deeds t) (goesOn : t.system.GoesOn) : s.system.GoesOn := by
  by_contra hStalled
  exact (turn.systemRun.stalled hStalled).1 goesOn

/-- A task that is accepted puts its errands behind all others. -/
theorem Session.InOrder.enqueued (h : s.InOrder done) {task : Task} {next : Stage}
    (own : task.isClient = false)
    (hNext : ∀ asked, ∃ more, next.submitted more = s.stage.submitted asked ++ task.errands) :
    Session.InOrder { s with system := s.system.enqueue task, stage := next } done := by
  refine ⟨?_, h.issued, ?_⟩
  · intro entry hEntry
    rcases List.mem_append.mp hEntry with hOld | hNew
    · exact h.own entry hOld
    · rw [List.mem_singleton.mp hNew]
      exact own
  · intro goesOn
    obtain ⟨asked, hOrder⟩ := h.order goesOn
    obtain ⟨more, hMore⟩ := hNext asked
    refine ⟨more, ?_⟩
    rw [System.errands_enqueue, ← List.append_assoc, hOrder, hMore]

/-- A submission is accepted, or nothing is to be said of the order any more. -/
theorem Session.InOrder.submitted (h : s.InOrder done) {task : Task} {next : Stage}
    (own : task.isClient = false)
    (hNext : s.system.condition = .running → ∀ asked, ∃ more,
      next.submitted more = s.stage.submitted asked ++ task.errands) :
    Session.InOrder { s with system := (s.system.submit task).2, stage := next } done := by
  cases hClosed : s.system.isClosed with
  | true =>
      rw [ControlThread.submit_of_closed hClosed]
      refine ⟨h.own, h.issued, ?_⟩
      intro goesOn
      exact absurd goesOn.1 (of_decide_eq_true hClosed)
  | false =>
      have hRunning : s.system.condition = .running := by
        simpa [ControlThread.isClosed] using hClosed
      rw [ControlThread.submit_of_running hRunning]
      exact h.enqueued own (hNext hRunning)

theorem Session.InOrder.proceed (h : s.InOrder done) (proceeds : s.Proceeds t) :
    t.InOrder done := by
  have hOrder := h.order
  cases proceeds with
  | submitted task next hErrand =>
      rw [Session.submit_eq]
      apply h.submitted (Stage.isClient_of_submission? hErrand)
      intro hRunning asked
      obtain ⟨more, hMore⟩ := Stage.submitted_of_submission? hErrand asked
      refine ⟨more, ?_⟩
      rw [if_neg (by simp [ControlThread.isClosed, hRunning]), hMore]
  | released hStage =>
      rw [hStage] at hOrder
      exact ⟨h.own, h.issued, hOrder⟩
  | joined hStage =>
      rw [hStage] at hOrder
      exact ⟨h.own, h.issued, hOrder⟩
  | answered ticket answer hStage =>
      rw [hStage] at hOrder
      refine ⟨h.own, h.issued, ?_⟩
      intro goesOn
      obtain ⟨asked, hOrder⟩ := hOrder goesOn
      refine ⟨asked, hOrder.trans ?_⟩
      simp only [Session.afterAnswer]
      split <;> rfl
  | halted hStage =>
      apply h.submitted rfl
      intro _ asked
      exact ⟨asked, by rw [hStage]; exact (List.append_nil _).symm⟩

/-- Every turn keeps the errands in order. -/
theorem Turn.inOrder (turn : Turn s deeds t) (h : s.InOrder done) :
    t.InOrder (done ++ errandsOf deeds) := by
  have hGoesOn := turn.goesOn
  cases turn with
  | proceed hStep =>
      rw [append_errandsOf_nil]
      exact h.proceed (Session.proceeds_of_step? hStep)
  | signal | disturb =>
      rw [append_errandsOf_nil]
      exact ⟨h.own, h.issued, h.order⟩
  | begin lib hBegin =>
      obtain ⟨hRunning, hIdle, ticket, task, rest, hQueue, rfl⟩ :=
        ControlThread.begin?_eq_some hBegin
      have hTask : task.isClient = false := h.own (ticket, task) (by simp [hQueue])
      refine ⟨?_, ?_, ?_⟩
      · intro entry hEntry
        apply h.own entry
        rw [hQueue]
        exact List.mem_cons_of_mem _ hEntry
      · rintro _ ⟨⟩ submitted hSubmitted
        exact errands_of_mem_submitted hTask hSubmitted
      · intro goesOn
        obtain ⟨asked, hOrder⟩ := h.order (hGoesOn goesOn)
        refine ⟨asked, ?_⟩
        rw [System.errandsOf_nextDeeds hQueue, List.append_assoc]
        simpa [System.errands, hQueue] using hOrder
  | issue hIssue =>
      rw [append_errandsOf_nil]
      obtain ⟨ticket, reply, task, rest, verdict, hBusy, rfl⟩ := ControlThread.issue?_eq_some hIssue
      obtain ⟨hTask, hNone⟩ := h.issued _ hBusy task (by simp)
      have hRest : Session.InOrder
          { s with system.busy := some ⟨ticket, reply, rest, verdict⟩ } done := by
        refine ⟨h.own, ?_, fun goesOn => h.order (hGoesOn goesOn)⟩
        rintro _ ⟨⟩ other hOther
        exact h.issued _ hBusy other (List.mem_cons_of_mem _ hOther)
      apply hRest.enqueued hTask
      intro asked
      exact ⟨asked, by rw [hNone, List.append_nil]⟩
  | finish hFinish =>
      rw [append_errandsOf_nil]
      obtain ⟨p, hBusy, _, rfl⟩ := ControlThread.finish?_eq_some hFinish
      refine ⟨?_, ?_, ?_⟩
      · rw [ControlThread.conclude]
        split
        · exact h.own
        · simp [ControlThread.close]
        · simp [ControlThread.close]
      · rw [ControlThread.conclude]
        split <;> simp [ControlThread.answer, ControlThread.close]
      · intro goesOn
        have hProceed := (hGoesOn goesOn).2 p hBusy
        rw [ControlThread.conclude, hProceed]
        exact h.order (hGoesOn goesOn)
  | work lib worker hWork =>
      rw [append_errandsOf_nil]
      obtain ⟨⟨report, crew⟩, _, rfl⟩ := Option.map_eq_some_iff.mp hWork
      cases report with
      | none => exact ⟨h.own, h.issued, h.order⟩
      | some requested =>
          have hSilent : Session.InOrder { s with system.context.toCrew := crew } done :=
            ⟨h.own, h.issued, h.order⟩
          exact hSilent.submitted rfl fun _ asked => ⟨asked, (List.append_nil _).symm⟩

/-- What is executed in a turn is what waited first in the queue. -/
theorem Turn.errandsOf_prefix (turn : Turn s deeds t) : errandsOf deeds <+: s.system.errands := by
  cases turn with
  | begin lib hBegin =>
      obtain ⟨_, _, ticket, task, rest, hQueue, _⟩ := ControlThread.begin?_eq_some hBegin
      rw [System.errandsOf_nextDeeds hQueue, System.errands, hQueue, List.flatMap_cons]
      exact List.prefix_append _ _
  | proceed | signal | issue | finish | work | disturb => exact List.nil_prefix

end Daemon

end RadioLifecycle
