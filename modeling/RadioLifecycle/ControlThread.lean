import RadioLifecycle.ServiceError

/-!
A thread that owns a context and executes tasks on it, one at a time, in the order in which they
were accepted. A task may submit further tasks, which queue behind everything accepted before. The
thread ends with the first task that asks for it or breaks down; whatever is still queued then is
dropped, and nothing is accepted any more. It also ends when nothing is left to be done and nobody
is left who could submit.

What a task does is given by a function from the task and the context to an `Execution`, so the
laws of the queue do not depend on it. A `Move` is the smallest thing that can happen, so that
others may submit between any two submissions of a task under execution; `step?` makes all moves of
one task at once.
-/

namespace RadioLifecycle

/-- What becomes of the thread after a task. -/
inductive Verdict where
  | proceed
  | halt
  /-- The task broke down, which ends the thread too. -/
  | fault (message : String)
  deriving DecidableEq, Repr

/-- What the execution of one task brings about: a new context, a reply to whoever waits for one,
the tasks that it submitted meanwhile, and what becomes of the thread. -/
structure Execution (τ γ ρ : Type) where
  context : γ
  reply : ρ
  submitted : List τ := []
  verdict : Verdict := .proceed

/-- The place of a task in the order of acceptance. -/
structure Ticket where
  number : Nat
  deriving DecidableEq, Repr

/-- Whether the thread still executes tasks, and if not, why. -/
inductive Condition where
  | running
  | halted
  | faulted (message : String)
  /-- Nothing was left to be done, and nobody could submit any more. -/
  | retired
  deriving DecidableEq, Repr

/-- A task under execution. Its effect on the context is there already; what it submits and what
becomes of the thread is still to come. -/
structure Progress (τ ρ : Type) where
  ticket : Ticket
  reply : ρ
  remaining : List τ
  verdict : Verdict

inductive Origin where
  | controlThread
  | elsewhere
  deriving DecidableEq, Repr

/-- A control thread with its context and its queue. -/
structure ControlThread (τ γ ρ : Type) where
  context : γ
  queue : List (Ticket × τ) := []
  busy : Option (Progress τ ρ) := none
  condition : Condition := .running
  /-- Whether anybody but the tasks themselves can submit. -/
  held : Bool := true
  /-- The replies of the tasks executed to completion, earliest first. -/
  replies : List (Ticket × ρ) := []
  accepted : Nat := 0

namespace ControlThread

variable {τ γ ρ : Type}

def isClosed (c : ControlThread τ γ ρ) : Bool :=
  decide (c.condition ≠ .running)

/-- Put a task at the end of the queue under the next ticket. -/
def enqueue (c : ControlThread τ γ ρ) (task : τ) : ControlThread τ γ ρ :=
  { c with queue := c.queue ++ [(⟨c.accepted⟩, task)], accepted := c.accepted + 1 }

/-- Submit a task. It is refused when the thread has ended. -/
def submit (c : ControlThread τ γ ρ) (task : τ) :
    Except ServiceError Ticket × ControlThread τ γ ρ :=
  if c.isClosed then (.error .controlThreadGone, c) else (.ok ⟨c.accepted⟩, c.enqueue task)

/-- End the thread and drop what is queued. -/
def close (c : ControlThread τ γ ρ) (condition : Condition) : ControlThread τ γ ρ :=
  { c with condition, queue := [] }

/-- Keep the reply of a task for whoever waits for it. -/
def answer (c : ControlThread τ γ ρ) (ticket : Ticket) (reply : ρ) : ControlThread τ γ ρ :=
  { c with replies := c.replies ++ [(ticket, reply)] }

/-- Let the verdict on a task take effect. A task that broke down replies nothing. -/
def conclude (c : ControlThread τ γ ρ) (p : Progress τ ρ) : ControlThread τ γ ρ :=
  match p.verdict with
  | .proceed => c.answer p.ticket p.reply
  | .halt => (c.answer p.ticket p.reply).close .halted
  | .fault message => c.close (.faulted message)

/-- Take the first task from the queue and have it act on the context, if the thread runs and is not
busy. -/
def begin? (run : τ → γ → Execution τ γ ρ) (c : ControlThread τ γ ρ) :
    Option (ControlThread τ γ ρ) :=
  match c.condition, c.busy, c.queue with
  | .running, none, (ticket, task) :: rest =>
    let e := run task c.context
    some { c with
      context := e.context
      queue := rest
      busy := some ⟨ticket, e.reply, e.submitted, e.verdict⟩ }
  | _, _, _ => none

/-- Accept the next task that the one under execution submits. -/
def issue? (c : ControlThread τ γ ρ) : Option (ControlThread τ γ ρ) :=
  match c.busy with
  | some ⟨ticket, reply, task :: rest, verdict⟩ =>
    some ({ c with busy := some ⟨ticket, reply, rest, verdict⟩ }.enqueue task)
  | some ⟨_, _, [], _⟩ | none => none

/-- End the execution of a task that has submitted everything. -/
def finish? (c : ControlThread τ γ ρ) : Option (ControlThread τ γ ρ) :=
  match c.busy with
  | some ⟨ticket, reply, [], verdict⟩ =>
    some ({ c with busy := none }.conclude ⟨ticket, reply, [], verdict⟩)
  | some ⟨_, _, _ :: _, _⟩ | none => none

/-- End the thread if it has nothing to do and nobody can submit. -/
def retire? (c : ControlThread τ γ ρ) : Option (ControlThread τ γ ρ) :=
  match c.condition, c.busy, c.queue with
  | .running, none, [] => if c.held then none else some (c.close .retired)
  | _, _, _ => none

/-- The smallest things that can happen to a control thread. -/
inductive Move (τ : Type) where
  /-- Somebody submits a task, from whatever thread. -/
  | submit (task : τ)
  /-- The first queued task acts on the context. -/
  | begin
  /-- The task under execution submits another one. -/
  | issue
  /-- The task under execution is done. -/
  | finish
  /-- The last one who could submit gives that up. -/
  | release
  /-- The thread ends for want of work. -/
  | retire
  deriving DecidableEq, Repr

/-- The thread after a move, if the move is possible. A submission that is refused changes
nothing. -/
def move? (run : τ → γ → Execution τ γ ρ) (c : ControlThread τ γ ρ) :
    Move τ → Option (ControlThread τ γ ρ)
  | .submit task => if c.held then some (c.submit task).2 else none
  | .begin => c.begin? run
  | .issue => c.issue?
  | .finish => c.finish?
  | .release => some { c with held := false }
  | .retire => c.retire?

/-- The thread after some moves, if every one of them is possible in its turn. -/
def moves? (run : τ → γ → Execution τ γ ρ) :
    List (Move τ) → ControlThread τ γ ρ → Option (ControlThread τ γ ρ)
  | [], c => some c
  | m :: rest, c => (c.move? run m).bind (moves? run rest)

/-- Let the task under execution, if there is one, submit everything and end. -/
def complete (c : ControlThread τ γ ρ) : ControlThread τ γ ρ :=
  match c.busy with
  | none => c
  | some p => (p.remaining.foldl enqueue { c with busy := none }).conclude p

/-- Execute the first queued task from its beginning to its end, if the thread runs and there is
one. -/
def step? (run : τ → γ → Execution τ γ ρ) (c : ControlThread τ γ ρ) :
    Option (ControlThread τ γ ρ) :=
  (c.begin? run).map complete

def advance (run : τ → γ → Execution τ γ ρ) : Nat → ControlThread τ γ ρ → ControlThread τ γ ρ
  | 0, c => c
  | limit + 1, c =>
    match c.step? run with
    | none => c
    | some c => advance run limit c

/-- Execute all tasks that are queued now. Those that they submit stay queued. -/
def catchUp (run : τ → γ → Execution τ γ ρ) (c : ControlThread τ γ ρ) : ControlThread τ γ ρ :=
  advance run c.queue.length c

/-- What whoever waits for a ticket is told: the reply once there is one, an error once the task can
no longer run, and nothing before. -/
def outcome? (c : ControlThread τ γ ρ) (ticket : Ticket) : Option (Except ServiceError ρ) :=
  match c.replies.find? (·.1 = ticket) with
  | some (_, reply) => some (.ok reply)
  | none => if c.isClosed then some (.error .controlThreadGone) else none

/-- Submit a task whose reply is waited for. On the control thread itself nobody may wait for the
control thread, so such a submission is refused before it is made. -/
def request (c : ControlThread τ γ ρ) (origin : Origin) (task : τ) :
    Except ServiceError Ticket × ControlThread τ γ ρ :=
  match origin with
  | .controlThread => (.error .reentrantCall, c)
  | .elsewhere => c.submit task

/-- Submit a task and wait for its reply while the thread executes everything up to it. -/
def call (run : τ → γ → Execution τ γ ρ) (c : ControlThread τ γ ρ) (origin : Origin) (task : τ) :
    Except ServiceError ρ × ControlThread τ γ ρ :=
  match c.request origin task with
  | (.error e, c) => (.error e, c)
  | (.ok ticket, c) =>
    let c := c.catchUp run
    ((c.outcome? ticket).getD (.error .controlThreadGone), c)

end ControlThread

end RadioLifecycle
