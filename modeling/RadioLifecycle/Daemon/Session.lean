import RadioLifecycle.Json.Writer
import RadioLifecycle.Lifecycle.Exchange
import RadioLifecycle.System

/-!
The life of the daemon once its service runs: it registers a listener, starts the session, asks the
chip for its report, waits for the shutdown signal or a failed start, stops the session, waits until
there is none, and ends the control thread. The main thread is one more thread of the system, so its
steps are interleaved with those of all others.
-/

namespace RadioLifecycle.Daemon

open Vendor (Library)

def startCommand : CommandId := ⟨1⟩

def stopCommand : CommandId := ⟨2⟩

/-- The listener, which takes events of the session and of the chip alike. -/
def listener : SubscriberId := ⟨0⟩

/-- The listener takes every event and asks for nothing. -/
def audience : Audience where
  respond _ _ := .accepted

/-- Where the main thread stands: what it does next. -/
inductive Stage where
  | register
  | start
  | visitChip
  | awaitSignal
  | stop
  | ask
  | awaitAnswer (ticket : Ticket)
  | shutDown
  | join
  | finished
  | failed (e : ServiceError)
  deriving DecidableEq, Repr

/-- The system together with the main thread. -/
structure Session (σ : Type) where
  system : System σ
  signalled : Bool := false
  stage : Stage := .register

namespace Session

variable {σ : Type}

def failure? (s : Session σ) : Option ServiceError :=
  match s.stage with
  | .failed e => some e
  | _ => none

def startFailed (s : Session σ) : Bool :=
  s.system.context.journal.deliveries.any fun d =>
    match d.event with
    | .startFailed _ _ => decide (d.subscriber = listener)
    | .started _ | .stopped _ | .reported _ => false

/-- Submit a task and go on, or fail if it is refused. -/
def submit (s : Session σ) (task : Task) (next : Ticket → Stage) : Session σ :=
  match s.system.submit task with
  | (.ok ticket, system) => { s with system, stage := next ticket }
  | (.error e, system) => { s with system, stage := .failed e }

/-- What the main thread does once it knows whether there is a session: ask again while there is
one. -/
def afterAnswer : Except ServiceError Reply → Stage
  | .ok (.answers [.flag false]) => .shutDown
  | .ok _ => .ask
  | .error e => .failed e

/-- The next step of the main thread, if it does not wait. -/
def step? (s : Session σ) : Option (Session σ) :=
  match s.stage with
  | .register => some (s.submit (.perform [.subscribe listener]) fun _ => .start)
  | .start => some (s.submit (.perform [.start startCommand]) fun _ => .visitChip)
  | .visitChip => some (s.submit (.visitChip [.register listener, .report]) fun _ => .awaitSignal)
  | .awaitSignal => if s.signalled || s.startFailed then some { s with stage := .stop } else none
  | .stop => some (s.submit (.perform [.stop stopCommand]) fun _ => .ask)
  | .ask => some (s.submit (.perform [.isStarted]) .awaitAnswer)
  | .awaitAnswer ticket =>
    (s.system.outcome? ticket).map fun answer => { s with stage := afterAnswer answer }
  | .shutDown => some { s with system := (s.system.submit .halt).2, stage := .join }
  | .join => if s.system.isClosed then some { s with stage := .finished } else none
  | .finished | .failed _ => none

/-- One thing that can happen to the daemon. -/
inductive Action (σ : Type) where
  | proceed
  | signal
  | system (action : RadioLifecycle.Action σ)

def signal (s : Session σ) : Session σ :=
  { s with signalled := true }

/-- The daemon after an action, if the action is possible. -/
def act? (lib : Library σ) (s : Session σ) : Action σ → Option (Session σ)
  | .proceed => s.step?
  | .signal => some s.signal
  | .system action => (s.system.act? lib audience action).map fun system => { s with system }

/-- The daemon after a run, if every action of it is possible in its turn. -/
def replay? (lib : Library σ) : List (Action σ) → Session σ → Option (Session σ)
  | [], s => some s
  | action :: rest, s => (s.act? lib action).bind (replay? lib rest)

/-- Let the system do what it can by itself, and whenever it can do nothing let the main thread make
a step, until neither can do anything; do so for at most a number of steps. -/
def settle (lib : Library σ) : Nat → Session σ → Session σ
  | 0, s => s
  | limit + 1, s =>
    match s.system.step? (Task.run lib audience) with
    | some system => settle lib limit { s with system }
    | none =>
      match s.system.workFirst? lib with
      | some system => settle lib limit { s with system }
      | none =>
        match s.step? with
        | some s => settle lib limit s
        | none => s

end Session

/-- What the daemon says of an event that its listener takes. -/
def eventLine : Event → LogLine
  | .started command => ⟨.info, s!"HAL started ({command.render})"⟩
  | .startFailed command failure =>
    ⟨.error, s!"HAL failed to start ({command.render}): {failure.render}"⟩
  | .stopped command => ⟨.info, s!"HAL stopped ({command.render})"⟩
  | .reported report => ⟨.info, s!"Chip debug info: {(Portable.write report).render}"⟩

/-- What the daemon says of something that happened. -/
def entryLine? : Entry → Option LogLine
  | .delivery d => if d.subscriber = listener then some (eventLine d.event) else none
  | .visit none => some ⟨.warn, "No chip available"⟩
  | .visit (some _) | .call _ | .notice _ | .fatal _ => none

end RadioLifecycle.Daemon
