import RadioLifecycle.Task

/-!
The whole system: the control thread with the radio as its context, its queue, and the workers. It
changes by single actions, any of which may come next: a client submits a task, the control thread
executes one, a worker makes a step, or something happens to the vendor library from outside. A run
is a list of actions, so every interleaving of the threads is one.
-/

namespace RadioLifecycle

open Vendor (Library WorkerId)

/-- The control thread of a radio. -/
abbrev System (σ : Type) := ControlThread Task (Radio σ) Reply

/-- One thing that can happen to the system. -/
inductive Action (σ : Type) where
  | submit (task : Task)
  | execute
  | work (worker : WorkerId)
  /-- The vendor library changes by itself. -/
  | disturb (change : σ → σ)

namespace System

variable {σ : Type}

/-- The system before anything happened: the controller is stopped and there is no worker. -/
def initial (vendor : σ) (interface : String) : System σ :=
  { context := { vendor, controller := { interface } } }

/-- Take over what a worker did, and queue its report if it made one. The report is lost when the
control thread has ended. -/
def afterWork (s : System σ) (worker : WorkerId) (report : Option Bool) (crew : Crew σ) :
    System σ :=
  let s := { s with context.toCrew := crew }
  match report with
  | none => s
  | some requested => (s.submit (.exitReport (some worker) requested)).2

def work? (lib : Library σ) (s : System σ) (worker : WorkerId) : Option (System σ) :=
  (s.context.toCrew.advance? lib worker).map fun (report, crew) => s.afterWork worker report crew

def disturb (s : System σ) (change : σ → σ) : System σ :=
  { s with context.vendor := change s.context.vendor }

/-- The system after an action, if the action is possible. -/
def act? (lib : Library σ) (audience : Audience) (s : System σ) : Action σ → Option (System σ)
  | .submit task => some (s.submit task).2
  | .execute => s.step? (Task.run lib audience)
  | .work worker => s.work? lib worker
  | .disturb change => some (s.disturb change)

/-- The system after a run, if every action of it is possible in its turn. -/
def replay? (lib : Library σ) (audience : Audience) : List (Action σ) → System σ → Option (System σ)
  | [], s => some s
  | action :: rest, s => (s.act? lib audience action).bind (replay? lib audience rest)

/-- Let the first worker make a step that can. -/
def workFirst? (lib : Library σ) (s : System σ) : Option (System σ) :=
  (s.context.toCrew.advanceFirst? lib).map fun (worker, report, crew) =>
    s.afterWork worker report crew

/-- Let the system run by itself until nothing is left to do, for at most a number of steps. Tasks
come before workers. -/
def settle (lib : Library σ) (audience : Audience) : Nat → System σ → System σ
  | 0, s => s
  | limit + 1, s =>
    match s.step? (Task.run lib audience) with
    | some s => settle lib audience limit s
    | none =>
      match s.workFirst? lib with
      | some s => settle lib audience limit s
      | none => s

end System

end RadioLifecycle
