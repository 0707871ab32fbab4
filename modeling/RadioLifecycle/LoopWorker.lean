import RadioLifecycle.Log.Journal

/-!
Threads that spend a session inside the vendor's event loop. A worker calls the event loop, and when
the loop returns it looks whether a teardown had been requested of it and reports what it saw. The
four steps are apart from each other, so anything may happen between them; in particular a request
that is made after the loop returned and before the worker looks is still seen.
-/

namespace RadioLifecycle

open Vendor (Library SessionHandle WorkerId)

/-- Where a worker stands. -/
inductive WorkerStage where
  /-- It has not called the event loop yet. -/
  | spawned
  | inLoop
  | returned
  /-- It has looked whether a teardown was requested, and has not reported it yet. -/
  | sampled (requested : Bool)
  /-- It has reported, and is gone. -/
  | finished
  deriving DecidableEq, Repr

/-- The worker of one session. -/
structure Worker where
  id : WorkerId
  session : SessionHandle
  /-- The flag by which the control thread announces a teardown to the worker. -/
  teardownRequested : Bool := false
  stage : WorkerStage := .spawned
  deriving DecidableEq, Repr

namespace Worker

variable {σ : Type}

/-- Make one step, unless the worker is gone or waits inside the event loop. The first result is
what the worker reports, if this was the step in which it does. -/
def advance? (lib : Library σ) (worker : Worker) (w : Surroundings σ) :
    Option (Option Bool × Worker × Surroundings σ) :=
  match worker.stage with
  | .spawned =>
    some (none, { worker with stage := .inLoop }, w.enterLoop lib worker.id worker.session)
  | .inLoop =>
    match w.runLoop lib worker.id with
    | (.waiting, _) => none
    | (.running, w) => some (none, worker, w)
    | (.returned, w) => some (none, { worker with stage := .returned }, w)
  | .returned => some (none, { worker with stage := .sampled worker.teardownRequested }, w)
  | .sampled requested => some (some requested, { worker with stage := .finished }, w)
  | .finished => none

/-- Whether the worker still has something to report. -/
def isOutstanding (worker : Worker) : Bool :=
  decide (worker.stage ≠ .finished)

end Worker

/-- The vendor library and the journal together with all workers there have been. -/
structure Crew (σ : Type) extends Surroundings σ where
  /-- Each worker in the order in which they were spawned. -/
  workers : List Worker := []

namespace Crew

variable {σ : Type}

/-- The identity of the worker spawned next. -/
def nextWorker (c : Crew σ) : WorkerId :=
  ⟨c.workers.length⟩

def spawn (c : Crew σ) (session : SessionHandle) : Crew σ :=
  { c with workers := c.workers ++ [{ id := c.nextWorker, session }] }

def requestTeardown (c : Crew σ) (id : WorkerId) : Crew σ :=
  { c with
    workers := c.workers.map fun worker =>
      if worker.id = id then { worker with teardownRequested := true } else worker }

/-- Let one worker make a step, if it can. The first result is what it reports. -/
def advance? (lib : Library σ) (c : Crew σ) (id : WorkerId) : Option (Option Bool × Crew σ) :=
  match c.workers.find? (·.id = id) with
  | none => none
  | some worker =>
    match worker.advance? lib c.toSurroundings with
    | none => none
    | some (report, worker, w) =>
      some (report,
        { w with workers := c.workers.map fun other => if other.id = id then worker else other })

/-- The first worker that can make a step, with what comes of it. -/
def advanceFirst? (lib : Library σ) (c : Crew σ) : Option (WorkerId × Option Bool × Crew σ) :=
  c.workers.findSome? fun worker =>
    (c.advance? lib worker.id).map fun (report, c) => (worker.id, report, c)

/-- Let the workers run until none can make a step, for at most a number of steps. The first result
is what they reported, in order. -/
def settle (lib : Library σ) : Nat → Crew σ → List (WorkerId × Bool) × Crew σ
  | 0, c => ([], c)
  | limit + 1, c =>
    match c.advanceFirst? lib with
    | none => ([], c)
    | some (worker, report, c) =>
      let (reports, c) := settle lib limit c
      ((report.map fun requested => (worker, requested)).toList ++ reports, c)

end Crew

end RadioLifecycle
