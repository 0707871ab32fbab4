import RadioLifecycle.ControlThread
import RadioLifecycle.Controller.Basic

/-!
Stopping a session. A stop announces the teardown to the worker, submits it to the vendor library
and leaves the rest to the event loop: subscribers are told once the cleanup command has returned
and the worker has reported the end of the loop. A stop during a teardown is absorbed by the one
that began it. A loop that ends although no teardown was requested of it cannot be recovered from.
-/

namespace RadioLifecycle

open Vendor (Library)

namespace Controller

/-- The controller at the beginning of a teardown. -/
def teardownBegun (c : Controller) (command : CommandId) : Controller :=
  { c with
    phase := .stopping
    teardown := c.teardown.arm
    pendingStop := some command
    chip := none }

/-- The controller after it saw part of a teardown done. -/
def observed (c : Controller) (event : TeardownEvent) : Controller :=
  { c with teardown := c.teardown.observe event }

/-- The controller once the session is gone. -/
def sessionClosed (c : Controller) : Controller :=
  { c with phase := .stopped, session := c.session.release.2, pendingStop := none }

end Controller

namespace Radio

variable {σ : Type}

/-- Invalidate the chip of the session, announce the teardown to the worker, and remember the stop
that asked for it. -/
def beginTeardown (r : Radio σ) (command : CommandId) : Radio σ :=
  let w :=
    match r.controller.chip with
    | some chip => (chip.invalidate r.toSurroundings).2
    | none => r.toSurroundings
  let r := { r.within w with controller := r.controller.teardownBegun command }
  match r.controller.runner with
  | some worker => { r with toCrew := r.toCrew.requestTeardown worker }
  | none => r

def observe (r : Radio σ) (event : TeardownEvent) : Radio σ :=
  { r with controller := r.controller.observed event }

/-- Give the session up and tell subscribers, if nothing of its teardown is left to be done. -/
def finish (respond : Response) (r : Radio σ) : Radio σ :=
  if r.controller.phase = .stopping && r.controller.teardown.isResolved then
    let command := r.controller.pendingStop.getD ⟨0⟩
    ({ r with controller := r.controller.sessionClosed }.note .cleanupComplete).announce respond
      (.stopped command)
  else r

def stop (lib : Library σ) (respond : Response) (r : Radio σ) (command : CommandId) : Radio σ :=
  match r.controller.phase with
  | .stopped => r.announce respond (.stopped command)
  | .stopping => r
  | .started =>
    match r.controller.session.handle with
    | .error _ => r.note (.stopWithoutHandle command)
    | .ok handle =>
      let r := (r.note (.cleaningUp command)).beginTeardown command
      let r := r.within (r.toSurroundings.cleanup lib handle)
      (r.observe .cleanupReturned).finish respond

/-- Report that the event loop ended although no teardown was in progress. The end of a loop of
which none had been requested is put down to the running session, even if a stop came since. -/
def abandon (r : Radio σ) (requested : Bool) : Radio σ :=
  let phase := if requested then r.controller.phase else .started
  let r := r.note (.loopTerminated phase)
  r.within (r.toSurroundings.enter (.fatal phase))

/-- Take a worker's report that the event loop has ended, with what the worker saw of a teardown
request. An end without a request, or without a teardown, ends the control thread. -/
def onLoopExited (respond : Response) (r : Radio σ) (requested : Bool) : Verdict × Radio σ :=
  if requested && r.controller.phase = .stopping then
    let r := { r with controller.runner := none }
    (.proceed, (r.observe .loopEnded).finish respond)
  else (.halt, r.abandon requested)

end Radio

end RadioLifecycle
