import RadioLifecycle.Controller.Basic
import RadioLifecycle.Vendor.Lookup

/-!
Starting a session. The vendor library is brought up, a worker is spawned for its event loop, and
the chip behind the configured interface is bound if that interface is found. Subscribers are told
the outcome: a start succeeds when the library comes up, with or without a chip, and a start of a
session that runs already succeeds at once. A worker is taken to get its thread whenever it is
spawned; what a start does when the machine refuses one is left out.
-/

namespace RadioLifecycle

open Vendor (Library SessionHandle InterfaceHandle findInterface)

/-- The action whose failure a start reports. -/
def bringUpDescription : String := "Failed to initialize HAL"

/-- The failure of a start that comes while a teardown is in progress. -/
def stoppingFailure : StartFailure := ⟨.notAvailable, "HAL is stopping"⟩

/-- The controller of a session that has just come up. -/
def Controller.sessionOpened (c : Controller) (session : Session) (runner : Vendor.WorkerId) :
    Controller :=
  { c with session, runner := some runner, phase := .started }

/-- The controller after the chip behind an interface was bound. -/
def Controller.chipBound (c : Controller) (interface : InterfaceHandle) : Controller :=
  { c with chip := some { id := ⟨c.nextChip⟩, interface }, nextChip := c.nextChip + 1 }

namespace Radio

variable {σ : Type}

/-- Bind the chip behind an interface of the session. -/
def bindChip (r : Radio σ) (interface : InterfaceHandle) : Radio σ :=
  { r with controller := r.controller.chipBound interface }.note
    (.chipBound ⟨r.controller.nextChip⟩ r.controller.interface)

/-- Look the configured interface up and bind its chip, if there is one. -/
def bindConfiguredChip (lib : Library σ) (r : Radio σ) (session : SessionHandle) : Radio σ :=
  match findInterface lib session r.controller.interface r.toSurroundings with
  | (some interface, w) => (r.within w).bindChip interface
  | (none, w) => (r.within w).note (.runningWithoutChip r.controller.interface)

/-- Take a session over: spawn its worker, which is taken to succeed, and bind its chip. -/
def adoptSession (lib : Library σ) (r : Radio σ) (session : Session) (handle : SessionHandle) :
    Radio σ :=
  let controller := r.controller.sessionOpened session r.nextWorker
  { r with toCrew := r.toCrew.spawn handle, controller }.bindConfiguredChip lib handle

/-- Bring the vendor library up and take the session over, or tell why that failed. -/
def openSession (lib : Library σ) (r : Radio σ) : Except StartFailure Unit × Radio σ :=
  let r := r.note .bringingUp
  match Session.acquire lib r.toSurroundings with
  | (.error status, w) =>
    (.error (.ofStatus status bringUpDescription), (r.within w).note (.bringUpFailed status))
  | (.ok session, w) =>
    match session.handle with
    | .error e => (.error ⟨.unknown, e.message⟩, r.within w)
    | .ok handle => (.ok (), (r.within w).adoptSession lib session handle)

def start (lib : Library σ) (respond : Response) (r : Radio σ) (command : CommandId) : Radio σ :=
  match r.controller.phase with
  | .started => r.announce respond (.started command)
  | .stopping =>
    (r.note (.startRefused command)).announce respond (.startFailed command stoppingFailure)
  | .stopped =>
    match r.openSession lib with
    | (.ok (), r) => (r.note (.sessionStarted command)).announce respond (.started command)
    | (.error failure, r) => r.announce respond (.startFailed command failure)

end Radio

end RadioLifecycle
