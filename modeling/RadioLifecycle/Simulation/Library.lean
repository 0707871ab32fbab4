import RadioLifecycle.Simulation.Behaviour
import RadioLifecycle.Vendor.Library

/-!
A vendor library in software. A thread that calls the event loop parks there until a teardown is
submitted, and on its way out it runs the completion handler of that teardown, as vendor libraries
do. The exit can be held back, and the loop can be told to end without a teardown.

A thread inside the event loop is awake until it has looked at the conditions for leaving. If they
do not hold it parks, and only a wake-up makes it look again. A call that changes these conditions
changes them first and wakes the threads afterwards. Completion handlers are named by values of a
type `τ` of the caller's choice; running one is recorded together with the session of the thread
that ran it.
-/

namespace RadioLifecycle

open Vendor (Status SessionHandle InterfaceHandle Buffer WorkerId LoopProgress Library)

namespace Simulation

/-- Where a thread stands inside the event loop. -/
inductive LoopStage (τ : Type) where
  /-- About to look at the conditions for leaving. -/
  | awake
  /-- Waiting to be woken. -/
  | parked
  /-- Past the loop, with the completion handler that it took. -/
  | leaving (handler : Option τ)
  deriving DecidableEq, Repr

structure LoopThread (τ : Type) where
  id : WorkerId
  session : SessionHandle
  stage : LoopStage τ := .awake
  deriving DecidableEq, Repr

/-- A parked thread looks at the conditions again; any other is not concerned. -/
def LoopThread.wake {τ : Type} (t : LoopThread τ) : LoopThread τ :=
  match t.stage with
  | .parked => { t with stage := .awake }
  | .awake | .leaving _ => t

structure CallCounts where
  bringUp : Nat := 0
  cleanup : Nat := 0
  eventLoop : Nat := 0
  interfaces : Nat := 0
  interfaceName : Nat := 0
  driverVersion : Nat := 0
  firmwareVersion : Nat := 0
  deriving DecidableEq, Repr

end Simulation

open Simulation

structure Simulation (τ : Type) where
  behaviour : Behaviour
  nextHandle : UInt64 := 1
  /-- A teardown has been submitted since the library was last brought up. -/
  cleanupRequested : Bool := false
  /-- The event loop does not end for a teardown as long as this holds. -/
  exitHeld : Bool := false
  /-- The event loop is to end without a teardown. -/
  terminated : Bool := false
  /-- Set by a thread that enters the event loop and cleared by one that leaves it. -/
  inLoop : Bool := false
  /-- The completion handler of the teardown submitted last. -/
  handler : Option τ := none
  threads : List (LoopThread τ) := []
  /-- The handlers that have run, earliest first, each with the session it was given. -/
  completions : List (τ × SessionHandle) := []
  calls : CallCounts := {}
  deriving DecidableEq, Repr

namespace Simulation

variable {τ : Type}

def wakeAll (s : Simulation τ) : Simulation τ :=
  { s with threads := s.threads.map LoopThread.wake }

/-- Bring the library up. A success begins a session under a fresh handle and forgets what was
requested for the one before; a failure changes nothing but the count. -/
def bringUp (s : Simulation τ) : Except Status SessionHandle × List Notice × Simulation τ :=
  let s := { s with calls.bringUp := s.calls.bringUp + 1 }
  match s.behaviour.bringUpError with
  | some status => (.error status, [.simulationRefused status], s)
  | none =>
    let session : SessionHandle := ⟨s.nextHandle⟩
    (.ok session, [.simulationReady session s.behaviour.interfaces.length],
      { s with
        nextHandle := s.nextHandle + 1
        cleanupRequested := false
        terminated := false
        handler := none })

/-- Take a teardown and its completion handler, which takes the place of one that has not been taken
yet. Parked threads do not learn of it by this alone. -/
def requestCleanup (handler : τ) (s : Simulation τ) : Simulation τ :=
  { s with
    calls.cleanup := s.calls.cleanup + 1
    cleanupRequested := true
    handler := some handler }

/-- Submit a teardown with its completion handler. -/
def cleanup (handler : τ) (s : Simulation τ) : Simulation τ :=
  (s.requestCleanup handler).wakeAll

/-- Keep threads in the event loop although a teardown is submitted. -/
def hold (s : Simulation τ) : Simulation τ :=
  { s with exitHeld := true }

/-- No longer keep threads in the event loop. Parked threads do not learn of it by this alone. -/
def allowExit (s : Simulation τ) : Simulation τ :=
  { s with exitHeld := false }

/-- Let threads leave the event loop again. -/
def release (s : Simulation τ) : Simulation τ :=
  s.allowExit.wakeAll

/-- Ask for the end of the event loop. Parked threads do not learn of it by this alone. -/
def requestEnd (s : Simulation τ) : Simulation τ :=
  { s with terminated := true }

/-- Let threads leave the event loop without a teardown. -/
def terminate (s : Simulation τ) : Simulation τ :=
  s.requestEnd.wakeAll

def enterLoop (id : WorkerId) (session : SessionHandle) (s : Simulation τ) : Simulation τ :=
  { s with
    calls.eventLoop := s.calls.eventLoop + 1
    inLoop := true
    threads := s.threads ++ [{ id, session }] }

/-- Whether a thread that looks now leaves the event loop. -/
def mayLeave (s : Simulation τ) : Bool :=
  s.terminated || s.cleanupRequested && !s.exitHeld

def setStage (id : WorkerId) (stage : LoopStage τ) (s : Simulation τ) : Simulation τ :=
  { s with threads := s.threads.map fun t => if t.id = id then { t with stage } else t }

/-- A thread inside the event loop runs on: awake, it leaves and takes the completion handler or
parks; past the loop, it runs what it took and returns. -/
def runLoop (id : WorkerId) (s : Simulation τ) : LoopProgress × Simulation τ :=
  match s.threads.find? (·.id = id) with
  | none => (.waiting, s)
  | some thread =>
    match thread.stage with
    | .parked => (.waiting, s)
    | .awake =>
      if s.mayLeave then
        (.running, { s with inLoop := false, handler := none }.setStage id (.leaving s.handler))
      else (.running, s.setStage id .parked)
    | .leaving handler =>
      (.returned,
        { s with
          threads := s.threads.filter (·.id ≠ id)
          completions := s.completions ++ (handler.map fun h => (h, thread.session)).toList })

/-- Let every thread run on, one after the other, until it waits or has returned. Two steps are
enough for each, since a thread that leaves wakes no other. -/
def settle (s : Simulation τ) : Simulation τ :=
  s.threads.foldl (fun s thread => (runLoop thread.id (runLoop thread.id s).2).2) s

/-- The interface that a handle names. Handles count the configured interfaces from one. -/
def interface? (s : Simulation τ) (h : InterfaceHandle) : Option Interface :=
  match h.raw.toNat with
  | 0 => none
  | position + 1 => s.behaviour.interfaces[position]?

/-- The handles of all configured interfaces, in their order. -/
def handles (s : Simulation τ) : List InterfaceHandle :=
  (List.range s.behaviour.interfaces.length).map fun position => ⟨UInt64.ofNat (position + 1)⟩

def interfaces (_ : SessionHandle) (s : Simulation τ) :
    Except Status (List InterfaceHandle) × Simulation τ :=
  let s := { s with calls.interfaces := s.calls.interfaces + 1 }
  match s.behaviour.enumerationError with
  | some status => (.error status, s)
  | none => (.ok s.handles, s)

def interfaceName (h : InterfaceHandle) (s : Simulation τ) : Except Status String × Simulation τ :=
  let s := { s with calls.interfaceName := s.calls.interfaceName + 1 }
  match s.interface? h with
  | none => (.error .invalidArgs, s)
  | some interface =>
    match interface.nameError with
    | some status => (.error status, s)
    | none => (.ok interface.name, s)

/-- The answer to a version query. A handle that names no interface is refused before anything
else, and a refusal leaves the buffer as it is. -/
def versionAnswer (s : Simulation τ) (h : InterfaceHandle) (error : Option Status)
    (version : String) (buffer : Buffer) : Except Status Unit × Buffer :=
  match s.interface? h, error with
  | none, _ => (.error .invalidArgs, buffer)
  | some _, some status => (.error status, buffer)
  | some _, none => (.ok (), (buffer.write version).2)

def driverVersion (h : InterfaceHandle) (buffer : Buffer) (s : Simulation τ) :
    Except Status Unit × Buffer × Simulation τ :=
  let s := { s with calls.driverVersion := s.calls.driverVersion + 1 }
  let (outcome, buffer) :=
    s.versionAnswer h s.behaviour.driverVersionError s.behaviour.driverVersion buffer
  (outcome, buffer, s)

def firmwareVersion (h : InterfaceHandle) (buffer : Buffer) (s : Simulation τ) :
    Except Status Unit × Buffer × Simulation τ :=
  let s := { s with calls.firmwareVersion := s.calls.firmwareVersion + 1 }
  let (outcome, buffer) :=
    s.versionAnswer h s.behaviour.firmwareVersionError s.behaviour.firmwareVersion buffer
  (outcome, buffer, s)

/-- The simulated library. The completion handler of a teardown is named by the session for which
the teardown was submitted. -/
def library : Library (Simulation SessionHandle) where
  name := Defaults.vendorName
  version := Defaults.version
  bringUp := bringUp
  cleanup := cleanup
  enterLoop := enterLoop
  runLoop := runLoop
  interfaces := interfaces
  interfaceName := interfaceName
  driverVersion := driverVersion
  firmwareVersion := firmwareVersion

end Simulation

end RadioLifecycle
