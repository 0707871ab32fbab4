import RadioLifecycle.Log.Notice
import RadioLifecycle.Vendor.Buffer
import RadioLifecycle.Vendor.Handle

/-!
The function table of a vendor library. A library is given by what its entry points do to its own
state, so that an answer may depend on every earlier call; nothing else is known of it. The entry
points are called on the control thread, except for the event loop, in which a worker thread spends
a whole session.
-/

namespace RadioLifecycle.Vendor

/-- The identity of a thread that runs an event loop. -/
structure WorkerId where
  number : Nat
  deriving DecidableEq, Repr

/-- What comes of letting a thread run on inside the event loop. -/
inductive LoopProgress where
  /-- The thread waits to be woken and nothing happened. -/
  | waiting
  /-- The thread did something and is still inside. -/
  | running
  /-- The event loop returned to its caller. -/
  | returned
  deriving DecidableEq, Repr

/-- A vendor library over its own state `σ`. -/
structure Library (σ : Type) where
  name : String
  version : String
  /-- Bring the library up for a session, which its handle names from then on. -/
  bringUp : σ → Except Status SessionHandle × List Notice × σ
  /-- Submit the teardown of a session. The library finishes it later and then lets the event loop
  return. -/
  cleanup : SessionHandle → σ → σ
  /-- A thread calls the event loop for a session. -/
  enterLoop : WorkerId → SessionHandle → σ → σ
  /-- A thread inside the event loop runs on. -/
  runLoop : WorkerId → σ → LoopProgress × σ
  interfaces : SessionHandle → σ → Except Status (List InterfaceHandle) × σ
  interfaceName : InterfaceHandle → σ → Except Status String × σ
  driverVersion : InterfaceHandle → Buffer → σ → Except Status Unit × Buffer × σ
  firmwareVersion : InterfaceHandle → Buffer → σ → Except Status Unit × Buffer × σ

inductive Call where
  | bringUp (outcome : Except Status SessionHandle)
  | cleanup (session : SessionHandle)
  | eventLoop (session : SessionHandle)
  | interfaces (session : SessionHandle)
  | interfaceName (interface : InterfaceHandle)
  | driverVersion (interface : InterfaceHandle)
  | firmwareVersion (interface : InterfaceHandle)

end RadioLifecycle.Vendor
