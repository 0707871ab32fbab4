/-!
The two conditions of a teardown. A stop arms them; the vendor's cleanup command clears one when it
returns and the end of the event loop clears the other, in either order. The teardown is resolved
once both are clear.
-/

namespace RadioLifecycle

/-- What a teardown waits for. -/
structure Teardown where
  cleanupPending : Bool := false
  loopRunning : Bool := false
  deriving DecidableEq, Repr

/-- What a teardown can be told. -/
inductive TeardownEvent where
  /-- The vendor's cleanup command has returned. -/
  | cleanupReturned
  /-- The event loop has ended. -/
  | loopEnded
  deriving DecidableEq, Repr

namespace Teardown

/-- Wait for both conditions, whatever was seen before. -/
def arm (_ : Teardown) : Teardown :=
  ⟨true, true⟩

/-- Clear the condition that an event is about. -/
def observe (t : Teardown) : TeardownEvent → Teardown
  | .cleanupReturned => { t with cleanupPending := false }
  | .loopEnded => { t with loopRunning := false }

def isResolved (t : Teardown) : Bool :=
  !t.cleanupPending && !t.loopRunning

end Teardown

end RadioLifecycle
