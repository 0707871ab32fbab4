import RadioLifecycle.Lifecycle.Phase

/-!
Errors of the plumbing around the control plane. Vendor failures that have a way back are told to
subscribers instead and never appear here.
-/

namespace RadioLifecycle

/-- Why an operation of the service could not be carried out. -/
inductive ServiceError where
  /-- The control thread has ended and runs no more tasks. -/
  | controlThreadGone
  /-- A query that waits for the control thread was issued on that thread. -/
  | reentrantCall
  /-- The vendor session was used after its handle had been given up. -/
  | handleReleased
  | vendorNotFound (name : String)
  | vendorCreation (detail : String)
  | threadRefused (detail : String)
  deriving DecidableEq, Repr

def ServiceError.message : ServiceError → String
  | .controlThreadGone => "Control thread is not running"
  | .reentrantCall => "Synchronous call issued from the control thread"
  | .handleReleased => "Vendor handle already released"
  | .vendorNotFound name => s!"Vendor not found: {name}"
  | .vendorCreation detail => s!"Vendor initialization failed: {detail}"
  | .threadRefused detail => s!"Failed to spawn thread: {detail}"

/-- What is said when a vendor event loop ends although no teardown is in progress. There is no way
back from it: the control thread ends. -/
def loopTerminatedMessage (phase : Phase) : String :=
  s!"HAL event loop terminated, but HAL was not stopping (state: {phase.render})"

end RadioLifecycle
