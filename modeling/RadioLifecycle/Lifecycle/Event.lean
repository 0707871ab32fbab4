import RadioLifecycle.Lifecycle.ChipReport
import RadioLifecycle.Lifecycle.Command
import RadioLifecycle.Lifecycle.Failure

/-!
Events that subscribers receive, and how a subscriber's handling of one can end.
-/

namespace RadioLifecycle

/-- What happened to the radio. The first three concern the session and answer a command; the last
concerns one chip and answers a request for its report. -/
inductive Event where
  | started (command : CommandId)
  | startFailed (command : CommandId) (failure : StartFailure)
  | stopped (command : CommandId)
  | reported (report : ChipReport)
  deriving DecidableEq, Repr

def Event.name : Event → String
  | .started _ => "on_start"
  | .startFailed _ _ => "on_start_failure"
  | .stopped _ => "on_stop"
  | .reported _ => "on_chip_debug_info_available"

/-- The identity of a subscriber. Two subscribers are the same exactly when their numbers are. -/
structure SubscriberId where
  number : Nat
  deriving DecidableEq, Repr

structure Delivery where
  subscriber : SubscriberId
  event : Event
  deriving DecidableEq, Repr

/-- How a subscriber's handling of an event ends. -/
inductive Ending where
  | accepted
  /-- The subscriber's peer is gone. -/
  | disconnected
  | panicked
  deriving DecidableEq, Repr

/-- What a subscriber whose peer is gone says of it. -/
def Ending.disconnectedMessage : String := "Subscriber disconnected"

/-- How subscribers end their handling of each delivery, given all deliveries before it. Any
behaviour that depends on what subscribers were told, and in which order, has this form. -/
abbrev Response := List Delivery → Delivery → Ending

end RadioLifecycle
