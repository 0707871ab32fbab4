import RadioLifecycle.Lifecycle.Event
import RadioLifecycle.Log.Level
import RadioLifecycle.ServiceError
import RadioLifecycle.Vendor.Handle

/-!
What the control plane has to say while it works. Each notice is a fact with its level and its
wording; the log is the list of notices in the order in which they arose.
-/

namespace RadioLifecycle

open Vendor (Status SessionHandle InterfaceHandle)

/-- A fact worth a line in the log. -/
inductive Notice where
  | bringingUp
  | bringUpFailed (status : Status)
  | sessionStarted (command : CommandId)
  | startRefused (command : CommandId)
  | cleaningUp (command : CommandId)
  | stopWithoutHandle (command : CommandId)
  | cleanupComplete
  | loopTerminated (phase : Phase)
  | chipBound (chip : ChipId) (interface : String)
  | chipInvalidated (chip : ChipId)
  | runningWithoutChip (interface : String)
  | enumerationFailed (session : SessionHandle) (status : Status)
  | interfaceNameFailed (interface : InterfaceHandle) (status : Status)
  | interfaceNotFound (interface : String)
  | driverVersionFailed (status : Status)
  | firmwareVersionFailed (status : Status)
  | subscriberDisconnected (event : String)
  | subscriberPanicked (event : String)
  | vendorCreated (name version : String)
  | simulationReady (session : SessionHandle) (interfaces : Nat)
  | simulationRefused (status : Status)
  deriving DecidableEq, Repr

namespace Notice

def level : Notice → LogLevel
  | bringUpFailed _ | stopWithoutHandle _ | loopTerminated _ | subscriberPanicked _ => .error
  | startRefused _ | runningWithoutChip _ | enumerationFailed _ _ | interfaceNameFailed _ _
  | interfaceNotFound _ | driverVersionFailed _ | firmwareVersionFailed _
  | subscriberDisconnected _ | simulationRefused _ => .warn
  | bringingUp | sessionStarted _ | cleaningUp _ | cleanupComplete | chipBound _ _
  | chipInvalidated _ | vendorCreated _ _ | simulationReady _ _ => .info

def text : Notice → String
  | bringingUp => "Initializing HAL"
  | bringUpFailed status => s!"Failed to initialize HAL: {status.message}"
  | sessionStarted command => s!"HAL started ({command.render})"
  | startRefused command => s!"start {command.render}: HAL is stopping"
  | cleaningUp command => s!"Cleaning up HAL ({command.render})"
  | stopWithoutHandle command => s!"stop {command.render}: {ServiceError.handleReleased.message}"
  | cleanupComplete => "HAL cleanup complete"
  | loopTerminated phase => loopTerminatedMessage phase
  | chipBound chip interface => s!"Bound {chip.render} to interface '{interface}'"
  | chipInvalidated chip => s!"Invalidated {chip.render}"
  | runningWithoutChip interface => s!"Interface '{interface}' not found, running without a chip"
  | enumerationFailed session status =>
    s!"Failed to enumerate interfaces of {session.render}: {status.message}"
  | interfaceNameFailed interface status =>
    s!"Failed to get name of {interface.render}: {status.message}"
  | interfaceNotFound interface => s!"Interface '{interface}' not found"
  | driverVersionFailed status => s!"Failed to get driver version: {status.message}"
  | firmwareVersionFailed status => s!"Failed to get firmware version: {status.message}"
  | subscriberDisconnected event =>
    s!"Subscriber failed to handle {event}: {Ending.disconnectedMessage}"
  | subscriberPanicked event => s!"Subscriber panicked while handling {event}"
  | vendorCreated name version => s!"Created vendor: {name} v{version}"
  | simulationReady session interfaces =>
    s!"Simulated vendor initialized {session.render} with {interfaces} interfaces"
  | simulationRefused status => s!"Simulated initialize failing with {status.message}"

def line (n : Notice) : LogLine :=
  ⟨n.level, n.text⟩

end Notice

end RadioLifecycle
