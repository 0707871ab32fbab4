import RadioLifecycle.Defaults
import RadioLifecycle.Vendor.Status

/-!
How the simulated vendor library behaves: which interfaces it lists, what it says of its driver and
its firmware, and which of its entry points fail.
-/

namespace RadioLifecycle.Simulation

open Vendor (Status)

/-- One simulated interface: its name, and the status with which it refuses to tell it, if it
does. -/
structure Interface where
  name : String
  nameError : Option Status := none
  deriving DecidableEq, Repr

namespace Behaviour

def defaultInterfaces : List Interface := [{ name := Defaults.interfaceName }]

def defaultDriverVersion : String := s!"simulated-driver {Defaults.version}"

def defaultFirmwareVersion : String := s!"simulated-firmware {Defaults.version}"

end Behaviour

/-- The behaviour of the simulated library. An entry point without an error of its own succeeds. -/
structure Behaviour where
  interfaces : List Interface := Behaviour.defaultInterfaces
  driverVersion : String := Behaviour.defaultDriverVersion
  firmwareVersion : String := Behaviour.defaultFirmwareVersion
  bringUpError : Option Status := none
  enumerationError : Option Status := none
  driverVersionError : Option Status := none
  firmwareVersionError : Option Status := none
  deriving DecidableEq, Repr

end RadioLifecycle.Simulation
