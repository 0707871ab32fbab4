import RadioLifecycle.Format
import RadioLifecycle.Simulation.Behaviour

/-!
The written form of the simulated library's behaviour. Each field has a default of its own for when
it is left out, except that an interface has to have a name.
-/

namespace RadioLifecycle.Simulation

open Portable (required defaulted nullable writeOption)

instance : Portable Interface where
  read? v := do
    match ← Format.fields? ["name", "name_error"] v with
    | [name, nameError] => return ⟨← required name, ← nullable nameError⟩
    | _ => none
  write i :=
    .ofMembers [("name", Portable.write i.name), ("name_error", writeOption i.nameError)]

namespace Behaviour

/-- The names of the fields in their order. -/
def fieldNames : List String :=
  ["interfaces", "driver_version", "firmware_version", "init_error", "enumeration_error",
    "driver_version_error", "firmware_version_error"]

instance : Portable Behaviour where
  read? v := do
    match ← Format.fields? fieldNames v with
    | [interfaces, driver, firmware, bringUp, enumeration, driverError, firmwareError] =>
      return {
        interfaces := ← defaulted defaultInterfaces interfaces
        driverVersion := ← defaulted defaultDriverVersion driver
        firmwareVersion := ← defaulted defaultFirmwareVersion firmware
        bringUpError := ← nullable bringUp
        enumerationError := ← nullable enumeration
        driverVersionError := ← nullable driverError
        firmwareVersionError := ← nullable firmwareError }
    | _ => none
  write b :=
    .ofMembers
      [("interfaces", Portable.write b.interfaces),
        ("driver_version", Portable.write b.driverVersion),
        ("firmware_version", Portable.write b.firmwareVersion),
        ("init_error", writeOption b.bringUpError),
        ("enumeration_error", writeOption b.enumerationError),
        ("driver_version_error", writeOption b.driverVersionError),
        ("firmware_version_error", writeOption b.firmwareVersionError)]

end Behaviour

end RadioLifecycle.Simulation
