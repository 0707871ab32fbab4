import RadioLifecycle.Format
import RadioLifecycle.Lifecycle.ChipReport
import RadioLifecycle.Lifecycle.Command
import RadioLifecycle.Lifecycle.Failure

/-!
The written forms of what clients exchange with the service. A command is its bare number; the
others are records.
-/

namespace RadioLifecycle

open Portable (required)

instance : Portable CommandId where
  read? v := (Portable.read? v).map CommandId.mk
  write c := Portable.write c.number

instance : Portable StartFailure where
  read? v := do
    match ← Format.fields? ["reason", "description"] v with
    | [category, description] => return ⟨← required category, ← required description⟩
    | _ => none
  write f :=
    .ofMembers
      [("reason", Portable.write f.category), ("description", Portable.write f.description)]

instance : Portable ChipReport where
  read? v := do
    match ← Format.fields? ["driver_description", "firmware_description"] v with
    | [driver, firmware] => return ⟨← required driver, ← required firmware⟩
    | _ => none
  write r :=
    .ofMembers
      [("driver_description", Portable.write r.driver),
        ("firmware_description", Portable.write r.firmware)]

instance : Portable ChipMode where
  read? v := do
    match ← Format.fields? ["id"] v with
    | [id] => return ⟨← required id⟩
    | _ => none
  write m := .ofMembers [("id", Portable.write m.id)]

end RadioLifecycle
