import RadioLifecycle.Vendor.Status

/-!
Reasons for a failed start, as subscribers are told them. A vendor status maps to one of four
categories. A status without a category of its own is unclassified; if it is likely to pass, the
description keeps the attempted action and names the cause.
-/

namespace RadioLifecycle

open Vendor (Status)

inductive FailureCategory where
  | unknown
  | notAvailable
  | notSupported
  | invalidArgs
  deriving DecidableEq, Repr

namespace FailureCategory

instance : Named FailureCategory where
  all := [unknown, notAvailable, notSupported, invalidArgs]
  name
    | unknown => "UNKNOWN"
    | notAvailable => "NOT_AVAILABLE"
    | notSupported => "NOT_SUPPORTED"
    | invalidArgs => "INVALID_ARGS"
  find_name a := by cases a <;> decide

def render : FailureCategory → String
  | unknown => "Unknown"
  | notAvailable => "NotAvailable"
  | notSupported => "NotSupported"
  | invalidArgs => "InvalidArgs"

end FailureCategory

structure StartFailure where
  category : FailureCategory
  description : String
  deriving DecidableEq, Repr

namespace StartFailure

/-- The failure that a vendor status means for the action described. -/
def ofStatus (status : Status) (description : String) : StartFailure :=
  match status with
  | .uninitialized | .notAvailable => ⟨.notAvailable, description⟩
  | .notSupported => ⟨.notSupported, description⟩
  | .invalidArgs | .invalidRequestId => ⟨.invalidArgs, description⟩
  | .timedOut => ⟨.unknown, description ++ ", timed out"⟩
  | .tooManyRequests => ⟨.unknown, description ++ ", too many requests"⟩
  | .outOfMemory => ⟨.unknown, description ++ ", out of memory"⟩
  | .unknown | .busy => ⟨.unknown, "unknown"⟩

def render (f : StartFailure) : String :=
  s!"{f.category.render}: {f.description}"

end StartFailure

end RadioLifecycle
