import RadioLifecycle.Text.Named

/-!
Status codes of a vendor library. Success has no code; a call that fails reports one of these.
-/

namespace RadioLifecycle.Vendor

/-- Why a call into the vendor library failed. -/
inductive Status where
  | unknown
  | uninitialized
  | notSupported
  | notAvailable
  | invalidArgs
  | invalidRequestId
  | timedOut
  | tooManyRequests
  | outOfMemory
  | busy
  deriving DecidableEq, Repr

namespace Status

instance : Named Status where
  all := [unknown, uninitialized, notSupported, notAvailable, invalidArgs, invalidRequestId,
    timedOut, tooManyRequests, outOfMemory, busy]
  name
    | unknown => "UNKNOWN"
    | uninitialized => "UNINITIALIZED"
    | notSupported => "NOT_SUPPORTED"
    | notAvailable => "NOT_AVAILABLE"
    | invalidArgs => "INVALID_ARGS"
    | invalidRequestId => "INVALID_REQUEST_ID"
    | timedOut => "TIMED_OUT"
    | tooManyRequests => "TOO_MANY_REQUESTS"
    | outOfMemory => "OUT_OF_MEMORY"
    | busy => "BUSY"
  find_name a := by cases a <;> decide

def message : Status → String
  | unknown => "unknown error"
  | uninitialized => "uninitialized"
  | notSupported => "not supported"
  | notAvailable => "not available"
  | invalidArgs => "invalid arguments"
  | invalidRequestId => "invalid request id"
  | timedOut => "timed out"
  | tooManyRequests => "too many requests"
  | outOfMemory => "out of memory"
  | busy => "busy"

end Status

end RadioLifecycle.Vendor
