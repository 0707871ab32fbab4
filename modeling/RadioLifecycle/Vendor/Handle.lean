import RadioLifecycle.Text.Decimal

/-!
Tokens that a vendor library issues. They are opaque to the control plane, which stores them, hands
them back and shows them in messages, and does nothing else with them.
-/

namespace RadioLifecycle.Vendor

/-- The token of one vendor session, issued when the library is brought up. -/
structure SessionHandle where
  raw : UInt64
  deriving DecidableEq, Repr

/-- The token of one network interface known to the library. -/
structure InterfaceHandle where
  raw : UInt64
  deriving DecidableEq, Repr

def SessionHandle.render (h : SessionHandle) : String :=
  s!"wifi_handle(0x{Decimal.hex h.raw.toNat})"

def InterfaceHandle.render (h : InterfaceHandle) : String :=
  s!"iface_handle(0x{Decimal.hex h.raw.toNat})"

end RadioLifecycle.Vendor
