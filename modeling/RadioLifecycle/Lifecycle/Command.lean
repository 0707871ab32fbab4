/-!
Identities of commands. A client chooses one for each start and stop it submits, and every event
that answers the command carries it back.
-/

namespace RadioLifecycle

/-- The number a client gives to a start or a stop. -/
structure CommandId where
  number : UInt32
  deriving DecidableEq, Repr

def CommandId.render (c : CommandId) : String :=
  s!"cmd#{c.number.toNat}"

end RadioLifecycle
