/-!
What clients learn about a chip: its identity, its modes and the descriptions of its driver and its
firmware.
-/

namespace RadioLifecycle

/-- The identity of a chip. Each chip that is bound gets the next number. -/
structure ChipId where
  number : UInt64
  deriving DecidableEq, Repr

def ChipId.render (c : ChipId) : String :=
  s!"chip#{c.number.toNat}"

/-- The descriptions of a chip's driver and firmware. -/
structure ChipReport where
  driver : String
  firmware : String
  deriving DecidableEq, Repr

/-- One mode that a chip can be configured into. -/
structure ChipMode where
  id : UInt32
  deriving DecidableEq, Repr

end RadioLifecycle
