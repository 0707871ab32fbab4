import RadioLifecycle.Log.Journal
import RadioLifecycle.Subscribers

/-!
The chip behind one interface of a session. A chip is linked to the vendor library until it is
invalidated; after that it answers nothing, calls nothing and has no subscribers. Its report names
the driver and the firmware, each of which is asked for on its own.
-/

namespace RadioLifecycle

open Vendor (Library Status InterfaceHandle Buffer)

/-- The size of the buffers that version queries fill. -/
def reportBufferSize : Nat := 256

def unknownDescription : String := "<unknown>"

/-- One chip of a session. -/
structure Chip where
  id : ChipId
  interface : InterfaceHandle
  /-- Whether the chip still refers to the vendor library. -/
  linked : Bool := true
  subscribers : Subscribers SubscriberId := .empty
  deriving DecidableEq, Repr

namespace Chip

variable {σ : Type}

/-- Whether the chip still takes requests. -/
def isValid (c : Chip) : Bool :=
  c.linked

/-- Give up the link to the library and forget all subscribers. -/
def invalidate (c : Chip) (w : Surroundings σ) : Chip × Surroundings σ :=
  ({ c with linked := false, subscribers := c.subscribers.clear },
    if c.linked then w.note (.chipInvalidated c.id) else w)

/-- Add a subscriber, unless the chip is invalid or has it already. -/
def register (c : Chip) (s : SubscriberId) : Bool × Chip :=
  if c.isValid then
    let (added, subscribers) := c.subscribers.register s
    (added, { c with subscribers })
  else (false, c)

/-- Remove a subscriber, unless the chip is invalid or does not have it. -/
def unregister (c : Chip) (s : SubscriberId) : Bool × Chip :=
  if c.isValid then
    let (removed, subscribers) := c.subscribers.unregister s
    (removed, { c with subscribers })
  else (false, c)

/-- The description that a version query left in its buffer, or the notice of its failure. -/
def description (answer : Except Status Unit × Buffer × Surroundings σ)
    (failed : Status → Notice) : String × Surroundings σ :=
  match answer with
  | (.ok (), buffer, w) => (buffer.read, w)
  | (.error status, _, w) => (unknownDescription, w.note (failed status))

/-- Ask the library for driver and firmware, the second whatever became of the first, and hand the
report to every subscriber. An invalid chip reports nothing; neither does a chip whose library
nobody else keeps alive, for a chip's link alone does not. -/
def requestReport (lib : Library σ) (respond : Response) (alive : Bool) (c : Chip)
    (w : Surroundings σ) : Option ChipReport × Surroundings σ :=
  if c.linked && alive then
    let (driver, w) :=
      description (w.driverVersion lib c.interface (.zeroed reportBufferSize)) .driverVersionFailed
    let (firmware, w) :=
      description (w.firmwareVersion lib c.interface (.zeroed reportBufferSize))
        .firmwareVersionFailed
    let event := Event.reported ⟨driver, firmware⟩
    let (_, w) := c.subscribers.broadcast event.name
      (fun s w => w.deliver respond ⟨s, event⟩) Surroundings.note w
    (some ⟨driver, firmware⟩, w)
  else (none, w)

/-- The modes of the chip. It advertises none. -/
def modes (_ : Chip) : List ChipMode := []

/-- The mode the chip is in. It has only this one. -/
def mode (_ : Chip) : UInt32 := 0

/-- What a client can ask of a chip. -/
inductive Request where
  | id
  | isValid
  | register (subscriber : SubscriberId)
  | unregister (subscriber : SubscriberId)
  | invalidate
  | report
  | modes
  /-- Configure a mode. Modes cannot be switched, so nothing comes of it. -/
  | configure (mode : UInt32)
  | mode
  deriving DecidableEq, Repr

inductive Answer where
  | done
  | id (id : ChipId)
  | flag (flag : Bool)
  | report (report : Option ChipReport)
  | modes (modes : List ChipMode)
  | mode (mode : UInt32)
  deriving DecidableEq, Repr

def perform (lib : Library σ) (respond : Response) (alive : Bool) (c : Chip) (r : Request)
    (w : Surroundings σ) : Answer × Chip × Surroundings σ :=
  match r with
  | .id => (.id c.id, c, w)
  | .isValid => (.flag c.isValid, c, w)
  | .register s => let (added, c) := c.register s; (.flag added, c, w)
  | .unregister s => let (removed, c) := c.unregister s; (.flag removed, c, w)
  | .invalidate => let (c, w) := c.invalidate w; (.done, c, w)
  | .report => let (report, w) := c.requestReport lib respond alive w; (.report report, c, w)
  | .modes => (.modes c.modes, c, w)
  | .configure _ => (.done, c, w)
  | .mode => (.mode c.mode, c, w)

end Chip

end RadioLifecycle
