import RadioLifecycle.Chip
import RadioLifecycle.Lifecycle.Session
import RadioLifecycle.Lifecycle.Teardown
import RadioLifecycle.LoopWorker

/-!
The memory of the session state machine, and the radio: that memory together with everything the
state machine acts on. Only the control thread touches the controller.
-/

namespace RadioLifecycle

open Vendor (WorkerId)

/-- What the state machine knows of its session. -/
structure Controller where
  /-- The interface whose chip is bound when a session starts. -/
  interface : String
  phase : Phase := .stopped
  session : Session := .empty
  /-- The worker inside the event loop of the session. -/
  runner : Option WorkerId := none
  /-- The chip of the session, if its interface was found. -/
  chip : Option Chip := none
  nextChip : UInt64 := 1
  subscribers : Subscribers SubscriberId := .empty
  teardown : Teardown := {}
  /-- The stop that began the teardown in progress. -/
  pendingStop : Option CommandId := none
  deriving DecidableEq, Repr

namespace Controller

/-- Whether there is a session, be it running or in teardown. -/
def isStarted (c : Controller) : Bool :=
  decide (c.phase ≠ .stopped)

def currentChip (c : Controller) : Option ChipId :=
  c.chip.map (·.id)

/-- The chip of the session, if it is the one meant and still valid. -/
def liveChip? (c : Controller) (id : ChipId) : Option Chip :=
  c.chip.filter fun chip => chip.id = id && chip.isValid

end Controller

/-- The controller together with the vendor library, the journal and the workers. -/
structure Radio (σ : Type) extends Crew σ where
  controller : Controller

namespace Radio

variable {σ : Type}

/-- The radio after something happened to its surroundings alone. -/
def within (r : Radio σ) (w : Surroundings σ) : Radio σ :=
  { r with toSurroundings := w }

def note (r : Radio σ) (n : Notice) : Radio σ :=
  r.within (r.toSurroundings.note n)

/-- Hand an event to all subscribers of the session. -/
def announce (r : Radio σ) (respond : Response) (event : Event) : Radio σ :=
  let (_, w) := r.controller.subscribers.broadcast event.name
    (fun s w => w.deliver respond ⟨s, event⟩) Surroundings.note r.toSurroundings
  r.within w

end Radio

end RadioLifecycle
