import RadioLifecycle.Controller.Start
import RadioLifecycle.Controller.Stop

/-!
What clients can have the control thread do with the controller, and what it answers.
-/

namespace RadioLifecycle

open Vendor (Library)

/-- Something to be done with the controller. A chip that is named by no identity is the chip of the
session. -/
inductive Command where
  | start (command : CommandId)
  | stop (command : CommandId)
  | phase
  | isStarted
  | teardown
  | currentChip
  | hasChip (chip : Option ChipId)
  | subscribe (subscriber : SubscriberId)
  | unsubscribe (subscriber : SubscriberId)
  | onChip (chip : Option ChipId) (request : Chip.Request)
  deriving DecidableEq, Repr

inductive Answer where
  | done
  | flag (flag : Bool)
  | phase (phase : Phase)
  | teardown (teardown : Teardown)
  | chip (chip : Option ChipId)
  /-- What the chip answered, if there is a valid one of that identity. -/
  | ofChip (answer : Option Chip.Answer)
  deriving DecidableEq, Repr

namespace Controller

/-- The valid chip that is meant by an identity, or by none. -/
def meantChip? (c : Controller) (chip : Option ChipId) : Option Chip :=
  (chip.or c.currentChip).bind c.liveChip?

def subscribe (c : Controller) (s : SubscriberId) : Bool × Controller :=
  let (added, subscribers) := c.subscribers.register s
  (added, { c with subscribers })

def unsubscribe (c : Controller) (s : SubscriberId) : Bool × Controller :=
  let (removed, subscribers) := c.subscribers.unregister s
  (removed, { c with subscribers })

end Controller

namespace Radio

variable {σ : Type}

/-- Carry out a request on a valid chip. Nothing happens if there is none of that identity. -/
def onChip (lib : Library σ) (respond : Response) (r : Radio σ) (chip : Option ChipId)
    (request : Chip.Request) : Option Chip.Answer × Radio σ :=
  match r.controller.meantChip? chip with
  | none => (none, r)
  | some chip =>
    let (answer, chip, w) := chip.perform lib respond true request r.toSurroundings
    (some answer, { r.within w with controller.chip := some chip })

def perform (lib : Library σ) (respond : Response) (r : Radio σ) : Command → Answer × Radio σ
  | .start command => (.done, r.start lib respond command)
  | .stop command => (.done, r.stop lib respond command)
  | .phase => (.phase r.controller.phase, r)
  | .isStarted => (.flag r.controller.isStarted, r)
  | .teardown => (.teardown r.controller.teardown, r)
  | .currentChip => (.chip r.controller.currentChip, r)
  | .hasChip chip => (.flag (r.controller.meantChip? chip).isSome, r)
  | .subscribe s =>
    let (added, controller) := r.controller.subscribe s
    (.flag added, { r with controller })
  | .unsubscribe s =>
    let (removed, controller) := r.controller.unsubscribe s
    (.flag removed, { r with controller })
  | .onChip chip request =>
    let (answer, r) := r.onChip lib respond chip request
    (.ofChip answer, r)

def performAll (lib : Library σ) (respond : Response) :
    List Command → Radio σ → List Answer × Radio σ
  | [], r => ([], r)
  | command :: rest, r =>
    let (answer, r) := r.perform lib respond command
    let (answers, r) := performAll lib respond rest r
    (answer :: answers, r)

end Radio

end RadioLifecycle
