import RadioLifecycle.System

/-!
The service as its clients see it. Commands are submitted and answered by events; queries wait for
the control thread; a handle names one chip, and once that chip is gone every operation through it
does nothing and every query gives a default. Shutting down ends the control thread after
everything submitted before, and shutting down again does nothing.
-/

namespace RadioLifecycle

open Vendor (Library)

structure Service (σ : Type) where
  system : System σ
  /-- Whether somebody has waited for the end of the control thread. -/
  joined : Bool := false

namespace Service

variable {σ : Type} (lib : Library σ) (audience : Audience)

/-- The service for an interface, before anything happened. -/
def spawn (vendor : σ) (interface : String) : Service σ :=
  { system := .initial vendor interface }

def post (s : Service σ) (task : Task) : Except ServiceError Unit × Service σ :=
  let (outcome, system) := s.system.submit task
  (outcome.map fun _ => (), { s with system })

def query (s : Service σ) (origin : Origin) (task : Task) : Except ServiceError Reply × Service σ :=
  let (outcome, system) := s.system.call (Task.run lib audience) origin task
  (outcome, { s with system })

def command (s : Service σ) (c : Command) : Except ServiceError Unit × Service σ :=
  s.post (.perform [c])

/-- Ask for the answer to one command, and read it. -/
def ask {α : Type} (s : Service σ) (origin : Origin) (c : Command) (read : Answer → Option α)
    (otherwise : α) : Except ServiceError α × Service σ :=
  let (outcome, s) := s.query lib audience origin (.perform [c])
  (outcome.map fun
    | .answers [answer] => (read answer).getD otherwise
    | _ => otherwise, s)

def start (s : Service σ) (c : CommandId) : Except ServiceError Unit × Service σ :=
  s.command (.start c)

def stop (s : Service σ) (c : CommandId) : Except ServiceError Unit × Service σ :=
  s.command (.stop c)

def subscribe (s : Service σ) (subscriber : SubscriberId) : Except ServiceError Unit × Service σ :=
  s.command (.subscribe subscriber)

def unsubscribe (s : Service σ) (subscriber : SubscriberId) :
    Except ServiceError Unit × Service σ :=
  s.command (.unsubscribe subscriber)

/-- Whether there is a session, be it running or in teardown. -/
def isStarted (s : Service σ) (origin : Origin) : Except ServiceError Bool × Service σ :=
  s.ask lib audience origin .isStarted (fun | .flag b => some b | _ => none) false

def phase (s : Service σ) (origin : Origin) : Except ServiceError Phase × Service σ :=
  s.ask lib audience origin .phase (fun | .phase p => some p | _ => none) .stopped

/-- A handle to the chip of the session, if there is one. -/
def chip (s : Service σ) (origin : Origin) : Except ServiceError (Option ChipId) × Service σ :=
  s.ask lib audience origin .currentChip (fun | .chip c => some c | _ => none) none

/-- What a query through a handle gives when the chip is gone. Other requests give nothing. -/
def defaultAnswer : Chip.Request → Chip.Answer
  | .isValid => .flag false
  | .modes => .modes []
  | .mode => .mode 0
  | .id | .register _ | .unregister _ | .invalidate | .report | .configure _ => .done

/-- Make a request through the handle of a chip. -/
def onChip (s : Service σ) (origin : Origin) (chip : ChipId) (r : Chip.Request) :
    Except ServiceError Chip.Answer × Service σ :=
  if r.waits then
    s.ask lib audience origin (.onChip (some chip) r)
      (fun | .ofChip answer => answer | _ => none) (defaultAnswer r)
  else if r = .id then (.ok (.id chip), s)
  else
    let (outcome, s) := s.command (.onChip (some chip) r)
    (outcome.map fun () => .done, s)

/-- Ask for the end of the control thread behind everything submitted before, and wait for that end
while tasks execute in this way. It makes no difference to whoever waits whether the thread ends as
it was asked to or breaks down before. -/
def shutDownWhile (run : Task → Radio σ → Execution Task (Radio σ) Reply) (s : Service σ)
    (origin : Origin) : Except ServiceError Unit × Service σ :=
  match origin with
  | .controlThread => (.error .reentrantCall, s)
  | .elsewhere =>
    if s.joined then (.ok (), s)
    else
      let system := (s.system.submit .halt).2.catchUp run
      (.ok (), { system, joined := true })

/-- End the control thread after everything submitted before, and wait for it. -/
def shutDown (s : Service σ) (origin : Origin) : Except ServiceError Unit × Service σ :=
  s.shutDownWhile (Task.run lib audience) origin

/-- Leave the service to itself until nothing is left to do, for at most a number of steps. -/
def settle (limit : Nat) (s : Service σ) : Service σ :=
  { s with system := s.system.settle lib audience limit }

end Service

end RadioLifecycle
