import RadioLifecycle.Controller.Command

/-!
The tasks of the control thread. Clients hand in commands; workers report the end of their event
loop; and client code may itself run on the control thread, as a subscriber or because it asked to
look at the current chip. Such code issues operations like any other client, but it cannot wait for
the thread that it runs on.
-/

namespace RadioLifecycle

open Vendor (Library WorkerId)

/-- An operation that client code issues. -/
inductive Operation where
  /-- Submit commands, to be carried out later as one task. -/
  | post (commands : List Command)
  /-- Submit commands and wait for the answers. -/
  | query (commands : List Command)
  /-- End the control thread and wait for it. -/
  | shutDown
  deriving DecidableEq, Repr

/-- A unit of work of the control thread. -/
inductive Task where
  | perform (commands : List Command)
  /-- Run client code that issues these operations. -/
  | client (operations : List Operation)
  /-- Run client code that makes these requests of the current chip. -/
  | visitChip (requests : List Chip.Request)
  /-- Take the report of a worker. The control thread does not look at who reports; no worker stands
  behind a report made up by a client. -/
  | exitReport (worker : Option WorkerId) (requested : Bool)
  | halt
  deriving DecidableEq, Repr

inductive Reply where
  | answers (answers : List Answer)
  /-- What became of the operations that client code issued. -/
  | outcomes (outcomes : List (Except ServiceError Unit))
  /-- The current chip, and what became of the requests made of it. -/
  | visit (chip : Option ChipId) (outcomes : List (Except ServiceError Chip.Answer))
  /-- Whether the report ended the control thread. -/
  | reported (fatal : Bool)
  | halting

namespace Operation

/-- The tasks that an operation submits when it is issued on the control thread. Operations that
wait for that thread submit nothing. -/
def submissions : Operation → List Task
  | .post commands => [.perform commands]
  | .query _ | .shutDown => []

/-- What becomes of an operation issued on the control thread. -/
def outcomeInside : Operation → Except ServiceError Unit
  | .post _ => .ok ()
  | .query _ | .shutDown => .error .reentrantCall

end Operation

namespace Chip.Request

/-- Whether a client has to wait for the answer. -/
def waits : Request → Bool
  | .isValid | .modes | .mode => true
  | .id | .register _ | .unregister _ | .invalidate | .report | .configure _ => false

/-- What becomes of a request that client code makes of a chip on the control thread. The identity
of the chip is known to whoever holds it, and whatever has to be waited for is refused. -/
def outcomeInside (chip : ChipId) (r : Request) : Except ServiceError Answer :=
  if r.waits then .error .reentrantCall
  else if r = .id then .ok (.id chip)
  else .ok .done

/-- The operations that a request made of a chip comes down to. -/
def operations (chip : ChipId) (r : Request) : List Operation :=
  if r.waits then [.query [.onChip (some chip) r]]
  else if r = .id then []
  else [.post [.onChip (some chip) r]]

end Chip.Request

/-- Everyone who receives events: how each delivery ends, and which operations its receiver issues
while handling it, given all deliveries before. -/
structure Audience where
  respond : Response
  operations : List Delivery → Delivery → List Operation := fun _ _ => []

/-- The operations issued during deliveries that follow those already made. -/
def Audience.operationsDuring (a : Audience) (before : List Delivery) :
    List Delivery → List Operation
  | [] => []
  | d :: rest => a.operations before d ++ a.operationsDuring (before ++ [d]) rest

namespace Task

variable {σ : Type}

/-- The execution that changes nothing, with its reply. -/
def idle (r : Radio σ) (reply : Reply) (submitted : List Task) : Execution Task (Radio σ) Reply :=
  { context := r, reply, submitted }

/-- What a task does, the operations of subscribers left aside. -/
def act (lib : Library σ) (respond : Response) (r : Radio σ) :
    Task → Execution Task (Radio σ) Reply
  | .perform commands =>
    let (answers, r) := r.performAll lib respond commands
    { context := r, reply := .answers answers }
  | .client operations =>
    idle r (.outcomes (operations.map (·.outcomeInside))) (operations.flatMap (·.submissions))
  | .visitChip requests =>
    let chip := r.controller.currentChip
    let r := r.within (r.toSurroundings.enter (.visit chip))
    match chip with
    | none => idle r (.visit none []) []
    | some id =>
      idle r (.visit (some id) (requests.map (·.outcomeInside id)))
        ((requests.flatMap (·.operations id)).flatMap (·.submissions))
  | .exitReport _ requested =>
    let (verdict, r) := r.onLoopExited respond requested
    { context := r, reply := .reported (verdict = .halt), verdict }
  | .halt => { context := r, reply := .halting, verdict := .halt }

/-- Execute a task. What subscribers submitted while they were told of events comes after what the
task itself submitted. -/
def run (lib : Library σ) (audience : Audience) (task : Task) (r : Radio σ) :
    Execution Task (Radio σ) Reply :=
  let e := task.act lib audience.respond r
  let before := r.journal.deliveries
  let heard := e.context.journal.deliveries.drop before.length
  { e with
    submitted := e.submitted ++ (audience.operationsDuring before heard).flatMap (·.submissions) }

end Task

end RadioLifecycle
