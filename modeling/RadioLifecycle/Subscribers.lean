import RadioLifecycle.Log.Notice

/-!
Registries of subscribers. A registry holds each subscriber at most once, in the order of
registration, and hands every event to all of them in that order, whatever became of the event at
those before.
-/

namespace RadioLifecycle

/-- Subscribers in the order in which they were registered. -/
structure Subscribers (ι : Type) where
  members : List ι := []
  deriving DecidableEq, Repr

namespace Subscribers

variable {ι ω : Type}

def empty : Subscribers ι := {}

def size (r : Subscribers ι) : Nat :=
  r.members.length

def isEmpty (r : Subscribers ι) : Bool :=
  r.members.isEmpty

def clear (_ : Subscribers ι) : Subscribers ι :=
  empty

variable [DecidableEq ι]

/-- A subscriber is contained when it has been registered and not removed since. -/
def contains (r : Subscribers ι) (s : ι) : Bool :=
  decide (s ∈ r.members)

/-- Add a subscriber behind all others. Nothing changes, and the result is false, if it is already
registered. -/
def register (r : Subscribers ι) (s : ι) : Bool × Subscribers ι :=
  if s ∈ r.members then (false, r) else (true, ⟨r.members ++ [s]⟩)

/-- Remove a subscriber. Nothing changes, and the result is false, if it is not registered. -/
def unregister (r : Subscribers ι) (s : ι) : Bool × Subscribers ι :=
  (decide (s ∈ r.members), ⟨r.members.filter (· ≠ s)⟩)

/-- Say of a delivery what has to be said of its ending. -/
def remark (event : String) (note : Notice → ω → ω) (ending : Ending) (w : ω) : ω :=
  match ending with
  | .accepted => w
  | .disconnected => note (.subscriberDisconnected event) w
  | .panicked => note (.subscriberPanicked event) w

/-- Hand an event to each of the listed subscribers and count those that accepted it. -/
def broadcastTo (event : String) (receive : ι → ω → Ending × ω) (note : Notice → ω → ω) :
    List ι → ω → Nat × ω
  | [], w => (0, w)
  | s :: rest, w =>
    let (ending, w) := receive s w
    let (accepted, w) := broadcastTo event receive note rest (remark event note ending w)
    (if ending = .accepted then accepted + 1 else accepted, w)

/-- Hand an event to every subscriber in order and count those that accepted it. -/
def broadcast (r : Subscribers ι) (event : String) (receive : ι → ω → Ending × ω)
    (note : Notice → ω → ω) (w : ω) : Nat × ω :=
  broadcastTo event receive note r.members w

end Subscribers

end RadioLifecycle
