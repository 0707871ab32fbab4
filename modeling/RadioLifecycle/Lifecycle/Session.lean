import RadioLifecycle.Log.Journal

/-!
The ownership of a vendor session. A session owns the handle issued for it from the moment the
library is brought up until it gives the handle up; without a handle it refuses to name one, so a
handle that has been given up cannot reach the library again.
-/

namespace RadioLifecycle

open Vendor (Library Status SessionHandle)

/-- A vendor session, or the place where one will be. -/
structure Session where
  held : Option SessionHandle := none
  deriving DecidableEq, Repr

namespace Session

def empty : Session := {}

/-- Bring the library up and own the handle that it issues. -/
def acquire {σ : Type} (lib : Library σ) (w : Surroundings σ) :
    Except Status Session × Surroundings σ :=
  let (outcome, w) := w.bringUp lib
  (outcome.map fun h => ⟨some h⟩, w)

/-- The handle, if it has not been given up. -/
def handle (s : Session) : Except ServiceError SessionHandle :=
  match s.held with
  | some h => .ok h
  | none => .error .handleReleased

def release (s : Session) : Option SessionHandle × Session :=
  (s.held, empty)

def isLive (s : Session) : Bool :=
  s.held.isSome

end Session

end RadioLifecycle
