import RadioLifecycle.Vendor.Library

/-!
The journal of everything that leaves the control plane, in the order in which it happens: calls
into the vendor library, events handed to subscribers, notices, and the one report from which there
is no way back. Code that belongs to the control plane acts on the vendor library and the journal
together, and the functions here are the only ways in which it does so.
-/

namespace RadioLifecycle

/-- One thing that happened. -/
inductive Entry where
  | call (call : Vendor.Call)
  | delivery (delivery : Delivery)
  | notice (notice : Notice)
  /-- The event loop ended although no teardown was in progress. -/
  | fatal (phase : Phase)
  /-- A client's task looked at the current chip. -/
  | visit (chip : Option ChipId)

/-- What happened, earliest first. -/
abbrev Journal := List Entry

namespace Journal

def deliveries (j : Journal) : List Delivery :=
  j.filterMap fun
    | .delivery d => some d
    | _ => none

def notices (j : Journal) : List Notice :=
  j.filterMap fun
    | .notice n => some n
    | _ => none

def calls (j : Journal) : List Vendor.Call :=
  j.filterMap fun
    | .call c => some c
    | _ => none

def fatals (j : Journal) : List Phase :=
  j.filterMap fun
    | .fatal p => some p
    | _ => none

end Journal

/-- The vendor library's state together with the journal. -/
structure Surroundings (σ : Type) where
  vendor : σ
  journal : Journal := []

namespace Surroundings

open Vendor (Library Status SessionHandle InterfaceHandle Buffer WorkerId LoopProgress)

variable {σ : Type}

def enter (e : Entry) (w : Surroundings σ) : Surroundings σ :=
  { w with journal := w.journal ++ [e] }

def note (n : Notice) (w : Surroundings σ) : Surroundings σ :=
  w.enter (.notice n)

/-- Hand an event to a subscriber, whose response may depend on all deliveries before. -/
def deliver (respond : Response) (d : Delivery) (w : Surroundings σ) : Ending × Surroundings σ :=
  (respond w.journal.deliveries d, w.enter (.delivery d))

/-- Bring the library up. What it has to say follows the call. -/
def bringUp (lib : Library σ) (w : Surroundings σ) :
    Except Status SessionHandle × Surroundings σ :=
  let (outcome, notices, vendor) := lib.bringUp w.vendor
  (outcome, ⟨vendor, w.journal ++ .call (.bringUp outcome) :: notices.map .notice⟩)

def cleanup (lib : Library σ) (session : SessionHandle) (w : Surroundings σ) : Surroundings σ :=
  ⟨lib.cleanup session w.vendor, w.journal ++ [.call (.cleanup session)]⟩

/-- A worker thread calls the library's event loop. -/
def enterLoop (lib : Library σ) (worker : WorkerId) (session : SessionHandle)
    (w : Surroundings σ) : Surroundings σ :=
  ⟨lib.enterLoop worker session w.vendor, w.journal ++ [.call (.eventLoop session)]⟩

/-- A worker thread inside the event loop runs on. -/
def runLoop (lib : Library σ) (worker : WorkerId) (w : Surroundings σ) :
    LoopProgress × Surroundings σ :=
  let (progress, vendor) := lib.runLoop worker w.vendor
  (progress, { w with vendor })

def interfaces (lib : Library σ) (session : SessionHandle) (w : Surroundings σ) :
    Except Status (List InterfaceHandle) × Surroundings σ :=
  let (outcome, vendor) := lib.interfaces session w.vendor
  (outcome, ⟨vendor, w.journal ++ [.call (.interfaces session)]⟩)

def interfaceName (lib : Library σ) (interface : InterfaceHandle) (w : Surroundings σ) :
    Except Status String × Surroundings σ :=
  let (outcome, vendor) := lib.interfaceName interface w.vendor
  (outcome, ⟨vendor, w.journal ++ [.call (.interfaceName interface)]⟩)

def driverVersion (lib : Library σ) (interface : InterfaceHandle) (buffer : Buffer)
    (w : Surroundings σ) : Except Status Unit × Buffer × Surroundings σ :=
  let (outcome, filled, vendor) := lib.driverVersion interface buffer w.vendor
  (outcome, filled, ⟨vendor, w.journal ++ [.call (.driverVersion interface)]⟩)

def firmwareVersion (lib : Library σ) (interface : InterfaceHandle) (buffer : Buffer)
    (w : Surroundings σ) : Except Status Unit × Buffer × Surroundings σ :=
  let (outcome, filled, vendor) := lib.firmwareVersion interface buffer w.vendor
  (outcome, filled, ⟨vendor, w.journal ++ [.call (.firmwareVersion interface)]⟩)

end Surroundings

end RadioLifecycle
