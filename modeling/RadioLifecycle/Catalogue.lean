import RadioLifecycle.Simulation.Exchange
import RadioLifecycle.Simulation.Library
import RadioLifecycle.Toml.Presentation

/-!
The catalogue of vendor libraries. Each name has one factory, which makes a library from the
vendor's section of the settings or refuses to. The first factory registered under a name stays.
-/

namespace RadioLifecycle

open Vendor (Library SessionHandle)

/-- A vendor library in its initial state. -/
structure Backend where
  State : Type
  library : Library State
  initial : State

/-- What makes a vendor library from its section of the settings, if there is one. -/
abbrev Factory := Option Toml.Value → Except ServiceError Backend

namespace Simulation

/-- The simulated library with a behaviour. -/
def backend (behaviour : Behaviour) : Backend where
  State := Simulation SessionHandle
  library := library
  initial := { behaviour }

def malformedSection : ServiceError :=
  .vendorCreation "simulation config: "

/-- The simulated library with the behaviour that its section describes, or the default one. -/
def create : Factory
  | none => .ok (backend {})
  | some value =>
    match Portable.read? (Toml.Section.mk value) with
    | some behaviour => .ok (backend behaviour)
    | none => .error malformedSection

end Simulation

/-- The registered factories, in the order of registration. -/
structure Catalogue where
  entries : List (String × Factory) := []

namespace Catalogue

def empty : Catalogue := {}

def factory? (c : Catalogue) (name : String) : Option Factory :=
  c.entries.lookup name

def names (c : Catalogue) : List String :=
  c.entries.map (·.1)

def duplicateMessage (name : String) : String :=
  s!"Vendor '{name}' is already registered"

/-- Register a factory under a new name. -/
def register (c : Catalogue) (name : String) (factory : Factory) : Except String Catalogue :=
  match c.factory? name with
  | some _ => .error (duplicateMessage name)
  | none => .ok ⟨c.entries ++ [(name, factory)]⟩

/-- The catalogue of the vendors that come with the service. -/
def standard : Catalogue :=
  ⟨[(Defaults.vendorName, Simulation.create)]⟩

/-- Make the vendor library of a name. A success is worth a notice. -/
def create (c : Catalogue) (name : String) (config : Option Toml.Value) :
    Except ServiceError Backend × List Notice :=
  match c.factory? name with
  | none => (.error (.vendorNotFound name), [])
  | some factory =>
    match factory config with
    | .error e => (.error e, [])
    | .ok backend =>
      (.ok backend, [.vendorCreated backend.library.name backend.library.version])

end Catalogue

end RadioLifecycle
