import RadioLifecycle.Log.Journal

/-!
Finding an interface by its name. Names are asked for one by one in the order of the enumeration
until one is right. An interface that does not tell its name is passed over, and an enumeration
that fails counts as one without interfaces.
-/

namespace RadioLifecycle.Vendor

variable {σ : Type}

/-- The first of the listed interfaces that tells the wanted name. -/
def findAmong (lib : Library σ) (wanted : String) :
    List InterfaceHandle → Surroundings σ → Option InterfaceHandle × Surroundings σ
  | [], w => (none, w)
  | interface :: rest, w =>
    match w.interfaceName lib interface with
    | (.ok name, w) => if name = wanted then (some interface, w) else findAmong lib wanted rest w
    | (.error status, w) =>
      findAmong lib wanted rest (w.note (.interfaceNameFailed interface status))

/-- The first interface of a session that tells the wanted name. -/
def findInterface (lib : Library σ) (session : SessionHandle) (wanted : String)
    (w : Surroundings σ) : Option InterfaceHandle × Surroundings σ :=
  match w.interfaces lib session with
  | (.error status, w) => (none, w.note (.enumerationFailed session status))
  | (.ok listed, w) =>
    match findAmong lib wanted listed w with
    | (some interface, w) => (some interface, w)
    | (none, w) => (none, w.note (.interfaceNotFound wanted))

end RadioLifecycle.Vendor
