import Mathlib.Data.List.Induction
import Mathlib.Data.List.Nodup
import RadioLifecycle.Catalogue

/-!
The first registration under a name stays. What a catalogue holds can be told from the registrations
that were tried on it, whether they were taken or refused: each name has the factory with which it
was registered first, and is listed once. Nothing else that is done with a catalogue changes it, and
a registration that comes too late does not either.
-/

namespace RadioLifecycle.Catalogue

/-- One thing that is done with a catalogue. -/
inductive Use where
  | register (name : String) (factory : Factory)
  | create (name : String) (config : Option Toml.Value)
  | find (name : String)

/-- What comes of it. -/
inductive Yield where
  | registered
  /-- A registration that was refused, with what was said of it. -/
  | refused (message : String)
  | created (outcome : Except ServiceError Backend) (notices : List Notice)
  | found (factory : Option Factory)

/-- Use a catalogue. Whoever registers a name again goes on with the catalogue as it was. -/
def use (c : Catalogue) : Use → Yield × Catalogue
  | .register name factory =>
    match c.register name factory with
    | .ok registered => (.registered, registered)
    | .error message => (.refused message, c)
  | .create name config =>
    let (outcome, notices) := c.create name config
    (.created outcome notices, c)
  | .find name => (.found (c.factory? name), c)

/-- Use a catalogue several times, one after another. -/
def useAll : List Use → Catalogue → List Yield × Catalogue
  | [], c => ([], c)
  | u :: rest, c =>
    let (yield, c) := c.use u
    let (yields, c) := useAll rest c
    (yield :: yields, c)

/-- A catalogue to begin with: an empty one, or that of the vendors that come with the service. -/
def initial (builtIn : Bool) : Catalogue :=
  if builtIn then standard else empty

/-- The registration that a use tries. -/
def Use.registration? : Use → Option (String × Factory)
  | .register name factory => some (name, factory)
  | .create _ _ | .find _ => none

/-- Of these registrations, the first one under this name is of this factory. -/
def FirstUnder (registrations : List (String × Factory)) (name : String) (factory : Factory) :
    Prop :=
  ∃ before after, registrations = before ++ (name, factory) :: after ∧
    ∀ registration ∈ before, registration.1 ≠ name

variable {c : Catalogue} {registrations : List (String × Factory)} {builtIn : Bool}
  {uses : List Use} {name : String} {factory : Factory}

theorem lookup_eq_some_iff_firstUnder :
    registrations.lookup name = some factory ↔ FirstUnder registrations name factory := by
  simp [List.lookup_eq_some_iff, FirstUnder, ne_comm]

theorem FirstUnder.unique {other : Factory} (h : FirstUnder registrations name factory)
    (hOther : FirstUnder registrations name other) : other = factory := by
  rw [← lookup_eq_some_iff_firstUnder] at h hOther
  exact Option.some.inj (hOther.symm.trans h)

theorem useAll_snoc (uses : List Use) (u : Use) (c : Catalogue) :
    useAll (uses ++ [u]) c =
      ((useAll uses c).1 ++ [((useAll uses c).2.use u).1], ((useAll uses c).2.use u).2) := by
  induction uses generalizing c with
  | nil => rfl
  | cons first rest ih => simp only [List.cons_append, useAll, ih]

/-- A catalogue holds what these registrations come to: the first one under each name. -/
structure Keeps (registrations : List (String × Factory)) (c : Catalogue) : Prop where
  factory?_eq : ∀ name, c.factory? name = registrations.lookup name
  nodup : c.names.Nodup
  mem_names : ∀ name, name ∈ c.names ↔ name ∈ registrations.map (·.1)

/-- A name has a factory if it is listed. -/
theorem isSome_factory?_iff : (c.factory? name).isSome ↔ name ∈ c.names := by
  simp [factory?, names, List.lookup_isSome_iff]

theorem Keeps.factory?_eq_some_iff (h : Keeps registrations c) :
    c.factory? name = some factory ↔ FirstUnder registrations name factory := by
  rw [h.factory?_eq, lookup_eq_some_iff_firstUnder]

/-- A name that is listed has a factory, and it is the first under that name. -/
theorem Keeps.exists_of_mem (h : Keeps registrations c) (hListed : name ∈ c.names) :
    ∃ factory, c.factory? name = some factory ∧ FirstUnder registrations name factory := by
  obtain ⟨factory, hFactory⟩ := Option.isSome_iff_exists.mp (isSome_factory?_iff.mpr hListed)
  exact ⟨factory, hFactory, h.factory?_eq_some_iff.mp hFactory⟩

theorem factory?_of_not_mem (h : name ∉ c.names) : c.factory? name = none := by
  rw [← Option.not_isSome_iff_eq_none, isSome_factory?_iff]
  exact h

theorem register_of_mem (h : name ∈ c.names) (factory : Factory) :
    c.use (.register name factory) = (.refused (duplicateMessage name), c) := by
  obtain ⟨first, hFirst⟩ := Option.isSome_iff_exists.mp (isSome_factory?_iff.mpr h)
  simp only [use, register, hFirst]

theorem register_of_not_mem (h : name ∉ c.names) (factory : Factory) :
    c.use (.register name factory) = (.registered, ⟨c.entries ++ [(name, factory)]⟩) := by
  simp only [use, register, factory?_of_not_mem h]

/-- A registration that comes too late is one more that does not count. -/
theorem Keeps.refused (h : Keeps registrations c) (hListed : name ∈ c.names) (factory : Factory) :
    Keeps (registrations ++ [(name, factory)]) c where
  factory?_eq other := by
    rw [h.factory?_eq, List.lookup_append]
    by_cases hName : other = name
    · obtain ⟨first, hFirst, _⟩ := h.exists_of_mem hListed
      rw [hName, ← h.factory?_eq, hFirst, Option.some_or]
    · simp [List.lookup_cons, beq_eq_false_iff_ne.mpr hName]
  nodup := h.nodup
  mem_names other := by
    rw [List.map_append, List.mem_append, ← h.mem_names]
    constructor
    · exact .inl
    · rintro (hOther | hOther)
      · exact hOther
      · rw [List.mem_singleton.mp hOther]
        exact hListed

theorem Keeps.registered (h : Keeps registrations c) (hNew : name ∉ c.names) (factory : Factory) :
    Keeps (registrations ++ [(name, factory)]) ⟨c.entries ++ [(name, factory)]⟩ where
  factory?_eq other := by
    rw [factory?, List.lookup_append, List.lookup_append, ← h.factory?_eq, factory?]
  nodup := by simpa [names] using List.Nodup.concat hNew h.nodup
  mem_names other := by
    rw [names, List.map_append, List.map_append, List.mem_append, List.mem_append, ← h.mem_names,
      names]

theorem Keeps.use (h : Keeps registrations c) (u : Use) :
    Keeps (registrations ++ u.registration?.toList) (c.use u).2 := by
  cases u with
  | register name factory =>
      by_cases hListed : name ∈ c.names
      · rw [register_of_mem hListed]
        exact h.refused hListed factory
      · rw [register_of_not_mem hListed]
        exact h.registered hListed factory
  | create name config => simpa [Use.registration?, Catalogue.use] using h
  | find name => simpa [Use.registration?, Catalogue.use] using h

/-- What a use has to come to, and what it has to leave of a catalogue that holds what these
registrations come to. -/
def Use.Meets (registrations : List (String × Factory)) (c c' : Catalogue) : Use → Yield → Prop
  | .register name factory, yield =>
    (name ∉ c.names → yield = .registered ∧ c'.entries = c.entries ++ [(name, factory)]) ∧
      (name ∈ c.names → yield = .refused (duplicateMessage name) ∧ c' = c)
  | .create name config, yield =>
    c' = c ∧ ∃ outcome notices, yield = .created outcome notices ∧
      (name ∉ c.names → outcome = .error (.vendorNotFound name)) ∧
      (name ∈ c.names → ∃ factory, FirstUnder registrations name factory ∧
        outcome = factory config) ∧
      (outcome = .error (.vendorNotFound name) ↔
        name ∉ c.names ∨ ∃ factory, FirstUnder registrations name factory ∧
          factory config = .error (.vendorNotFound name))
  | .find name, yield =>
    c' = c ∧ ∃ found, yield = .found found ∧ (found.isSome ↔ name ∈ c.names) ∧
      ∀ factory, found = some factory ↔ FirstUnder registrations name factory

theorem create_of_not_mem (h : name ∉ c.names) (config : Option Toml.Value) :
    (c.create name config).1 = .error (.vendorNotFound name) := by
  simp only [create, factory?_of_not_mem h]

theorem create_of_factory? (h : c.factory? name = some factory) (config : Option Toml.Value) :
    (c.create name config).1 = factory config := by
  simp only [create, h]
  cases factory config with
  | error e => rfl
  | ok backend => rfl

theorem Keeps.meets (h : Keeps registrations c) (u : Use) :
    u.Meets registrations c (c.use u).2 (c.use u).1 := by
  cases u with
  | register name factory =>
      constructor
      · intro hNew
        rw [register_of_not_mem hNew]
        exact ⟨rfl, rfl⟩
      · intro hListed
        rw [register_of_mem hListed]
        exact ⟨rfl, rfl⟩
  | create name config =>
      refine ⟨rfl, (c.create name config).1, (c.create name config).2, rfl,
        fun hNew => create_of_not_mem hNew config, ?_, ?_⟩
      · intro hListed
        obtain ⟨factory, hFactory, hFirst⟩ := h.exists_of_mem hListed
        exact ⟨factory, hFirst, create_of_factory? hFactory config⟩
      · by_cases hListed : name ∈ c.names
        · obtain ⟨factory, hFactory, hFirst⟩ := h.exists_of_mem hListed
          rw [create_of_factory? hFactory]
          constructor
          · intro hAnswer
            exact .inr ⟨factory, hFirst, hAnswer⟩
          · rintro (hNew | ⟨other, hOther, hAnswer⟩)
            · exact absurd hListed hNew
            · rw [← hFirst.unique hOther]
              exact hAnswer
        · exact ⟨fun _ => .inl hListed, fun _ => create_of_not_mem hListed config⟩
  | find name =>
      exact ⟨rfl, _, rfl, isSome_factory?_iff, fun _ => h.factory?_eq_some_iff⟩

end RadioLifecycle.Catalogue
