import RadioLifecycle.Catalogue
import RadioLifecycle.Proofs.Text.WellFormed
import RadioLifecycle.Settings.Loading

/-!
Records read from tables, key by key. What stands under a key decides its field and nothing else: a
key that is left out gives its field the value that it has by default, and a key that the record
does not know gives nothing. Defaults that are stated for single fields thus agree with those of the
whole record, whichever keys a table has.
-/

namespace RadioLifecycle

namespace Format

variable {ν : Type}

/-- A table without some keys. -/
def without (keys : List String) (entries : List (String × ν)) : List (String × ν) :=
  entries.filter fun entry => entry.1 ∉ keys

theorem mem_without {keys : List String} {entries : List (String × ν)} {entry : String × ν} :
    entry ∈ without keys entries ↔ entry ∈ entries ∧ entry.1 ∉ keys := by
  simp [without]

theorem without_cons (keys : List String) (entry : String × ν) (rest : List (String × ν)) :
    without keys (entry :: rest) =
      if entry.1 ∈ keys then without keys rest else entry :: without keys rest := by
  by_cases h : entry.1 ∈ keys <;> simp [without, h]

theorem lookup_without (keys : List String) (entries : List (String × ν)) (name : String) :
    (without keys entries).lookup name = if name ∈ keys then none else entries.lookup name := by
  induction entries with
  | nil => simp [without]
  | cons entry rest ih =>
      obtain ⟨key, value⟩ := entry
      rw [without_cons]
      by_cases hName : name = key
      · subst hName
        by_cases hKey : name ∈ keys
        · rw [if_pos hKey, ih, if_pos hKey, if_pos hKey]
        · rw [if_neg hKey, if_neg hKey, List.lookup_cons_self, List.lookup_cons_self]
      · have hOther : (name == key) = false := beq_eq_false_iff_ne.mpr hName
        by_cases hKey : key ∈ keys <;> simp [hKey, hOther, ih, List.lookup_cons]

/-- A format with tables. A record is read from a table by its keys, and what stands under other
keys has to be admitted. -/
class Tabular (ν : Type) [Format ν] where
  ofEntries : List (String × ν) → ν
  admits : ν → Bool
  fields?_ofEntries : ∀ names entries,
    fields? names (ofEntries entries) =
      if ∀ entry ∈ entries, entry.1 ∈ names ∨ admits entry.2 = true then
        some (names.map fun name => entries.lookup name)
      else none

/-- A document refuses a record with a numeral that stands for no number, under whatever key. -/
instance : Tabular Toml.Value where
  ofEntries := .table
  admits := Toml.Value.isSound
  fields?_ofEntries names entries := by
    change (if _ then _ else _) = _
    simp only [List.all_eq_true, Bool.or_eq_true, List.contains_iff_mem]

/-- A section that was taken out of a document has no such numerals. -/
instance : Tabular Toml.Section where
  ofEntries entries := ⟨.table (entries.map fun (key, s) => (key, s.value))⟩
  admits _ := true
  fields?_ofEntries names entries := by
    have hEntries : (entries.map fun (key, s) => (key, s.value)).map
        (fun (key, value) => (key, Toml.Section.mk value)) = entries := by
      rw [List.map_map]
      exact List.map_id entries
    rw [if_pos fun _ _ => .inr rfl]
    change some (names.map fun name => List.lookup name (List.map _ (List.map _ entries))) = _
    rw [hEntries]

end Format

open Format (Tabular)

/-- A record that has a default for each of its fields. -/
class Defaulting (α : Type) where
  /-- The keys of the fields. -/
  keys : List String
  standard : α
  /-- A record in which the fields of some keys are as in the standard one. -/
  withDefaults : List String → α → α

open Defaulting (standard withDefaults)

/-- Reading a record goes by its keys. -/
structure ReadsByKey {ν α : Type} [Format ν] [Tabular ν] [Defaulting α] (read? : ν → Option α) :
    Prop where
  /-- Keys that are left out give their fields the defaults, and all other fields stay. -/
  absent : ∀ entries a keys, read? (Tabular.ofEntries entries) = some a →
    read? (Tabular.ofEntries (Format.without keys entries)) = some (withDefaults keys a)
  empty : read? (Tabular.ofEntries []) = some standard
  /-- Keys that are not known make no difference, if what stands under them is admitted. -/
  unknown : ∀ entries keys, (∀ key ∈ keys, key ∉ Defaulting.keys α) →
    (∀ entry ∈ entries, entry.1 ∈ keys → Tabular.admits entry.2 = true) →
      read? (Tabular.ofEntries entries) = read? (Tabular.ofEntries (Format.without keys entries))

section

variable {ν α : Type} [Format ν] [Tabular ν] [Defaulting α] {read? : ν → Option α}
  {build : List (Option ν) → Option α}

/-- A record that is built from its fields is read by its keys, if a field that is missing is built
as in the standard record. -/
theorem ReadsByKey.of_build
    (hRead : ∀ v, read? v = (Format.fields? (Defaulting.keys α) v).bind build)
    (hMissing : build ((Defaulting.keys α).map fun _ => none) = some standard)
    (hMask : ∀ (field : String → Option ν) keys a,
      build ((Defaulting.keys α).map field) = some a →
        build ((Defaulting.keys α).map fun name => if name ∈ keys then none else field name) =
          some (withDefaults keys a)) :
    ReadsByKey read? where
  absent entries a keys h := by
    rw [hRead, Tabular.fields?_ofEntries] at h ⊢
    split at h
    case isFalse => cases h
    case isTrue hAdmitted =>
      rw [if_pos fun entry hEntry => hAdmitted entry (Format.mem_without.mp hEntry).1]
      simp only [Format.lookup_without]
      exact hMask (entries.lookup ·) keys a h
  empty := by
    rw [hRead, Tabular.fields?_ofEntries]
    exact hMissing
  unknown entries keys hUnknown hAdmitted := by
    have hFields : ((Defaulting.keys α).map fun name => (Format.without keys entries).lookup name) =
        (Defaulting.keys α).map fun name => entries.lookup name := by
      apply List.map_congr_left
      intro name hName
      rw [Format.lookup_without, if_neg fun hMem => hUnknown name hMem hName]
    rw [hRead, hRead, Tabular.fields?_ofEntries, Tabular.fields?_ofEntries, hFields]
    have hAll : (∀ entry ∈ entries, entry.1 ∈ Defaulting.keys α ∨ Tabular.admits entry.2 = true) ↔
        ∀ entry ∈ Format.without keys entries,
          entry.1 ∈ Defaulting.keys α ∨ Tabular.admits entry.2 = true := by
      constructor
      · exact fun h entry hEntry => h entry (Format.mem_without.mp hEntry).1
      · intro h entry hEntry
        by_cases hKey : entry.1 ∈ keys
        · exact .inr (hAdmitted entry hEntry hKey)
        · exact h entry (Format.mem_without.mpr ⟨hEntry, hKey⟩)
    simp only [hAll]

end

/-- A field that is left out is made of nothing, which gives its default. -/
theorem make_masked {ν β : Type} (make : Option ν → Option β) {standard b : β}
    (hMissing : make none = some standard) {field : Option ν} (h : make field = some b)
    (p : Prop) [Decidable p] :
    make (if p then none else field) = some (if p then standard else b) := by
  split
  · exact hMissing
  · exact h

open Portable (defaulted nullable)

namespace Settings

instance : Defaulting Shared where
  keys := ["log_level", "service_name"]
  standard := {}
  withDefaults keys s :=
    let standard : Shared := {}
    { logLevel := if "log_level" ∈ keys then standard.logLevel else s.logLevel
      serviceName := if "service_name" ∈ keys then standard.serviceName else s.serviceName }

instance : Defaulting Selection where
  keys := ["vendor", "interface_name"]
  standard := {}
  withDefaults keys s :=
    let standard : Selection := {}
    { vendor := if "vendor" ∈ keys then standard.vendor else s.vendor
      interfaceName := if "interface_name" ∈ keys then standard.interfaceName else s.interfaceName }

instance : Defaulting Settings where
  keys := ["shared", "hal", "properties", "vendor_config"]
  standard := {}
  withDefaults keys s :=
    let standard : Settings := {}
    { shared := if "shared" ∈ keys then standard.shared else s.shared
      selection := if "hal" ∈ keys then standard.selection else s.selection
      properties := if "properties" ∈ keys then standard.properties else s.properties
      vendorSections := if "vendor_config" ∈ keys then standard.vendorSections
        else s.vendorSections }

variable {ν : Type} [Format ν] [Tabular ν]

theorem Shared.readsByKey : ReadsByKey (Portable.read? : ν → Option Shared) := by
  apply ReadsByKey.of_build (fun _ => rfl) rfl
  intro field keys s h
  simp only [Defaulting.keys, List.map_cons, List.map_nil] at h ⊢
  obtain ⟨level, hLevel, h⟩ := Option.bind_eq_some_iff.mp h
  obtain ⟨name, hName, h⟩ := Option.bind_eq_some_iff.mp h
  cases h
  rw [make_masked (defaulted _) rfl hLevel, make_masked (defaulted _) rfl hName]
  rfl

theorem Selection.readsByKey : ReadsByKey (Portable.read? : ν → Option Selection) := by
  apply ReadsByKey.of_build (fun _ => rfl) rfl
  intro field keys s h
  simp only [Defaulting.keys, List.map_cons, List.map_nil] at h ⊢
  obtain ⟨vendor, hVendor, h⟩ := Option.bind_eq_some_iff.mp h
  obtain ⟨interface, hInterface, h⟩ := Option.bind_eq_some_iff.mp h
  cases h
  rw [make_masked (defaulted _) rfl hVendor, make_masked nullable rfl hInterface]
  rfl

theorem readsByKey : ReadsByKey read? := by
  apply ReadsByKey.of_build (fun _ => rfl) rfl
  intro field keys s h
  simp only [Defaulting.keys, List.map_cons, List.map_nil] at h ⊢
  obtain ⟨shared, hShared, h⟩ := Option.bind_eq_some_iff.mp h
  obtain ⟨selection, hSelection, h⟩ := Option.bind_eq_some_iff.mp h
  obtain ⟨properties, hProperties, h⟩ := Option.bind_eq_some_iff.mp h
  obtain ⟨sections, hSections, h⟩ := Option.bind_eq_some_iff.mp h
  cases h
  rw [make_masked (defaulted _) rfl hShared, make_masked (defaulted _) rfl hSelection,
    make_masked readProperties? rfl hProperties, make_masked readSections? rfl hSections]
  rfl

theorem load_nil (path : String) : load path (.contents []) = .ok {} := by
  have hText : Utf8.decode? [] = some [] := Utf8.decode?_eq_some_iff.mpr rfl
  have hDocument : Toml.read? "" = some [] := rfl
  have hRead : read? (.table []) = some {} := readsByKey.empty
  rw [load, hText]
  change parse "" = .ok {}
  rw [parse, hDocument, Option.bind_some, hRead]

end Settings

namespace Simulation

instance : Defaulting Behaviour where
  keys := Behaviour.fieldNames
  standard := {}
  withDefaults keys b :=
    let standard : Behaviour := {}
    { interfaces := if "interfaces" ∈ keys then standard.interfaces else b.interfaces
      driverVersion := if "driver_version" ∈ keys then standard.driverVersion else b.driverVersion
      firmwareVersion :=
        if "firmware_version" ∈ keys then standard.firmwareVersion else b.firmwareVersion
      bringUpError := if "init_error" ∈ keys then standard.bringUpError else b.bringUpError
      enumerationError :=
        if "enumeration_error" ∈ keys then standard.enumerationError else b.enumerationError
      driverVersionError :=
        if "driver_version_error" ∈ keys then standard.driverVersionError else b.driverVersionError
      firmwareVersionError :=
        if "firmware_version_error" ∈ keys then standard.firmwareVersionError
        else b.firmwareVersionError }

variable {ν : Type} [Format ν] [Tabular ν]

theorem Behaviour.readsByKey : ReadsByKey (Portable.read? : ν → Option Behaviour) := by
  apply ReadsByKey.of_build (fun _ => rfl) rfl
  intro field keys b h
  simp only [Defaulting.keys, fieldNames, List.map_cons, List.map_nil] at h ⊢
  obtain ⟨interfaces, hInterfaces, h⟩ := Option.bind_eq_some_iff.mp h
  obtain ⟨driver, hDriver, h⟩ := Option.bind_eq_some_iff.mp h
  obtain ⟨firmware, hFirmware, h⟩ := Option.bind_eq_some_iff.mp h
  obtain ⟨bringUp, hBringUp, h⟩ := Option.bind_eq_some_iff.mp h
  obtain ⟨enumeration, hEnumeration, h⟩ := Option.bind_eq_some_iff.mp h
  obtain ⟨driverError, hDriverError, h⟩ := Option.bind_eq_some_iff.mp h
  obtain ⟨firmwareError, hFirmwareError, h⟩ := Option.bind_eq_some_iff.mp h
  cases h
  rw [make_masked (defaulted _) rfl hInterfaces, make_masked (defaulted _) rfl hDriver,
    make_masked (defaulted _) rfl hFirmware, make_masked nullable rfl hBringUp,
    make_masked nullable rfl hEnumeration, make_masked nullable rfl hDriverError,
    make_masked nullable rfl hFirmwareError]
  rfl

theorem create_nil : create (some (.table [])) = create none := by
  have hRead : Portable.read? (Toml.Section.mk (.table [])) = some ({} : Behaviour) :=
    Behaviour.readsByKey.empty
  simp only [create, hRead]

end Simulation

/-- A type is read by its keys from documents as well as from the sections taken out of them. -/
def ReadsByKeyInToml (α : Type) [Portable α] [Defaulting α] : Prop :=
  ReadsByKey (Portable.read? : Toml.Value → Option α) ∧
    ReadsByKey (Portable.read? : Toml.Section → Option α)

/-- The defaults of single keys agree with the standard records. So a file that is missing where it
may be and an empty one give the same settings, and no section and an empty one the same library. -/
theorem defaults_agree :
    ReadsByKeyInToml Settings.Shared ∧ ReadsByKeyInToml Settings.Selection ∧
      ReadsByKeyInToml Simulation.Behaviour ∧ ReadsByKey Settings.read? ∧
      (∀ path, Settings.loadOrDefault path .missing = .ok {} ∧
        Settings.load path (.contents []) = .ok {}) ∧
      Simulation.create none = Simulation.create (some (.table [])) :=
  ⟨⟨Settings.Shared.readsByKey, Settings.Shared.readsByKey⟩,
    ⟨Settings.Selection.readsByKey, Settings.Selection.readsByKey⟩,
    ⟨Simulation.Behaviour.readsByKey, Simulation.Behaviour.readsByKey⟩, Settings.readsByKey,
    fun path => ⟨rfl, Settings.load_nil path⟩, Simulation.create_nil.symm⟩

/-- A document is refused for a numeral that stands for no number, though the record does not know
its key. -/
theorem read?_unknownNumeral :
    ∃ entries, Toml.read? "x = 1e400" = some entries ∧ "x" ∉ Defaulting.keys Settings.Shared ∧
      Portable.read? (Toml.Value.table entries) = (none : Option Settings.Shared) ∧
      Portable.read? (Toml.Value.table (Format.without ["x"] entries)) =
        some ({} : Settings.Shared) := by
  have hKeys : (Toml.read? "x = 1e400").map (fun entries => entries.map (·.1)) = some ["x"] := by
    decide +kernel
  have hRefused : (Toml.parse? "x = 1e400" : Option Settings.Shared) = none := by decide +kernel
  obtain ⟨entries, hDocument, hKeys⟩ := Option.map_eq_some_iff.mp hKeys
  rw [Toml.parse?, hDocument, Option.bind_some] at hRefused
  have hRest : Format.without ["x"] entries = [] := by
    rw [Format.without, List.filter_eq_nil_iff]
    intro entry hEntry
    have hKey : entry.1 ∈ entries.map (·.1) := List.mem_map_of_mem hEntry
    rw [hKeys] at hKey
    simpa using hKey
  refine ⟨entries, hDocument, by decide, hRefused, ?_⟩
  rw [hRest]
  exact Settings.Shared.readsByKey.empty

end RadioLifecycle
