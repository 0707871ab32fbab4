import Mathlib.Data.List.Nodup
import RadioLifecycle.Proofs.Simulation.Queries

/-!
The handles of the simulated library. They count the configured interfaces from one, those that are
listed and those that a query about an interface accepts alike.
-/

namespace RadioLifecycle.Simulation

open Vendor (Status SessionHandle InterfaceHandle Buffer)

variable {τ : Type}

/-- What the three queries about one interface answer. -/
structure Replies (s : Simulation τ) (handle : InterfaceHandle) (name : Except Status String)
    (driver firmware : Buffer → Except Status Unit × Buffer) : Prop where
  name : (interfaceName handle s).1 = name
  driver : ∀ buffer,
    ((driverVersion handle buffer s).1, (driverVersion handle buffer s).2.1) = driver buffer
  firmware : ∀ buffer,
    ((firmwareVersion handle buffer s).1, (firmwareVersion handle buffer s).2.1) = firmware buffer

/-- The queries are answered as this entry of the configuration calls for. -/
def Answers (s : Simulation τ) (handle : InterfaceHandle) (entry : Interface) : Prop :=
  s.Replies handle entry.tell
    (tellVersion s.behaviour.driverVersionError s.behaviour.driverVersion)
    (tellVersion s.behaviour.firmwareVersionError s.behaviour.firmwareVersion)

/-- The queries are refused, and leave buffers as they are. -/
def Refuses (s : Simulation τ) (handle : InterfaceHandle) : Prop :=
  s.Replies handle (.error .invalidArgs) (fun buffer => (.error .invalidArgs, buffer))
    (fun buffer => (.error .invalidArgs, buffer))

/-- The queries succeed. -/
structure Succeeds (s : Simulation τ) (handle : InterfaceHandle) : Prop where
  name : ∃ name, (interfaceName handle s).1 = .ok name
  driver : ∀ buffer, (driverVersion handle buffer s).1 = .ok ()
  firmware : ∀ buffer, (firmwareVersion handle buffer s).1 = .ok ()

/-- The same behaviour without the errors of queries about an interface. What is refused even so is
refused for its handle. -/
def Behaviour.unhindered (b : Behaviour) : Behaviour :=
  { b with
    interfaces := b.interfaces.map fun i => { i with nameError := none }
    driverVersionError := none
    firmwareVersionError := none }

/-- No query is refused for the handle: all succeed where no error is configured for them. -/
def Accepts (s : Simulation τ) (handle : InterfaceHandle) : Prop :=
  Succeeds { s with behaviour := s.behaviour.unhindered } handle

theorem interface?_eq_some_iff {s : Simulation τ} {handle : InterfaceHandle} {entry : Interface} :
    s.interface? handle = some entry ↔
      ∃ position, handle.raw.toNat = position + 1 ∧
        s.behaviour.interfaces[position]? = some entry := by
  rw [interface?]
  split
  · next hZero => simp [hZero]
  · next position hPosition => simp [hPosition]

theorem interface?_eq_none_iff {s : Simulation τ} {handle : InterfaceHandle} :
    s.interface? handle = none ↔ ¬s.Names handle := by
  rw [← isSome_interface?_iff, Bool.not_eq_true, Option.isSome_eq_false_iff,
    Option.isNone_iff_eq_none]

variable {s : Simulation τ} {handle : InterfaceHandle} {entry : Interface}

theorem answers_of_interface? (h : s.interface? handle = some entry) : s.Answers handle entry where
  name := by
    rw [interfaceName_eq, h]
    rfl
  driver buffer := versionAnswer_of_some _ _ buffer h
  firmware buffer := versionAnswer_of_some _ _ buffer h

theorem refuses_of_not_names (h : ¬s.Names handle) : s.Refuses handle where
  name := by
    rw [interfaceName_eq, interface?_eq_none_iff.mpr h]
    rfl
  driver buffer := versionAnswer_of_none _ _ buffer (interface?_eq_none_iff.mpr h)
  firmware buffer := versionAnswer_of_none _ _ buffer (interface?_eq_none_iff.mpr h)

theorem Answers.succeeds (h : s.Answers handle entry) (hName : entry.nameError = none)
    (hDriver : s.behaviour.driverVersionError = none)
    (hFirmware : s.behaviour.firmwareVersionError = none) : s.Succeeds handle where
  name := by
    rw [h.name, Interface.tell, hName]
    exact ⟨entry.name, rfl⟩
  driver := by
    intro buffer
    have hAnswer := h.driver buffer
    rw [hDriver] at hAnswer
    exact (Prod.mk.inj hAnswer).1
  firmware := by
    intro buffer
    have hAnswer := h.firmware buffer
    rw [hFirmware] at hAnswer
    exact (Prod.mk.inj hAnswer).1

/-- Without errors the queries succeed for the handles that name an interface, and for no other. -/
theorem accepts_iff (s : Simulation τ) (handle : InterfaceHandle) :
    s.Accepts handle ↔ s.Names handle := by
  have hNames : Names { s with behaviour := s.behaviour.unhindered } handle ↔ s.Names handle := by
    simp [Names, Behaviour.unhindered]
  rw [← hNames, Accepts]
  constructor
  · intro hSucceeds
    by_contra hOther
    obtain ⟨name, hName⟩ := hSucceeds.name
    cases hName.symm.trans (refuses_of_not_names hOther).name
  · intro hNamed
    obtain ⟨entry, hEntry⟩ :=
      Option.isSome_iff_exists.mp ((isSome_interface?_iff _ handle).mpr hNamed)
    obtain ⟨position, -, hThere⟩ := interface?_eq_some_iff.mp hEntry
    -- Every entry of the configuration without errors tells its name.
    have hName : entry.nameError = none := by
      obtain ⟨configured, -, rfl⟩ := List.mem_map.mp (List.mem_of_getElem? hThere)
      rfl
    exact (answers_of_interface? hEntry).succeeds hName rfl rfl

/-- The handles that are listed, by their positions. The bound is one that every list in memory
keeps, as its length is a machine word, and it leaves a number for every handle. -/
theorem getElem?_handles_iff (h : s.behaviour.interfaces.length < UInt64.size) {position : Nat} :
    s.handles[position]? = some handle ↔
      position < s.behaviour.interfaces.length ∧ handle.raw.toNat = position + 1 := by
  rw [handles, List.getElem?_map]
  by_cases hPosition : position < s.behaviour.interfaces.length
  · have hNumber : (UInt64.ofNat (position + 1)).toNat = position + 1 :=
      UInt64.toNat_ofNat_of_lt' (by omega)
    rw [List.getElem?_range hPosition, Option.map_some, Option.some_inj]
    constructor
    · rintro rfl
      exact ⟨hPosition, hNumber⟩
    · rintro ⟨-, hRaw⟩
      rw [← hRaw, UInt64.ofNat_toNat]
  · simp [hPosition]

theorem mem_handles_iff (h : s.behaviour.interfaces.length < UInt64.size) :
    handle ∈ s.handles ↔ s.Names handle := by
  simp only [List.mem_iff_getElem?, getElem?_handles_iff h, Names]
  constructor
  · rintro ⟨position, hPosition, hRaw⟩
    omega
  · intro hWithin
    exact ⟨handle.raw.toNat - 1, by omega, by omega⟩

theorem nodup_handles (h : s.behaviour.interfaces.length < UInt64.size) : s.handles.Nodup := by
  rw [List.nodup_iff_getElem?_ne_getElem?]
  intro i j hLess hBound hSame
  have hLater : s.handles[j]? = some s.handles[j] := List.getElem?_eq_getElem hBound
  have hRaw := ((getElem?_handles_iff h).mp (hSame.trans hLater)).2
  have hRaw' := ((getElem?_handles_iff h).mp hLater).2
  omega

theorem interfaces_of_none (h : s.behaviour.enumerationError = none) (session : SessionHandle) :
    (interfaces session s).1 = .ok s.handles := by
  simp only [interfaces, h]
  rfl

/-- Which handles are listed and which are accepted, for any configuration and in any state of the
library. A handle that counts to an entry of the configuration is answered as the entry calls for. A
handle that counts to none, from zero to the last number, is refused in every query, whatever errors
are configured, and buffers stay as they are. If no error is configured for the enumeration, it
lists different handles, one for each entry in their order, and these are the handles that no query
refuses for what they are, each of which is answered by its own entry. The length of the list is a
machine word, as that of every list in memory. -/
theorem listed_iff_accepted (b : Behaviour) :
    (∀ s : Simulation τ, s.behaviour = b → ∀ handle : InterfaceHandle,
      (∀ position entry, handle.raw.toNat = position + 1 →
        b.interfaces[position]? = some entry → s.Answers handle entry) ∧
      (handle.raw = 0 ∨ b.interfaces.length < handle.raw.toNat → s.Refuses handle)) ∧
    (b.enumerationError = none → b.interfaces.length < UInt64.size →
      ∃ listed : List InterfaceHandle,
        listed.Nodup ∧ listed.length = b.interfaces.length ∧
        (∀ position handle, listed[position]? = some handle → handle.raw.toNat = position + 1) ∧
        ∀ s : Simulation τ, s.behaviour = b →
          (∀ session, (interfaces session s).1 = .ok listed) ∧
          ∀ handle, (handle ∈ listed ↔ s.Accepts handle) ∧
            (handle ∈ listed ↔ ∃ (position : Nat) (entry : Interface),
              listed[position]? = some handle ∧ b.interfaces[position]? = some entry ∧
              s.Answers handle entry) ∧
            (handle ∉ listed → s.Refuses handle)) := by
  constructor
  · rintro s rfl handle
    constructor
    · intro position entry hRaw hThere
      exact answers_of_interface? (interface?_eq_some_iff.mpr ⟨position, hRaw, hThere⟩)
    · rintro (hZero | hBeyond)
      · apply refuses_of_not_names
        rintro ⟨hLow, -⟩
        rw [hZero] at hLow
        cases hLow
      · exact refuses_of_not_names fun hNames => Nat.not_lt_of_le hNames.2 hBeyond
  · intro hListing hFits
    let first : Simulation τ := { behaviour := b }
    have hFits : first.behaviour.interfaces.length < UInt64.size := hFits
    refine ⟨first.handles, nodup_handles hFits, by simp [handles, first],
      fun position handle hThere => ((getElem?_handles_iff hFits).mp hThere).2, ?_⟩
    rintro s rfl
    refine ⟨interfaces_of_none hListing, fun handle => ?_⟩
    have hListed : handle ∈ first.handles ↔ s.Names handle := mem_handles_iff hFits
    refine ⟨hListed.trans (s.accepts_iff handle).symm, ⟨fun hMember => ?_, ?_⟩, fun hOther => ?_⟩
    · obtain ⟨position, hThere⟩ := List.mem_iff_getElem?.mp hMember
      obtain ⟨hPosition, hRaw⟩ := (getElem?_handles_iff hFits).mp hThere
      have hEntry := List.getElem?_eq_getElem hPosition
      exact ⟨position, _, hThere, hEntry,
        answers_of_interface? (interface?_eq_some_iff.mpr ⟨position, hRaw, hEntry⟩)⟩
    · rintro ⟨position, entry, hThere, -, -⟩
      exact List.mem_of_getElem? hThere
    · exact refuses_of_not_names (mt hListed.mpr hOther)

/-- Two interfaces, the first of which does not tell its name. An error is configured for one of the
versions, which handles beside the two do not get to see. -/
theorem listed_iff_accepted_refusedName :
    let b : Behaviour :=
      { interfaces := [⟨"p2p0", some .busy⟩, ⟨"wlan0", none⟩]
        firmwareVersionError := some .notSupported }
    let s : Simulation SessionHandle := { behaviour := b }
    s.Answers ⟨1⟩ ⟨"p2p0", some .busy⟩ ∧ s.Refuses ⟨0⟩ ∧ s.Refuses ⟨0xFFFFFFFFFFFFFFFF⟩ ∧
      ∃ listed, (interfaces ⟨7⟩ s).1 = .ok listed ∧ listed.length = 2 ∧ ⟨1⟩ ∈ listed ∧
        ⟨3⟩ ∉ listed ∧ s.Refuses ⟨3⟩ := by
  intro b s
  obtain ⟨hHandles, hListing⟩ := @listed_iff_accepted SessionHandle b
  obtain ⟨listed, -, hLength, -, hStates⟩ := hListing rfl (by decide)
  obtain ⟨hInterfaces, hListed⟩ := hStates s rfl
  have hFirst : (⟨1⟩ : InterfaceHandle) ∈ listed :=
    (hListed ⟨1⟩).1.mpr ((s.accepts_iff ⟨1⟩).mpr ⟨by decide, by decide⟩)
  have hThird : (⟨3⟩ : InterfaceHandle) ∉ listed := by
    intro hMember
    have hNames := (s.accepts_iff ⟨3⟩).mp ((hListed ⟨3⟩).1.mp hMember)
    exact absurd hNames.2 (by decide)
  refine ⟨?_, ?_, ?_, listed, hInterfaces ⟨7⟩, hLength, hFirst, hThird, ?_⟩
  · exact (hHandles s rfl ⟨1⟩).1 0 _ rfl rfl
  · exact (hHandles s rfl ⟨0⟩).2 (.inl rfl)
  · exact (hHandles s rfl ⟨0xFFFFFFFFFFFFFFFF⟩).2 (.inr (by decide))
  · exact (hListed ⟨3⟩).2.2 hThird

end RadioLifecycle.Simulation
