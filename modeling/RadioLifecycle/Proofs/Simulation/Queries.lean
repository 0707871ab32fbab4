import RadioLifecycle.Simulation.Library

/-!
What the simulated library answers to questions about an interface. The answers are configured, and
nothing that is asked changes the configuration, so they stay the same; all that is kept of a
question is that it was asked.
-/

namespace RadioLifecycle.Simulation

open Vendor (Status InterfaceHandle Buffer)

variable {τ : Type}

/-- What an interface answers when it is asked for its name. -/
def Interface.tell (i : Interface) : Except Status String :=
  match i.nameError with
  | some status => .error status
  | none => .ok i.name

/-- Which interface a handle names is a matter of what is configured. -/
theorem interface?_congr {s s' : Simulation τ} (h : s'.behaviour = s.behaviour)
    (handle : InterfaceHandle) : s'.interface? handle = s.interface? handle := by
  rw [interface?, interface?, h]

/-- Whether a handle names a configured interface. Handles count them from one. -/
def Names (s : Simulation τ) (handle : InterfaceHandle) : Prop :=
  1 ≤ handle.raw.toNat ∧ handle.raw.toNat ≤ s.behaviour.interfaces.length

theorem isSome_interface?_iff (s : Simulation τ) (handle : InterfaceHandle) :
    (s.interface? handle).isSome = true ↔ s.Names handle := by
  rw [interface?, Names]
  split
  · next hZero => simp [hZero]
  · next position hPosition =>
      have hInside : (s.behaviour.interfaces[position]?).isSome = true ↔
          position < s.behaviour.interfaces.length := by simp
      rw [hInside, hPosition]
      omega

theorem interfaceName_eq (handle : InterfaceHandle) (s : Simulation τ) :
    interfaceName handle s =
      ((s.interface? handle).elim (.error .invalidArgs) Interface.tell,
        { s with calls.interfaceName := s.calls.interfaceName + 1 }) := by
  have hSame : Simulation.interface?
      { s with calls.interfaceName := s.calls.interfaceName + 1 } handle = s.interface? handle :=
    interface?_congr rfl handle
  simp only [interfaceName, hSame]
  cases s.interface? handle with
  | none => rfl
  | some i =>
      obtain ⟨name, _ | status⟩ := i
      · rfl
      · rfl

theorem driverVersion_eq (handle : InterfaceHandle) (buffer : Buffer) (s : Simulation τ) :
    driverVersion handle buffer s =
      let answer :=
        s.versionAnswer handle s.behaviour.driverVersionError s.behaviour.driverVersion buffer
      (answer.1, answer.2, { s with calls.driverVersion := s.calls.driverVersion + 1 }) :=
  rfl

theorem firmwareVersion_eq (handle : InterfaceHandle) (buffer : Buffer) (s : Simulation τ) :
    firmwareVersion handle buffer s =
      let answer :=
        s.versionAnswer handle s.behaviour.firmwareVersionError s.behaviour.firmwareVersion buffer
      (answer.1, answer.2, { s with calls.firmwareVersion := s.calls.firmwareVersion + 1 }) :=
  rfl

/-- What a version query about a configured interface answers, and what becomes of the buffer. -/
def tellVersion (error : Option Status) (version : String) (buffer : Buffer) :
    Except Status Unit × Buffer :=
  match error with
  | some status => (.error status, buffer)
  | none => (.ok (), (buffer.write version).2)

section

variable {s : Simulation τ} {handle : InterfaceHandle} (error : Option Status) (version : String)
  (buffer : Buffer)

theorem versionAnswer_of_some {i : Interface} (h : s.interface? handle = some i) :
    s.versionAnswer handle error version buffer = tellVersion error version buffer := by
  cases error <;> simp [versionAnswer, tellVersion, h]

theorem versionAnswer_of_none (h : s.interface? handle = none) :
    s.versionAnswer handle error version buffer = (.error .invalidArgs, buffer) := by
  simp [versionAnswer, h]

end

/-- A version query fills the buffer if the handle names an interface and no error is configured for
it, and fails otherwise. -/
theorem versionAnswer_cases (s : Simulation τ) (handle : InterfaceHandle) (error : Option Status)
    (version : String) (buffer : Buffer) :
    (s.Names handle ∧ error = none ∧
      s.versionAnswer handle error version buffer = (.ok (), (buffer.write version).2)) ∨
    (¬(s.Names handle ∧ error = none) ∧
      ∃ status, s.versionAnswer handle error version buffer = (.error status, buffer)) := by
  rw [← isSome_interface?_iff]
  cases hInterface : s.interface? handle with
  | none =>
      have hRefused := versionAnswer_of_none error version buffer hInterface
      exact .inr ⟨by simp, .invalidArgs, hRefused⟩
  | some i =>
      rw [versionAnswer_of_some error version buffer hInterface]
      cases error with
      | none => exact .inl ⟨rfl, rfl, rfl⟩
      | some status => exact .inr ⟨by simp, status, rfl⟩

end RadioLifecycle.Simulation
