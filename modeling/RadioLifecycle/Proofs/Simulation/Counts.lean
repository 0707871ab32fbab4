import RadioLifecycle.Proofs.Journal.Surplus
import RadioLifecycle.Proofs.Simulation.Queries

/-!
The simulated library counts its calls and never looks at the counts.
-/

namespace RadioLifecycle.Simulation

variable {τ : Type}

/-- Two states of the simulated library differ in nothing but how often it was called. -/
def Recounted (s s' : Simulation τ) : Prop :=
  ∃ calls, s' = { s with calls }

theorem equivalence_recounted : Equivalence (Recounted : Simulation τ → Simulation τ → Prop) where
  refl s := ⟨s.calls, rfl⟩
  symm := by
    rintro s _ ⟨calls, rfl⟩
    exact ⟨s.calls, rfl⟩
  trans := by
    rintro s _ _ ⟨calls, rfl⟩ ⟨calls', rfl⟩
    exact ⟨calls', rfl⟩

/-- The simulated library does not look at how often it was called. -/
theorem library_respects : library.Respects Recounted where
  bringUp := by
    rintro s _ ⟨calls, rfl⟩
    simp only [library, bringUp]
    cases s.behaviour.bringUpError with
    | none => exact ⟨rfl, rfl, _, rfl⟩
    | some status => exact ⟨rfl, rfl, _, rfl⟩
  cleanup := by
    rintro s _ ⟨calls, rfl⟩ session
    exact ⟨_, rfl⟩
  enterLoop := by
    rintro s _ ⟨calls, rfl⟩ worker session
    exact ⟨_, rfl⟩
  runLoop := by
    rintro s _ ⟨calls, rfl⟩ worker
    have hLeave : mayLeave { s with calls } = s.mayLeave := rfl
    simp only [library, runLoop, hLeave]
    cases s.threads.find? (·.id = worker) with
    | none => exact ⟨rfl, _, rfl⟩
    | some thread =>
        obtain ⟨id, session, stage⟩ := thread
        cases stage with
        | parked => exact ⟨rfl, _, rfl⟩
        | leaving handler => exact ⟨rfl, _, rfl⟩
        | awake =>
            cases s.mayLeave with
            | true => exact ⟨rfl, _, rfl⟩
            | false => exact ⟨rfl, _, rfl⟩
  interfaces := by
    rintro s _ ⟨calls, rfl⟩ session
    simp only [library, interfaces]
    cases s.behaviour.enumerationError with
    | none => exact ⟨rfl, _, rfl⟩
    | some status => exact ⟨rfl, _, rfl⟩
  interfaceName := by
    rintro s _ ⟨calls, rfl⟩ interface
    rw [show library.interfaceName = interfaceName from rfl, interfaceName_eq, interfaceName_eq]
    exact ⟨rfl, _, rfl⟩
  driverVersion := by
    rintro s _ ⟨calls, rfl⟩ interface buffer
    exact ⟨rfl, rfl, _, rfl⟩
  firmwareVersion := by
    rintro s _ ⟨calls, rfl⟩ interface buffer
    exact ⟨rfl, rfl, _, rfl⟩

end RadioLifecycle.Simulation
