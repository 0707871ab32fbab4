import RadioLifecycle.Proofs.Journal.Agreement

/-!
Surroundings of which one has a few entries more in its journal than the other. Such a surplus stays
what it is, whatever happens on both sides, if the vendor library does not see a difference between
the states that it is in on the two sides.
-/

namespace RadioLifecycle

open Vendor (Library)

variable {σ : Type}

/-- The library does not tell states apart that are related in this way: its entry points answer the
same in both and lead to states that are related again. -/
structure Vendor.Library.Respects (lib : Library σ) (same : σ → σ → Prop) : Prop where
  bringUp : ∀ {s s'}, same s s' → (lib.bringUp s).1 = (lib.bringUp s').1 ∧
    (lib.bringUp s).2.1 = (lib.bringUp s').2.1 ∧ same (lib.bringUp s).2.2 (lib.bringUp s').2.2
  cleanup : ∀ {s s'}, same s s' → ∀ session, same (lib.cleanup session s) (lib.cleanup session s')
  enterLoop : ∀ {s s'}, same s s' → ∀ worker session,
    same (lib.enterLoop worker session s) (lib.enterLoop worker session s')
  runLoop : ∀ {s s'}, same s s' → ∀ worker, (lib.runLoop worker s).1 = (lib.runLoop worker s').1 ∧
    same (lib.runLoop worker s).2 (lib.runLoop worker s').2
  interfaces : ∀ {s s'}, same s s' → ∀ session,
    (lib.interfaces session s).1 = (lib.interfaces session s').1 ∧
      same (lib.interfaces session s).2 (lib.interfaces session s').2
  interfaceName : ∀ {s s'}, same s s' → ∀ interface,
    (lib.interfaceName interface s).1 = (lib.interfaceName interface s').1 ∧
      same (lib.interfaceName interface s).2 (lib.interfaceName interface s').2
  driverVersion : ∀ {s s'}, same s s' → ∀ interface buffer,
    (lib.driverVersion interface buffer s).1 = (lib.driverVersion interface buffer s').1 ∧
      (lib.driverVersion interface buffer s).2.1 = (lib.driverVersion interface buffer s').2.1 ∧
      same (lib.driverVersion interface buffer s).2.2 (lib.driverVersion interface buffer s').2.2
  firmwareVersion : ∀ {s s'}, same s s' → ∀ interface buffer,
    (lib.firmwareVersion interface buffer s).1 = (lib.firmwareVersion interface buffer s').1 ∧
      (lib.firmwareVersion interface buffer s).2.1 =
        (lib.firmwareVersion interface buffer s').2.1 ∧
      same (lib.firmwareVersion interface buffer s).2.2
        (lib.firmwareVersion interface buffer s').2.2

namespace Surroundings

/-- The second surroundings are those of the first with these entries put in somewhere, remarks on
endings aside. -/
structure Exceeds (same : σ → σ → Prop) (surplus : Journal) (w₁ w₂ : Surroundings σ) : Prop where
  vendor : same w₁.vendor w₂.vendor
  kept : w₁.journal.unremarked.Sublist w₂.journal.unremarked
  gained : w₂.journal.unremarked.Perm (w₁.journal ++ surplus).unremarked

variable {same : σ → σ → Prop} {surplus : Journal} {w₁ w₂ : Surroundings σ} {lib : Library σ}

/-- The same entries behind both journals do not touch the surplus. -/
theorem Exceeds.grown (h : w₁.Exceeds same surplus w₂) {s₁ s₂ : σ} (hSame : same s₁ s₂)
    (entries : Journal) :
    Exceeds same surplus ⟨s₁, w₁.journal ++ entries⟩ ⟨s₂, w₂.journal ++ entries⟩ where
  vendor := hSame
  kept := by
    simp only [Journal.unremarked_append]
    exact h.kept.append_right _
  gained := by
    have hMoved : (w₁.journal.unremarked ++ surplus.unremarked ++ entries.unremarked).Perm
        (w₁.journal.unremarked ++ entries.unremarked ++ surplus.unremarked) := by
      rw [List.append_assoc, List.append_assoc]
      exact List.perm_append_comm.append_left _
    have hGained := h.gained
    simp only [Journal.unremarked_append] at hGained ⊢
    exact (hGained.append_right _).trans hMoved

/-- Entries behind the second journal alone add to the surplus. -/
theorem Exceeds.more (h : w₁.Exceeds same surplus w₂) {s₂ : σ} (hSame : same w₁.vendor s₂)
    (entries : Journal) :
    w₁.Exceeds same (surplus ++ entries) ⟨s₂, w₂.journal ++ entries⟩ where
  vendor := hSame
  kept := by
    simp only [Journal.unremarked_append]
    exact h.kept.trans (List.sublist_append_left _ _)
  gained := by
    have hGained := h.gained
    simp only [Journal.unremarked_append, ← List.append_assoc] at hGained ⊢
    exact hGained.append_right _

/-- Remarks on endings are no part of the surplus. -/
theorem Exceeds.congr {v₁ v₂ : Surroundings σ} (h : w₁.Exceeds same surplus w₂)
    (first : v₁.Agrees w₁) (second : v₂.Agrees w₂) : v₁.Exceeds same surplus v₂ where
  vendor := by
    rw [first.vendor, second.vendor]
    exact h.vendor
  kept := by
    rw [first.journal, second.journal]
    exact h.kept
  gained := by
    rw [second.journal, Journal.unremarked_append, first.journal, ← Journal.unremarked_append]
    exact h.gained

/-- Whatever happens on both sides, the second goes on to exceed the first by the same entries. -/
theorem exceeds_bisimulation (respects : lib.Respects same) (surplus : Journal) :
    Bisimulation lib lib (Exceeds same surplus) where
  enter h e := h.grown h.vendor [e]
  remark h name ending₁ ending₂ :=
    h.congr (remark_agrees name ending₁ _) (remark_agrees name ending₂ _)
  bringUp h := by
    obtain ⟨hOutcome, hNotices, hSame⟩ := respects.bringUp h.vendor
    refine ⟨hOutcome, ?_⟩
    simp only [Surroundings.bringUp, hOutcome, hNotices]
    exact h.grown hSame _
  cleanup h session := h.grown (respects.cleanup h.vendor session) _
  enterLoop h worker session := h.grown (respects.enterLoop h.vendor worker session) _
  runLoop h worker := by
    obtain ⟨hProgress, hSame⟩ := respects.runLoop h.vendor worker
    exact ⟨hProgress, hSame, h.kept, h.gained⟩
  interfaces h session := by
    obtain ⟨hOutcome, hSame⟩ := respects.interfaces h.vendor session
    exact ⟨hOutcome, h.grown hSame _⟩
  interfaceName h interface := by
    obtain ⟨hOutcome, hSame⟩ := respects.interfaceName h.vendor interface
    exact ⟨hOutcome, h.grown hSame _⟩
  driverVersion h interface buffer := by
    obtain ⟨hOutcome, hFilled, hSame⟩ := respects.driverVersion h.vendor interface buffer
    exact ⟨hOutcome, hFilled, h.grown hSame _⟩
  firmwareVersion h interface buffer := by
    obtain ⟨hOutcome, hFilled, hSame⟩ := respects.firmwareVersion h.vendor interface buffer
    exact ⟨hOutcome, hFilled, h.grown hSame _⟩

end Surroundings

end RadioLifecycle
