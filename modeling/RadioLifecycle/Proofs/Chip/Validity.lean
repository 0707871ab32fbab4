import RadioLifecycle.Proofs.Controller.ChipShift
import RadioLifecycle.Simulation.Library

/-!
When a chip is worth nothing any more. A chip is linked to the vendor library until it is
invalidated, but its link does not keep the library alive, so the library can also be gone from
under it. Either is for good, and either ends all that the chip asks the library for and tells
anybody. Only the first makes the chip say that it is invalid: when the library is gone, a chip that
is linked to it still counts as valid and takes subscribers, which will never be told anything.
-/

namespace RadioLifecycle.Chip

open Vendor (Library InterfaceHandle SessionHandle)

variable {σ : Type}

/-- What can happen to a chip. -/
inductive Incident where
  | asked (request : Request)
  /-- Whoever else kept the vendor library alive lets it go. -/
  | deserted
  deriving DecidableEq, Repr

/-- A chip with what it acts on, and whether the vendor library is kept alive. -/
structure Standing (σ : Type) where
  chip : Chip
  alive : Bool := true
  surroundings : Surroundings σ

namespace Standing

/-- What a chip answers to a request. -/
def answer (lib : Library σ) (respond : Response) (s : Standing σ) (request : Request) : Answer :=
  (s.chip.perform lib respond s.alive request s.surroundings).1

def after (lib : Library σ) (respond : Response) (s : Standing σ) : Incident → Standing σ
  | .asked request =>
    let (_, chip, surroundings) := s.chip.perform lib respond s.alive request s.surroundings
    { s with chip, surroundings }
  | .deserted => { s with alive := false }

def afterAll (lib : Library σ) (respond : Response) (s : Standing σ)
    (incidents : List Incident) : Standing σ :=
  incidents.foldl (after lib respond) s

/-- Nothing comes of the link to the library any more. -/
def Lost (s : Standing σ) : Prop :=
  s.chip.isValid = false ∨ s.alive = false

variable {lib : Library σ} {respond : Response} {s : Standing σ}

theorem after_alive (incident : Incident) :
    (s.after lib respond incident).alive = true ↔ s.alive = true ∧ incident ≠ .deserted := by
  cases incident with
  | asked request => simp [after]
  | deserted => simp [after]

/-- A chip stays valid until it is invalidated, also when its library is gone. -/
theorem after_isValid (incident : Incident) :
    (s.after lib respond incident).chip.isValid = true ↔
      s.chip.isValid = true ∧ incident ≠ .asked .invalidate := by
  cases incident with
  | deserted => simp [after]
  | asked request =>
      have hChip : (s.after lib respond (.asked request)).chip = s.chip.afterRequest request :=
        s.chip.perform_chip lib respond s.alive request s.surroundings
      rw [hChip]
      by_cases hRequest : request = .invalidate
      · subst hRequest
        simp [afterRequest, isValid]
      · simp [isValid, s.chip.afterRequest_linked hRequest, hRequest]

theorem afterAll_alive (incidents : List Incident) :
    (s.afterAll lib respond incidents).alive = true ↔
      s.alive = true ∧ .deserted ∉ incidents := by
  induction incidents generalizing s with
  | nil => simp [afterAll]
  | cons incident rest ih =>
      rw [afterAll, List.foldl_cons, ← afterAll, ih, after_alive, List.mem_cons, not_or, and_assoc,
        ne_comm]

theorem afterAll_isValid (incidents : List Incident) :
    (s.afterAll lib respond incidents).chip.isValid = true ↔
      s.chip.isValid = true ∧ .asked .invalidate ∉ incidents := by
  induction incidents generalizing s with
  | nil => simp [afterAll]
  | cons incident rest ih =>
      rw [afterAll, List.foldl_cons, ← afterAll, ih, after_isValid, List.mem_cons, not_or, and_assoc,
        ne_comm]

theorem Lost.afterAll (h : s.Lost) (incidents : List Incident) :
    (s.afterAll lib respond incidents).Lost := by
  rw [Lost, ← Bool.not_eq_true, ← Bool.not_eq_true, afterAll_isValid, afterAll_alive]
  rcases h with hInvalid | hGone
  · simp [hInvalid]
  · simp [hGone]

theorem answer_report_eq_none_iff :
    s.answer lib respond .report = .report none ↔ s.Lost := by
  simp only [answer, perform, requestReport, Lost, isValid]
  cases hLinked : s.chip.linked <;> cases hAlive : s.alive <;> simp

theorem answer_register_eq_false_iff (subscriber : SubscriberId) :
    s.answer lib respond (.register subscriber) = .flag false ↔
      s.chip.isValid = false ∨ subscriber ∈ s.chip.subscribers.members := by
  simp only [answer, perform, register, Subscribers.register]
  cases s.chip.isValid with
  | false => simp
  | true =>
      by_cases hMember : subscriber ∈ s.chip.subscribers.members <;> simp [hMember]

/-- Once nothing comes of the link, no incident asks the library for anything or tells anybody. -/
theorem Lost.after_adds (h : s.Lost) (lib : Library σ) (respond : Response) (incident : Incident) :
    s.surroundings.Adds (s.after lib respond incident).surroundings [] [] [] ∧
      (s.after lib respond incident).surroundings.vendor = s.surroundings.vendor := by
  cases incident with
  | deserted => exact ⟨.refl _, rfl⟩
  | asked request =>
      cases request with
      | report =>
          have hNothing : (s.chip.linked && s.alive) = false := by
            rcases h with hInvalid | hGone
            · rw [show s.chip.linked = false from hInvalid, Bool.false_and]
            · rw [hGone, Bool.and_false]
          simp only [after, perform, requestReport, hNothing]
          exact ⟨.refl _, rfl⟩
      | invalidate =>
          simp only [after, perform, invalidate]
          cases s.chip.linked with
          | true => exact ⟨Surroundings.note_adds _ _, rfl⟩
          | false => exact ⟨.refl _, rfl⟩
      | id | isValid | register | unregister | modes | configure | mode => exact ⟨.refl _, rfl⟩

theorem Lost.afterAll_adds (h : s.Lost) (lib : Library σ) (respond : Response)
    (incidents : List Incident) :
    s.surroundings.Adds (s.afterAll lib respond incidents).surroundings [] [] [] ∧
      (s.afterAll lib respond incidents).surroundings.vendor = s.surroundings.vendor := by
  induction incidents generalizing s with
  | nil => exact ⟨.refl _, rfl⟩
  | cons incident rest ih =>
      obtain ⟨hAdds, hVendor⟩ := h.after_adds lib respond incident
      have hNext : (s.after lib respond incident).Lost := h.afterAll [incident]
      obtain ⟨hRest, hVendorRest⟩ := ih hNext
      exact ⟨hAdds.after hRest, hVendorRest.trans hVendor⟩

/-- How far the validity of a chip tells what can be had of it, after any course of incidents. The
chip is valid unless it was invalidated. It reports nothing if it was invalidated or deserted, so
that its validity is wrong about reports exactly if it was deserted and not invalidated. It refuses
a subscriber if it is invalid or has that subscriber already. An invalid chip stays invalid, and a
chip that reports nothing goes on reporting nothing; whatever happens to it, it asks the library for
nothing and tells nobody anything. -/
theorem afterAll_validity (lib : Library σ) (respond : Response) (id : ChipId)
    (interface : InterfaceHandle) (w : Surroundings σ) (incidents : List Incident) :
    let start : Standing σ := { chip := { id, interface }, surroundings := w }
    let s := start.afterAll lib respond incidents
    (s.chip.isValid = true ↔ .asked .invalidate ∉ incidents) ∧
    (s.answer lib respond .report = .report none ↔
      s.chip.isValid = false ∨ .deserted ∈ incidents) ∧
    ((s.answer lib respond .report = .report none ↔ s.chip.isValid = false) ↔
      (.deserted ∈ incidents → .asked .invalidate ∈ incidents)) ∧
    (∀ subscriber, s.answer lib respond (.register subscriber) = .flag false ↔
      s.chip.isValid = false ∨ subscriber ∈ s.chip.subscribers.members) ∧
    ∀ later, let t := s.afterAll lib respond later
      (s.chip.isValid = false → t.chip.isValid = false) ∧
      (s.answer lib respond .report = .report none →
        t.answer lib respond .report = .report none ∧
        s.surroundings.Adds t.surroundings [] [] [] ∧
        t.surroundings.vendor = s.surroundings.vendor) := by
  intro start s
  have hValid : s.chip.isValid = true ↔ .asked .invalidate ∉ incidents := by
    rw [afterAll_isValid]
    simp [start, isValid]
  have hAlive : s.alive = false ↔ .deserted ∈ incidents := by
    rw [← Bool.not_eq_true, afterAll_alive]
    simp [start]
  have hReport : s.answer lib respond .report = .report none ↔
      s.chip.isValid = false ∨ .deserted ∈ incidents := by
    rw [answer_report_eq_none_iff, Lost, hAlive]
  have hInvalid : s.chip.isValid = false ↔ .asked .invalidate ∈ incidents := by
    rw [← Bool.not_eq_true, hValid, not_not]
  refine ⟨hValid, hReport, ?_, answer_register_eq_false_iff, ?_⟩
  · rw [hReport, hInvalid, or_iff_left_iff_imp]
  · intro later t
    constructor
    · intro hInvalid
      rw [← Bool.not_eq_true, afterAll_isValid]
      simp [hInvalid]
    · intro hNone
      have hLost : s.Lost := answer_report_eq_none_iff.mp hNone
      exact ⟨answer_report_eq_none_iff.mpr (hLost.afterAll later),
        hLost.afterAll_adds lib respond later⟩

/-- A chip that is deserted by its library reports nothing, yet is valid and takes a subscriber. -/
theorem afterAll_deserted_stillValid :
    let start : Standing (Simulation SessionHandle) :=
      { chip := { id := ⟨1⟩, interface := ⟨1⟩ }, surroundings := { vendor := { behaviour := {} } } }
    let s := start.afterAll Simulation.library (fun _ _ => .accepted) [.deserted]
    s.answer Simulation.library (fun _ _ => .accepted) .report = .report none ∧
      s.chip.isValid = true ∧
      s.answer Simulation.library (fun _ _ => .accepted) (.register ⟨0⟩) = .flag true := by
  decide +kernel

end Standing

end RadioLifecycle.Chip
