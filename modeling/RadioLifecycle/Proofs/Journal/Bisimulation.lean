import RadioLifecycle.Chip
import RadioLifecycle.Vendor.Lookup

/-!
Doing the same on two surroundings. All that the control plane does to its surroundings comes down
to the calls into the library, the entries of the journal and the remarks on how deliveries ended.
So a relation between surroundings that these keep, while the two libraries answer alike, is kept by
everything, and everything has the same outcome on both sides. The subscribers of the two sides may
respond as they like.
-/

namespace RadioLifecycle

open Vendor (Library Status SessionHandle InterfaceHandle Buffer WorkerId findAmong findInterface)

namespace Surroundings

variable {σ₁ σ₂ : Type}

/-- Two outcomes are the same, and the surroundings that they leave behind are related. -/
def Alongside (S : Surroundings σ₁ → Surroundings σ₂ → Prop) {α : Type}
    (p : α × Surroundings σ₁) (q : α × Surroundings σ₂) : Prop :=
  p.1 = q.1 ∧ S p.2 q.2

theorem Alongside.split {S : Surroundings σ₁ → Surroundings σ₂ → Prop} {α : Type}
    {p : α × Surroundings σ₁} {q : α × Surroundings σ₂} (h : Alongside S p q) :
    ∃ outcome v₁ v₂, p = (outcome, v₁) ∧ q = (outcome, v₂) ∧ S v₁ v₂ :=
  ⟨p.1, p.2, q.2, rfl, Prod.ext h.1.symm rfl, h.2⟩

/-- A relation that lasts when the same happens on both sides, with libraries that answer alike. -/
structure Bisimulation (lib₁ : Library σ₁) (lib₂ : Library σ₂)
    (S : Surroundings σ₁ → Surroundings σ₂ → Prop) : Prop where
  enter : ∀ {w₁ w₂}, S w₁ w₂ → ∀ e, S (w₁.enter e) (w₂.enter e)
  remark : ∀ {w₁ w₂}, S w₁ w₂ → ∀ name ending₁ ending₂,
    S (Subscribers.remark name note ending₁ w₁) (Subscribers.remark name note ending₂ w₂)
  bringUp : ∀ {w₁ w₂}, S w₁ w₂ → Alongside S (w₁.bringUp lib₁) (w₂.bringUp lib₂)
  cleanup : ∀ {w₁ w₂}, S w₁ w₂ → ∀ session, S (w₁.cleanup lib₁ session) (w₂.cleanup lib₂ session)
  enterLoop : ∀ {w₁ w₂}, S w₁ w₂ → ∀ worker session,
    S (w₁.enterLoop lib₁ worker session) (w₂.enterLoop lib₂ worker session)
  runLoop : ∀ {w₁ w₂}, S w₁ w₂ → ∀ worker,
    Alongside S (w₁.runLoop lib₁ worker) (w₂.runLoop lib₂ worker)
  interfaces : ∀ {w₁ w₂}, S w₁ w₂ → ∀ session,
    Alongside S (w₁.interfaces lib₁ session) (w₂.interfaces lib₂ session)
  interfaceName : ∀ {w₁ w₂}, S w₁ w₂ → ∀ interface,
    Alongside S (w₁.interfaceName lib₁ interface) (w₂.interfaceName lib₂ interface)
  driverVersion : ∀ {w₁ w₂}, S w₁ w₂ → ∀ interface buffer,
    (w₁.driverVersion lib₁ interface buffer).1 = (w₂.driverVersion lib₂ interface buffer).1 ∧
      Alongside S (w₁.driverVersion lib₁ interface buffer).2
        (w₂.driverVersion lib₂ interface buffer).2
  firmwareVersion : ∀ {w₁ w₂}, S w₁ w₂ → ∀ interface buffer,
    (w₁.firmwareVersion lib₁ interface buffer).1 = (w₂.firmwareVersion lib₂ interface buffer).1 ∧
      Alongside S (w₁.firmwareVersion lib₁ interface buffer).2
        (w₂.firmwareVersion lib₂ interface buffer).2

end Surroundings

open Surroundings

variable {σ₁ σ₂ : Type} {lib₁ : Library σ₁} {lib₂ : Library σ₂}
  {S : Surroundings σ₁ → Surroundings σ₂ → Prop} {w₁ : Surroundings σ₁} {w₂ : Surroundings σ₂}

theorem Surroundings.Bisimulation.note (bisim : Bisimulation lib₁ lib₂ S) (h : S w₁ w₂)
    (n : Notice) : S (w₁.note n) (w₂.note n) :=
  bisim.enter h (.notice n)

/-- A broadcast reaches the same subscribers in the same order, however any of them responds. -/
theorem Subscribers.broadcast_bisim (s : Subscribers SubscriberId) (name : String) (event : Event)
    (bisim : Bisimulation lib₁ lib₂ S) (first second : Response) (h : S w₁ w₂) :
    S (s.broadcast name (fun subscriber w => w.deliver first ⟨subscriber, event⟩)
        Surroundings.note w₁).2
      (s.broadcast name (fun subscriber w => w.deliver second ⟨subscriber, event⟩)
        Surroundings.note w₂).2 := by
  obtain ⟨members⟩ := s
  simp only [broadcast]
  induction members generalizing w₁ w₂ with
  | nil => exact h
  | cons subscriber rest ih => exact ih (bisim.remark (bisim.enter h _) name _ _)

namespace Vendor

theorem findAmong_bisim (bisim : Bisimulation lib₁ lib₂ S) (wanted : String)
    (listed : List InterfaceHandle) (h : S w₁ w₂) :
    Alongside S (findAmong lib₁ wanted listed w₁) (findAmong lib₂ wanted listed w₂) := by
  induction listed generalizing w₁ w₂ with
  | nil => exact ⟨rfl, h⟩
  | cons interface rest ih =>
      obtain ⟨name, v₁, v₂, hFirst, hSecond, hNext⟩ := (bisim.interfaceName h interface).split
      simp only [findAmong, hFirst, hSecond]
      cases name with
      | error status => exact ih (bisim.note hNext _)
      | ok name =>
          by_cases hName : name = wanted
          · simp only [hName, ↓reduceIte]
            exact ⟨rfl, hNext⟩
          · simp only [hName, ↓reduceIte]
            exact ih hNext

theorem findInterface_bisim (bisim : Bisimulation lib₁ lib₂ S) (session : SessionHandle)
    (wanted : String) (h : S w₁ w₂) :
    Alongside S (findInterface lib₁ session wanted w₁) (findInterface lib₂ session wanted w₂) := by
  obtain ⟨listed, v₁, v₂, hFirst, hSecond, hNext⟩ := (bisim.interfaces h session).split
  simp only [findInterface, hFirst, hSecond]
  cases listed with
  | error status => exact ⟨rfl, bisim.note hNext _⟩
  | ok listed =>
      obtain ⟨found, u₁, u₂, hFound, hFound', hLast⟩ :=
        (findAmong_bisim bisim wanted listed hNext).split
      simp only [hFound, hFound']
      cases found with
      | none => exact ⟨rfl, bisim.note hLast _⟩
      | some interface => exact ⟨rfl, hLast⟩

end Vendor

namespace Chip

theorem description_bisim (bisim : Bisimulation lib₁ lib₂ S)
    {answer₁ : Except Status Unit × Buffer × Surroundings σ₁}
    {answer₂ : Except Status Unit × Buffer × Surroundings σ₂}
    (h : answer₁.1 = answer₂.1 ∧ Alongside S answer₁.2 answer₂.2) (failed : Status → Notice) :
    Alongside S (description answer₁ failed) (description answer₂ failed) := by
  obtain ⟨outcome, buffer, v₁⟩ := answer₁
  obtain ⟨_, _, v₂⟩ := answer₂
  obtain ⟨rfl, rfl, hNext⟩ := h
  cases outcome with
  | ok => exact ⟨rfl, hNext⟩
  | error status => exact ⟨rfl, bisim.note hNext _⟩

theorem requestReport_bisim (bisim : Bisimulation lib₁ lib₂ S) (first second : Response)
    (alive : Bool) (c : Chip) (h : S w₁ w₂) :
    Alongside S (c.requestReport lib₁ first alive w₁) (c.requestReport lib₂ second alive w₂) := by
  simp only [requestReport]
  cases c.linked && alive with
  | false => exact ⟨rfl, h⟩
  | true =>
      obtain ⟨hDriver, hNext⟩ := description_bisim bisim
        (bisim.driverVersion h c.interface (.zeroed reportBufferSize)) .driverVersionFailed
      obtain ⟨hFirmware, hLast⟩ := description_bisim bisim
        (bisim.firmwareVersion hNext c.interface (.zeroed reportBufferSize)) .firmwareVersionFailed
      simp only [↓reduceIte]
      rw [hDriver, hFirmware]
      exact ⟨rfl, c.subscribers.broadcast_bisim _ _ bisim first second hLast⟩

theorem invalidate_bisim (bisim : Bisimulation lib₁ lib₂ S) (c : Chip) (h : S w₁ w₂) :
    S (c.invalidate w₁).2 (c.invalidate w₂).2 := by
  simp only [invalidate]
  cases c.linked with
  | false => exact h
  | true => exact bisim.note h _

/-- A request has the same answer and does the same. -/
theorem perform_bisim (bisim : Bisimulation lib₁ lib₂ S) (first second : Response) (alive : Bool)
    (c : Chip) (request : Request) (h : S w₁ w₂) :
    (c.perform lib₁ first alive request w₁).1 = (c.perform lib₂ second alive request w₂).1 ∧
    (c.perform lib₁ first alive request w₁).2.1 = (c.perform lib₂ second alive request w₂).2.1 ∧
    S (c.perform lib₁ first alive request w₁).2.2 (c.perform lib₂ second alive request w₂).2.2 := by
  cases request with
  | report =>
      obtain ⟨hReport, hNext⟩ := c.requestReport_bisim bisim first second alive h
      exact ⟨congrArg Answer.report hReport, rfl, hNext⟩
  | invalidate => exact ⟨rfl, rfl, c.invalidate_bisim bisim h⟩
  | id | isValid | register | unregister | modes | configure | mode => exact ⟨rfl, rfl, h⟩

end Chip

end RadioLifecycle
