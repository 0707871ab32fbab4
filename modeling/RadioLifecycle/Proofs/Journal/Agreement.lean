import RadioLifecycle.Proofs.Journal.Bisimulation
import RadioLifecycle.Proofs.Journal.Growth

/-!
Surroundings that differ in nothing but what was remarked of the endings of deliveries. Such a
remark is a notice, so it is for people to read: no function looks at it, and no function looks at
how a delivery ended. Whatever acts on surroundings that agree therefore has the same result, also
if subscribers respond otherwise.
-/

namespace RadioLifecycle

open Vendor (Library SessionHandle InterfaceHandle Buffer WorkerId)

/-- Whether a notice is a remark on how a delivery ended. -/
def Notice.remarksEnding : Notice → Bool
  | .subscriberDisconnected _ | .subscriberPanicked _ => true
  | .bringingUp | .bringUpFailed _ | .sessionStarted _ | .startRefused _ | .cleaningUp _
  | .stopWithoutHandle _ | .cleanupComplete | .loopTerminated _ | .chipBound _ _
  | .chipInvalidated _ | .runningWithoutChip _ | .enumerationFailed _ _ | .interfaceNameFailed _ _
  | .interfaceNotFound _ | .driverVersionFailed _ | .firmwareVersionFailed _ | .vendorCreated _ _
  | .simulationReady _ _ | .simulationRefused _ => false

def Entry.remarksEnding : Entry → Bool
  | .notice n => n.remarksEnding
  | .call _ | .delivery _ | .fatal _ | .visit _ => false

namespace Journal

/-- The journal without the remarks on endings. -/
def unremarked (j : Journal) : Journal :=
  j.filter (!·.remarksEnding)

@[simp]
theorem unremarked_append (j k : Journal) : unremarked (j ++ k) = j.unremarked ++ k.unremarked :=
  List.filter_append ..

/-- Whoever does not look at notices does not miss the remarks. -/
theorem filterMap_unremarked {α : Type} (read : Entry → Option α)
    (h : ∀ n, read (.notice n) = none) (j : Journal) :
    j.unremarked.filterMap read = j.filterMap read := by
  rw [unremarked, List.filterMap_filter]
  refine List.filterMap_congr fun e _ => ?_
  cases e with
  | notice n => rw [h n, ite_self]
  | call | delivery | fatal | visit => rfl

@[simp]
theorem deliveries_unremarked (j : Journal) : j.unremarked.deliveries = j.deliveries :=
  j.filterMap_unremarked _ fun _ => rfl

@[simp]
theorem calls_unremarked (j : Journal) : j.unremarked.calls = j.calls :=
  j.filterMap_unremarked _ fun _ => rfl

end Journal

namespace Surroundings

variable {σ α : Type}

/-- Two surroundings are the same but for remarks on endings. -/
structure Agrees (w₁ w₂ : Surroundings σ) : Prop where
  vendor : w₁.vendor = w₂.vendor
  journal : w₁.journal.unremarked = w₂.journal.unremarked

/-- Two outcomes are the same, and so are the surroundings but for remarks on endings. -/
def Alike (p q : α × Surroundings σ) : Prop :=
  p.1 = q.1 ∧ p.2.Agrees q.2

variable {w₁ w₂ : Surroundings σ}

theorem Agrees.deliveries (h : w₁.Agrees w₂) : w₁.journal.deliveries = w₂.journal.deliveries := by
  rw [← Journal.deliveries_unremarked, h.journal, Journal.deliveries_unremarked]

/-- Surroundings that agree go on to agree when the same happens to both. -/
theorem Agrees.grown (h : w₁.Agrees w₂) (vendor : σ) (entries : Journal) :
    Agrees ⟨vendor, w₁.journal ++ entries⟩ ⟨vendor, w₂.journal ++ entries⟩ :=
  ⟨rfl, by simp [h.journal]⟩

theorem Agrees.enter (h : w₁.Agrees w₂) (e : Entry) : (w₁.enter e).Agrees (w₂.enter e) :=
  ⟨h.vendor, by simp [Surroundings.enter, h.journal]⟩

theorem Agrees.bringUp (h : w₁.Agrees w₂) (lib : Library σ) :
    Alike (w₁.bringUp lib) (w₂.bringUp lib) := by
  simp only [Surroundings.bringUp, h.vendor]
  exact ⟨rfl, h.grown _ _⟩

theorem Agrees.cleanup (h : w₁.Agrees w₂) (lib : Library σ) (session : SessionHandle) :
    (w₁.cleanup lib session).Agrees (w₂.cleanup lib session) := by
  simp only [Surroundings.cleanup, h.vendor]
  exact h.grown _ _

theorem Agrees.enterLoop (h : w₁.Agrees w₂) (lib : Library σ) (worker : WorkerId)
    (session : SessionHandle) :
    (w₁.enterLoop lib worker session).Agrees (w₂.enterLoop lib worker session) := by
  simp only [Surroundings.enterLoop, h.vendor]
  exact h.grown _ _

theorem Agrees.runLoop (h : w₁.Agrees w₂) (lib : Library σ) (worker : WorkerId) :
    Alike (w₁.runLoop lib worker) (w₂.runLoop lib worker) := by
  simp only [Surroundings.runLoop, h.vendor]
  exact ⟨rfl, rfl, h.journal⟩

theorem Agrees.interfaces (h : w₁.Agrees w₂) (lib : Library σ) (session : SessionHandle) :
    Alike (w₁.interfaces lib session) (w₂.interfaces lib session) := by
  simp only [Surroundings.interfaces, h.vendor]
  exact ⟨rfl, h.grown _ _⟩

theorem Agrees.interfaceName (h : w₁.Agrees w₂) (lib : Library σ) (interface : InterfaceHandle) :
    Alike (w₁.interfaceName lib interface) (w₂.interfaceName lib interface) := by
  simp only [Surroundings.interfaceName, h.vendor]
  exact ⟨rfl, h.grown _ _⟩

theorem Agrees.driverVersion (h : w₁.Agrees w₂) (lib : Library σ) (interface : InterfaceHandle)
    (buffer : Buffer) :
    (w₁.driverVersion lib interface buffer).1 = (w₂.driverVersion lib interface buffer).1 ∧
      Alike (w₁.driverVersion lib interface buffer).2
        (w₂.driverVersion lib interface buffer).2 := by
  rw [Surroundings.driverVersion, Surroundings.driverVersion, h.vendor]
  exact ⟨rfl, rfl, h.grown _ _⟩

theorem Agrees.firmwareVersion (h : w₁.Agrees w₂) (lib : Library σ) (interface : InterfaceHandle)
    (buffer : Buffer) :
    (w₁.firmwareVersion lib interface buffer).1 = (w₂.firmwareVersion lib interface buffer).1 ∧
      Alike (w₁.firmwareVersion lib interface buffer).2
        (w₂.firmwareVersion lib interface buffer).2 := by
  rw [Surroundings.firmwareVersion, Surroundings.firmwareVersion, h.vendor]
  exact ⟨rfl, rfl, h.grown _ _⟩

/-- Whatever becomes of a delivery, the remark on it makes no difference. -/
theorem remark_agrees (name : String) (ending : Ending) (w : Surroundings σ) :
    (Subscribers.remark name Surroundings.note ending w).Agrees w := by
  cases ending with
  | accepted => exact ⟨rfl, rfl⟩
  | disconnected | panicked =>
      refine ⟨rfl, ?_⟩
      simp only [Subscribers.remark, Surroundings.note, Surroundings.enter,
        Journal.unremarked_append]
      exact List.append_nil _

theorem Agrees.remark (h : w₁.Agrees w₂) (name : String) (ending₁ ending₂ : Ending) :
    (Subscribers.remark name Surroundings.note ending₁ w₁).Agrees
      (Subscribers.remark name Surroundings.note ending₂ w₂) := by
  have hFirst := remark_agrees name ending₁ w₁
  have hSecond := remark_agrees name ending₂ w₂
  exact ⟨hFirst.vendor.trans (h.vendor.trans hSecond.vendor.symm),
    hFirst.journal.trans (h.journal.trans hSecond.journal.symm)⟩

/-- Whatever happens on both sides, the surroundings go on to agree. -/
theorem agrees_bisimulation (lib : Library σ) : Bisimulation lib lib Agrees where
  enter h := h.enter
  remark h := h.remark
  bringUp h := h.bringUp lib
  cleanup h := h.cleanup lib
  enterLoop h := h.enterLoop lib
  runLoop h := h.runLoop lib
  interfaces h := h.interfaces lib
  interfaceName h := h.interfaceName lib
  driverVersion h := h.driverVersion lib
  firmwareVersion h := h.firmwareVersion lib

end Surroundings

end RadioLifecycle
