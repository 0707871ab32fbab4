import Mathlib.Data.List.Basic
import RadioLifecycle.Chip
import RadioLifecycle.Vendor.Lookup

/-!
What the journal gains. The journal only grows, and each function that acts on the surroundings adds
known vendor calls, known deliveries and known fatal reports, in a known order. Notices are left
open: they are for people to read, and a vendor library may enter any it likes.
-/

namespace RadioLifecycle

open Vendor (Library Status SessionHandle InterfaceHandle Buffer WorkerId findAmong findInterface)

namespace Journal

@[simp]
theorem calls_append (j k : Journal) : calls (j ++ k) = j.calls ++ k.calls :=
  List.filterMap_append

@[simp]
theorem deliveries_append (j k : Journal) : deliveries (j ++ k) = j.deliveries ++ k.deliveries :=
  List.filterMap_append

@[simp]
theorem fatals_append (j k : Journal) : fatals (j ++ k) = j.fatals ++ k.fatals :=
  List.filterMap_append

end Journal

/-- Whether a call asks for one of the versions that a chip reports. -/
def Vendor.Call.asksVersion : Vendor.Call → Bool
  | .driverVersion _ | .firmwareVersion _ => true
  | .bringUp _ | .cleanup _ | .eventLoop _ | .interfaces _ | .interfaceName _ => false

/-- All deliveries of one broadcast, in the order in which they are made. -/
def Subscribers.deliveries (s : Subscribers SubscriberId) (event : Event) : List Delivery :=
  s.members.map fun subscriber => ⟨subscriber, event⟩

namespace Surroundings

variable {σ : Type}

/-- The journal of the second surroundings continues that of the first, and what it has in addition
are these vendor calls, these deliveries and these fatal reports. -/
def Adds (w w' : Surroundings σ) (calls : List Vendor.Call) (told : List Delivery)
    (fatals : List Phase) : Prop :=
  ∃ entries : Journal, w'.journal = w.journal ++ entries ∧
    entries.calls = calls ∧ entries.deliveries = told ∧ entries.fatals = fatals

theorem Adds.refl (w : Surroundings σ) : w.Adds w [] [] [] :=
  ⟨[], by simp, rfl, rfl, rfl⟩

theorem Adds.trans {w₁ w₂ w₃ : Surroundings σ} {calls₁ calls₂ : List Vendor.Call}
    {told₁ told₂ : List Delivery} {fatals₁ fatals₂ : List Phase}
    (first : w₁.Adds w₂ calls₁ told₁ fatals₁) (second : w₂.Adds w₃ calls₂ told₂ fatals₂) :
    w₁.Adds w₃ (calls₁ ++ calls₂) (told₁ ++ told₂) (fatals₁ ++ fatals₂) := by
  obtain ⟨e₁, hj₁, rfl, rfl, rfl⟩ := first
  obtain ⟨e₂, hj₂, rfl, rfl, rfl⟩ := second
  refine ⟨e₁ ++ e₂, ?_, Journal.calls_append _ _, Journal.deliveries_append _ _,
    Journal.fatals_append _ _⟩
  rw [hj₂, hj₁, List.append_assoc]

/-- Silent work may come before other work without changing what is added. -/
theorem Adds.after {w₁ w₂ w₃ : Surroundings σ} {calls : List Vendor.Call} {told : List Delivery}
    {fatals : List Phase} (first : w₁.Adds w₂ [] [] []) (second : w₂.Adds w₃ calls told fatals) :
    w₁.Adds w₃ calls told fatals :=
  first.trans second

/-- Silent work may follow other work without changing what is added. -/
theorem Adds.before {w₁ w₂ w₃ : Surroundings σ} {calls : List Vendor.Call} {told : List Delivery}
    {fatals : List Phase} (first : w₁.Adds w₂ calls told fatals) (second : w₂.Adds w₃ [] [] []) :
    w₁.Adds w₃ calls told fatals := by
  simpa using first.trans second

theorem Adds.journal_calls {w w' : Surroundings σ} {calls : List Vendor.Call}
    {told : List Delivery} {fatals : List Phase} (h : w.Adds w' calls told fatals) :
    w'.journal.calls = w.journal.calls ++ calls := by
  obtain ⟨entries, hJournal, hCalls, _, _⟩ := h
  rw [hJournal, Journal.calls_append, hCalls]

theorem Adds.journal_deliveries {w w' : Surroundings σ} {calls : List Vendor.Call}
    {told : List Delivery} {fatals : List Phase} (h : w.Adds w' calls told fatals) :
    w'.journal.deliveries = w.journal.deliveries ++ told := by
  obtain ⟨entries, hJournal, _, hTold, _⟩ := h
  rw [hJournal, Journal.deliveries_append, hTold]

theorem Adds.journal_fatals {w w' : Surroundings σ} {calls : List Vendor.Call}
    {told : List Delivery} {fatals : List Phase} (h : w.Adds w' calls told fatals) :
    w'.journal.fatals = w.journal.fatals ++ fatals := by
  obtain ⟨entries, hJournal, _, _, hFatals⟩ := h
  rw [hJournal, Journal.fatals_append, hFatals]

theorem note_adds (n : Notice) (w : Surroundings σ) : w.Adds (w.note n) [] [] [] :=
  ⟨[.notice n], rfl, rfl, rfl, rfl⟩

theorem visit_adds (chip : Option ChipId) (w : Surroundings σ) :
    w.Adds (w.enter (.visit chip)) [] [] [] :=
  ⟨[.visit chip], rfl, rfl, rfl, rfl⟩

theorem fatal_adds (phase : Phase) (w : Surroundings σ) :
    w.Adds (w.enter (.fatal phase)) [] [] [phase] :=
  ⟨[.fatal phase], rfl, rfl, rfl, rfl⟩

theorem deliver_adds (respond : Response) (d : Delivery) (w : Surroundings σ) :
    w.Adds (w.deliver respond d).2 [] [d] [] :=
  ⟨[.delivery d], rfl, rfl, rfl, rfl⟩

theorem bringUp_adds (lib : Library σ) (w : Surroundings σ) :
    w.Adds (w.bringUp lib).2 [.bringUp (w.bringUp lib).1] [] [] := by
  have hNotices (notices : List Notice) : Journal.calls (notices.map .notice) = [] ∧
      Journal.deliveries (notices.map .notice) = [] ∧
      Journal.fatals (notices.map .notice) = [] := by
    simp [Journal.calls, Journal.deliveries, Journal.fatals, List.filterMap_map]
  obtain ⟨hCalls, hTold, hFatals⟩ := hNotices (lib.bringUp w.vendor).2.1
  refine ⟨_, rfl, ?_, hTold, hFatals⟩
  exact congrArg (_ :: ·) hCalls

theorem cleanup_adds (lib : Library σ) (session : SessionHandle) (w : Surroundings σ) :
    w.Adds (w.cleanup lib session) [.cleanup session] [] [] :=
  ⟨[.call (.cleanup session)], rfl, rfl, rfl, rfl⟩

theorem enterLoop_adds (lib : Library σ) (worker : WorkerId) (session : SessionHandle)
    (w : Surroundings σ) : w.Adds (w.enterLoop lib worker session) [.eventLoop session] [] [] :=
  ⟨[.call (.eventLoop session)], rfl, rfl, rfl, rfl⟩

theorem interfaces_adds (lib : Library σ) (session : SessionHandle) (w : Surroundings σ) :
    w.Adds (w.interfaces lib session).2 [.interfaces session] [] [] :=
  ⟨[.call (.interfaces session)], rfl, rfl, rfl, rfl⟩

theorem interfaceName_adds (lib : Library σ) (interface : InterfaceHandle) (w : Surroundings σ) :
    w.Adds (w.interfaceName lib interface).2 [.interfaceName interface] [] [] :=
  ⟨[.call (.interfaceName interface)], rfl, rfl, rfl, rfl⟩

theorem driverVersion_adds (lib : Library σ) (interface : InterfaceHandle) (buffer : Buffer)
    (w : Surroundings σ) :
    w.Adds (w.driverVersion lib interface buffer).2.2 [.driverVersion interface] [] [] :=
  ⟨[.call (.driverVersion interface)], rfl, rfl, rfl, rfl⟩

theorem firmwareVersion_adds (lib : Library σ) (interface : InterfaceHandle) (buffer : Buffer)
    (w : Surroundings σ) :
    w.Adds (w.firmwareVersion lib interface buffer).2.2 [.firmwareVersion interface] [] [] :=
  ⟨[.call (.firmwareVersion interface)], rfl, rfl, rfl, rfl⟩

end Surroundings

open Surroundings

variable {σ : Type}

/-- A broadcast delivers its event to every subscriber once, whatever becomes of each delivery. -/
theorem Subscribers.broadcast_adds (s : Subscribers SubscriberId) (event : Event) (name : String)
    (respond : Response) (w : Surroundings σ) :
    w.Adds (s.broadcast name (fun subscriber w => w.deliver respond ⟨subscriber, event⟩)
      Surroundings.note w).2 [] (s.deliveries event) [] := by
  obtain ⟨members⟩ := s
  simp only [broadcast, deliveries]
  induction members generalizing w with
  | nil => exact Adds.refl w
  | cons subscriber rest ih =>
      have hDeliver := w.deliver_adds respond ⟨subscriber, event⟩
      have hRemark (ending : Ending) (w : Surroundings σ) :
          w.Adds (remark name Surroundings.note ending w) [] [] [] := by
        cases ending with
        | accepted => exact Adds.refl w
        | disconnected | panicked => exact note_adds _ w
      exact hDeliver.trans ((hRemark _ _).after (ih _))

/-- A broadcast is no business of the vendor library. -/
theorem Subscribers.broadcast_vendor (s : Subscribers SubscriberId) (event : Event) (name : String)
    (respond : Response) (w : Surroundings σ) :
    (s.broadcast name (fun subscriber w => w.deliver respond ⟨subscriber, event⟩)
      Surroundings.note w).2.vendor = w.vendor := by
  obtain ⟨members⟩ := s
  simp only [broadcast]
  induction members generalizing w with
  | nil => rfl
  | cons subscriber rest ih =>
      have hRemark (ending : Ending) (w : Surroundings σ) :
          (remark name Surroundings.note ending w).vendor = w.vendor := by
        cases ending <;> rfl
      exact (ih _).trans ((hRemark _ _).trans rfl)

namespace Vendor

theorem findAmong_adds (lib : Library σ) (wanted : String) (listed : List InterfaceHandle)
    (w : Surroundings σ) :
    ∃ asked : List InterfaceHandle,
      w.Adds (findAmong lib wanted listed w).2 (asked.map Call.interfaceName) [] [] := by
  induction listed generalizing w with
  | nil => exact ⟨[], Adds.refl w⟩
  | cons interface rest ih =>
      have hAsk := w.interfaceName_adds lib interface
      rw [findAmong]
      generalize w.interfaceName lib interface = answer at hAsk ⊢
      rcases answer with ⟨status | name, w'⟩
      · obtain ⟨asked, hRest⟩ := ih (w'.note (.interfaceNameFailed interface status))
        exact ⟨interface :: asked, hAsk.trans ((note_adds _ w').after hRest)⟩
      · by_cases hName : name = wanted
        · simp only [hName, ↓reduceIte]
          exact ⟨[interface], hAsk⟩
        · simp only [hName, ↓reduceIte]
          obtain ⟨asked, hRest⟩ := ih w'
          exact ⟨interface :: asked, hAsk.trans hRest⟩

/-- Looking an interface up enumerates once and asks for names. -/
theorem findInterface_adds (lib : Library σ) (session : SessionHandle) (wanted : String)
    (w : Surroundings σ) :
    ∃ asked : List InterfaceHandle, w.Adds (findInterface lib session wanted w).2
      (.interfaces session :: asked.map Call.interfaceName) [] [] := by
  have hList := w.interfaces_adds lib session
  rw [findInterface]
  generalize w.interfaces lib session = answer at hList ⊢
  rcases answer with ⟨status | listed, w'⟩
  · exact ⟨[], hList.before (note_adds _ w')⟩
  · obtain ⟨asked, hAsk⟩ := findAmong_adds lib wanted listed w'
    refine ⟨asked, ?_⟩
    dsimp only
    generalize findAmong lib wanted listed w' = found at hAsk ⊢
    rcases found with ⟨_ | interface, w''⟩
    · exact hList.trans (hAsk.before (note_adds _ w''))
    · exact hList.trans hAsk

end Vendor

namespace Chip

theorem description_adds {w : Surroundings σ} {call : Vendor.Call}
    {answer : Except Status Unit × Buffer × Surroundings σ} (failed : Status → Notice)
    (hQuery : w.Adds answer.2.2 [call] [] []) :
    w.Adds (description answer failed).2 [call] [] [] := by
  obtain ⟨status | _, buffer, w'⟩ := answer
  · exact hQuery.before (note_adds _ w')
  · exact hQuery

theorem description_vendor (answer : Except Status Unit × Buffer × Surroundings σ)
    (failed : Status → Notice) : (description answer failed).2.vendor = answer.2.2.vendor := by
  obtain ⟨_ | _, _, _⟩ := answer <;> rfl

/-- The report of a chip that is linked to a library that somebody keeps alive, step by step. -/
theorem requestReport_linked (lib : Library σ) (respond : Response) {c : Chip}
    (hLinked : c.linked = true) (w : Surroundings σ) :
    let driver := description (w.driverVersion lib c.interface (.zeroed reportBufferSize))
      .driverVersionFailed
    let firmware := description (driver.2.firmwareVersion lib c.interface (.zeroed reportBufferSize))
      .firmwareVersionFailed
    let report : ChipReport := ⟨driver.1, firmware.1⟩
    let w' := (c.requestReport lib respond true w).2
    (c.requestReport lib respond true w).1 = some report ∧
      w.Adds w' [.driverVersion c.interface, .firmwareVersion c.interface]
        (c.subscribers.deliveries (.reported report)) [] ∧
      w'.vendor = firmware.2.vendor := by
  have hDriver := description_adds .driverVersionFailed
    (w.driverVersion_adds lib c.interface (.zeroed reportBufferSize))
  have hFirmware (v : Surroundings σ) := description_adds .firmwareVersionFailed
    (v.firmwareVersion_adds lib c.interface (.zeroed reportBufferSize))
  simp only [requestReport, hLinked, Bool.and_self, ↓reduceIte]
  exact ⟨trivial, hDriver.trans ((hFirmware _).trans (c.subscribers.broadcast_adds _ _ _ _)),
    c.subscribers.broadcast_vendor _ _ _ _⟩

/-- A request that a chip carries out is no event of the session. All it can ask the library for is
versions, all it can tell anybody is a report, and it tells that to the chip's own subscribers. -/
theorem perform_adds (lib : Library σ) (respond : Response) (alive : Bool) (c : Chip)
    (request : Request) (w : Surroundings σ) :
    ∃ calls told, w.Adds (c.perform lib respond alive request w).2.2 calls told [] ∧
      (∀ d ∈ told, ∃ report, d.event = .reported report) ∧
      ∀ call ∈ calls, call.asksVersion = true := by
  cases request with
  | invalidate =>
      refine ⟨[], [], ?_, by simp, by simp⟩
      simp only [perform, invalidate]
      cases c.linked with
      | true => exact note_adds _ w
      | false => exact Adds.refl w
  | report =>
      cases hAsks : c.linked && alive with
      | false =>
          simp only [perform, requestReport, hAsks]
          exact ⟨[], [], Adds.refl w, by simp, by simp⟩
      | true =>
          obtain ⟨hLinked, rfl⟩ := (Bool.and_eq_true ..).mp hAsks
          obtain ⟨-, hAdds, -⟩ := c.requestReport_linked lib respond hLinked w
          refine ⟨_, _, hAdds, ?_, by simp [Vendor.Call.asksVersion]⟩
          intro d hd
          obtain ⟨_, _, rfl⟩ := List.mem_map.mp hd
          exact ⟨_, rfl⟩
  | id | isValid | register _ | unregister _ | modes | configure _ | mode =>
      exact ⟨[], [], Adds.refl w, by simp, by simp⟩

end Chip

end RadioLifecycle
