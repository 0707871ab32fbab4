import RadioLifecycle.Proofs.Controller.ChipShift
import RadioLifecycle.Proofs.Simulation.Queries
import RadioLifecycle.Proofs.Vendor.Buffer

/-!
The report of a chip of the simulated library, from the configuration to the subscribers. Each of
its two descriptions goes its own way: it is asked for in a query of its own, refused for reasons of
its own and cut to the room of a buffer of its own.
-/

namespace RadioLifecycle

open Vendor (Status SessionHandle InterfaceHandle Buffer)
open Vendor.Buffer (visible LongestWithin)

namespace Simulation

variable {τ : Type}

/-- The text that is shown of a version: what is visible of it, cut to the room of a report buffer
beside its terminating zero byte. A character that is cut through shows as a replacement. -/
structure Shows (version shown : String) : Prop where
  whole : (visible version).utf8ByteSize ≤ 255 → shown = visible version
  cut : 255 < (visible version).utf8ByteSize →
    ∃ kept, LongestWithin 255 (visible version) kept ∧
      shown = if kept.utf8ByteSize < 255 then kept.push Utf8.replacement else kept

/-- What a report says of one version: the version if the interface is configured and no error is,
and otherwise that it is unknown. -/
def Describes (s : Simulation τ) (handle : InterfaceHandle) (error : Option Status)
    (version shown : String) : Prop :=
  (s.Names handle ∧ error = none → Shows version shown) ∧
  (¬(s.Names handle ∧ error = none) → shown = unknownDescription)

theorem Shows.unique {version shown other : String} (h : Shows version shown)
    (h' : Shows version other) : shown = other := by
  rcases Nat.lt_or_ge 255 (visible version).utf8ByteSize with hRoom | hRoom
  · obtain ⟨kept, hKept, hShown⟩ := h.cut hRoom
    obtain ⟨kept', hKept', hOther⟩ := h'.cut hRoom
    rw [hShown, hOther, hKept.unique hKept']
  · rw [h.whole hRoom, h'.whole hRoom]

theorem Describes.unique {s : Simulation τ} {handle : InterfaceHandle} {error : Option Status}
    {version shown other : String} (h : s.Describes handle error version shown)
    (h' : s.Describes handle error version other) : shown = other := by
  by_cases hAnswered : s.Names handle ∧ error = none
  · exact (h.1 hAnswered).unique (h'.1 hAnswered)
  · rw [h.2 hAnswered, h'.2 hAnswered]

/-- What is read of a version that was written into a fresh report buffer. -/
theorem shows_read_write (version : String) :
    Shows version (((Buffer.zeroed reportBufferSize).write version).2.read) := by
  have hLength : (Buffer.zeroed reportBufferSize).length = 255 + 1 := List.length_replicate
  exact ⟨Buffer.read_write_of_le hLength, Buffer.read_write_of_lt hLength⟩

variable {s : Simulation τ} {handle : InterfaceHandle} {error : Option Status} {version : String}

/-- One query for a report, by what the library answers to it. -/
theorem description_describes {ω : Type} {outcome : Except Status Unit} {buffer : Buffer}
    (hAnswer : s.versionAnswer handle error version (.zeroed reportBufferSize) = (outcome, buffer))
    (w : Surroundings ω) (failed : Status → Notice) :
    s.Describes handle error version (Chip.description (outcome, buffer, w) failed).1 := by
  rcases s.versionAnswer_cases handle error version (.zeroed reportBufferSize) with
    ⟨hNames, hError, hFilled⟩ | ⟨hRefused, status, hFailed⟩
  · obtain ⟨hOutcome, hBuffer⟩ := Prod.mk.inj (hAnswer.symm.trans hFilled)
    refine ⟨fun _ => ?_, fun h => absurd ⟨hNames, hError⟩ h⟩
    rw [hOutcome, hBuffer, Chip.description]
    exact shows_read_write version
  · obtain ⟨hOutcome, -⟩ := Prod.mk.inj (hAnswer.symm.trans hFailed)
    refine ⟨fun h => absurd h hRefused, fun _ => ?_⟩
    rw [hOutcome, Chip.description]

theorem describes_driver (w : Surroundings (Simulation SessionHandle)) (handle : InterfaceHandle) :
    w.vendor.Describes handle w.vendor.behaviour.driverVersionError
      w.vendor.behaviour.driverVersion
      (Chip.description (w.driverVersion library handle (.zeroed reportBufferSize))
        .driverVersionFailed).1 := by
  rw [Surroundings.driverVersion, show library.driverVersion = driverVersion from rfl,
    driverVersion_eq]
  exact description_describes rfl _ _

theorem describes_firmware (w : Surroundings (Simulation SessionHandle)) (handle : InterfaceHandle) :
    w.vendor.Describes handle w.vendor.behaviour.firmwareVersionError
      w.vendor.behaviour.firmwareVersion
      (Chip.description (w.firmwareVersion library handle (.zeroed reportBufferSize))
        .firmwareVersionFailed).1 := by
  rw [Surroundings.firmwareVersion, show library.firmwareVersion = firmwareVersion from rfl,
    firmwareVersion_eq]
  exact description_describes rfl _ _

end Simulation

namespace Chip

@[simp]
theorem afterRequest_interface (c : Chip) (request : Request) :
    (c.afterRequest request).interface = c.interface := by
  cases request with
  | register s | unregister s =>
      simp only [afterRequest, register, unregister]
      split <;> rfl
  | id | isValid | invalidate | report | modes | configure | mode => rfl

/-- Whatever is asked of a new chip, it stays with its interface and has no subscriber twice. -/
theorem interface_and_nodup (c : Chip) (h : c.subscribers.members.Nodup) (requests : List Request) :
    (requests.foldl afterRequest c).interface = c.interface ∧
      (requests.foldl afterRequest c).subscribers.members.Nodup := by
  induction requests generalizing c with
  | nil => exact ⟨rfl, h⟩
  | cons request rest ih =>
      obtain ⟨hInterface, hNodup⟩ := ih (c.afterRequest request) (nodup_afterRequest h request)
      exact ⟨hInterface.trans (c.afterRequest_interface request), hNodup⟩

end Chip

theorem Subscribers.count_deliveries {s : Subscribers SubscriberId} (h : s.members.Nodup)
    (event : Event) {subscriber : SubscriberId} (hMember : subscriber ∈ s.members) :
    (s.deliveries event).count ⟨subscriber, event⟩ = 1 := by
  have hInjective : Function.Injective fun subscriber : SubscriberId =>
      (⟨subscriber, event⟩ : Delivery) :=
    fun _ _ hSame => (Delivery.mk.inj hSame).1
  exact List.count_eq_one_of_mem (h.map hInjective) (List.mem_map_of_mem hMember)

namespace Chip

/-- A chip of the simulated library reports on request, whatever has been asked of it before and
however its subscribers respond. It asks for the driver and for the firmware once each, the second
also when the first is refused. Each description is the one that its own version, its own
configured error and the interface call for. Every subscriber is told of the report once, nobody
else is told anything, and nothing of the library changes but the counts of the two queries. -/
theorem requestReport_describes (respond : Response) (id : ChipId) (interface : InterfaceHandle)
    (requests : List Request) (w : Surroundings (Simulation SessionHandle))
    (hValid : (requests.foldl afterRequest { id, interface }).isValid = true) :
    let c := requests.foldl afterRequest { id, interface }
    ∃ report w', c.requestReport Simulation.library respond true w = (some report, w') ∧
      (∀ shown, w.vendor.Describes interface w.vendor.behaviour.driverVersionError
        w.vendor.behaviour.driverVersion shown ↔ shown = report.driver) ∧
      (∀ shown, w.vendor.Describes interface w.vendor.behaviour.firmwareVersionError
        w.vendor.behaviour.firmwareVersion shown ↔ shown = report.firmware) ∧
      w.Adds w' [.driverVersion interface, .firmwareVersion interface]
        (c.subscribers.deliveries (.reported report)) [] ∧
      (∀ subscriber ∈ c.subscribers.members,
        (c.subscribers.deliveries (.reported report)).count ⟨subscriber, .reported report⟩ = 1) ∧
      w'.vendor = { w.vendor with calls := { w.vendor.calls with
        driverVersion := w.vendor.calls.driverVersion + 1
        firmwareVersion := w.vendor.calls.firmwareVersion + 1 } } := by
  intro c
  obtain ⟨hInterface, hNodup⟩ := interface_and_nodup { id, interface } List.nodup_nil requests
  obtain ⟨hReport, hAdds, hVendor⟩ := c.requestReport_linked Simulation.library respond hValid w
  rw [show c.interface = interface from hInterface] at hReport hAdds hVendor
  let driver := description (w.driverVersion Simulation.library interface
    (.zeroed reportBufferSize)) .driverVersionFailed
  have hDriver := Simulation.describes_driver w interface
  have hFirmware := Simulation.describes_firmware driver.2 interface
  -- The library counts the first query before it is asked the second.
  have hCounted : driver.2.vendor =
      { w.vendor with calls.driverVersion := w.vendor.calls.driverVersion + 1 } :=
    description_vendor _ _
  rw [hCounted] at hFirmware
  refine ⟨_, _, Prod.ext hReport rfl, fun shown => ?_, fun shown => ?_, hAdds, ?_, ?_⟩
  · exact ⟨fun h => h.unique hDriver, fun h => h ▸ hDriver⟩
  · exact ⟨fun h => Simulation.Describes.unique h hFirmware, fun h => h ▸ hFirmware⟩
  · exact fun subscriber hMember => Subscribers.count_deliveries hNodup _ hMember
  · rw [hVendor, description_vendor]
    exact congrArg (fun s => (Simulation.firmwareVersion interface (.zeroed reportBufferSize) s).2.2)
      hCounted

/-- A driver version that is cut amid a character and a firmware version that is refused, for a chip
with two subscribers that panic. -/
theorem requestReport_describes_refusedFirmware :
    let w : Surroundings (Simulation SessionHandle) :=
      { vendor := { behaviour := { driverVersion := String.ofList (List.replicate 64 '😀')
                                   firmwareVersionError := some .busy } } }
    ∃ report w', Chip.requestReport Simulation.library (fun _ _ => .panicked) true
        { id := ⟨1⟩, interface := ⟨1⟩, subscribers := ⟨[⟨0⟩, ⟨1⟩]⟩ } w = (some report, w') ∧
      report.driver = (String.ofList (List.replicate 63 '😀')).push '\uFFFD' ∧
      report.firmware = "<unknown>" ∧
      w'.journal.deliveries = [⟨⟨0⟩, .reported report⟩, ⟨⟨1⟩, .reported report⟩] := by
  intro w
  obtain ⟨report, w', hReport, hDriver, hFirmware, hAdds, -, -⟩ :=
    requestReport_describes (fun _ _ => .panicked) ⟨1⟩ ⟨1⟩ [.register ⟨0⟩, .register ⟨1⟩] w
      (by decide)
  have hVisible : (visible (String.ofList (List.replicate 64 '😀'))).toList =
      List.replicate 64 '😀' := by
    rw [visible, String.toList_ofList, String.toList_ofList]
    decide +kernel
  have hFitting : Utf8.fitting 255 (List.replicate 64 '😀') = List.replicate 63 '😀' := by
    decide +kernel
  have hLong : 255 < (visible (String.ofList (List.replicate 64 '😀'))).utf8ByteSize := by
    rw [Utf8.utf8ByteSize_eq, hVisible]
    decide +kernel
  have hShort : (String.ofList (List.replicate 63 '😀')).utf8ByteSize < 255 := by
    rw [Utf8.utf8ByteSize_eq, String.toList_ofList]
    decide +kernel
  refine ⟨report, w', hReport, ?_, ?_, hAdds.journal_deliveries⟩
  · refine ((hDriver _).mp ⟨fun _ => ⟨fun hRoom => ?_, fun _ => ?_⟩, fun hRefused => ?_⟩).symm
    · exact absurd hRoom (Nat.not_le_of_lt hLong)
    · refine ⟨_, Buffer.longestWithin_fitting 255 _, ?_⟩
      rw [hVisible, hFitting, if_pos hShort]
      rfl
    · exact absurd ⟨⟨by decide, by decide⟩, rfl⟩ hRefused
  · exact ((hFirmware _).mp ⟨by simp [w], fun _ => rfl⟩).symm

end Chip

end RadioLifecycle
