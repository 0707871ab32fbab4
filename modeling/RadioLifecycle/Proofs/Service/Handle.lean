import RadioLifecycle.Proofs.ControlThread.Undisturbed
import RadioLifecycle.Proofs.Service.Query

/-!
Requests through the handle of a chip. A request that nobody waits for is submitted as it is made. A
question is put to the radio as it is when everything submitted before has been executed, and
whoever asks is told what the chip answers there, or the default if there is no such chip.
-/

namespace RadioLifecycle.Service

open ControlThread (Course)
open Vendor (Library)

variable {σ : Type} {lib : Library σ} {audience : Audience} {s : Service σ} {t : System σ}
  {request : Chip.Request}

/-- A service has come to where it is in some way, nothing is under execution, and this is its
control thread once everything queued has been executed. -/
structure ComesTo (vendor : σ) (interface : String) (lib : Library σ) (audience : Audience)
    (s : Service σ) (t : System σ) : Prop where
  reached : ∃ story, Course (System.setting σ) (System.initial vendor interface) story s.system
  idle : s.system.busy = none
  caughtUp : s.system.catchUp (Task.run lib audience) = t

/-- What nobody waits for is submitted, from wherever that is done. -/
theorem onChip_of_posted (lib : Library σ) (audience : Audience) (s : Service σ) (origin : Origin)
    (chip : ChipId) (hWaits : request.waits = false) (hId : request ≠ .id) :
    s.onChip lib audience origin chip request =
      if s.system.isClosed then (.error .controlThreadGone, s)
      else (.ok .done,
        { s with system := s.system.enqueue (.perform [.onChip (some chip) request]) }) := by
  rw [onChip, hWaits, if_neg Bool.false_ne_true, if_neg hId, command, post, ControlThread.submit]
  cases s.system.isClosed <;> rfl

/-- On the control thread nobody is given an answer. -/
theorem onChip_of_reentrant (lib : Library σ) (audience : Audience) (s : Service σ) (chip : ChipId)
    (hWaits : request.waits = true) :
    s.onChip lib audience .controlThread chip request = (.error .reentrantCall, s) := by
  rw [(onChip_eq_ask lib audience s .controlThread chip hWaits).1]
  rfl

/-- A question is answered on the radio that everything queued before it leaves behind. -/
theorem ComesTo.onChip {vendor : σ} {interface : String}
    (h : s.ComesTo vendor interface lib audience t) (chip : ChipId)
    (hWaits : request.waits = true) :
    let returned := s.onChip lib audience .elsewhere chip request
    let asked := t.context.onChip lib audience.respond (some chip) request
    (t.isClosed = true →
      returned.1 = .error .controlThreadGone ∧ returned.2.system.context = t.context) ∧
    (t.isClosed = false →
      returned.1 = .ok (asked.1.getD (defaultAnswer request)) ∧
        returned.2.system.context = asked.2) := by
  obtain ⟨⟨_, hReached⟩, hIdle, rfl⟩ := h
  obtain ⟨hGone, hAnswered⟩ := ControlThread.call_elsewhere hReached.account hIdle
    (Task.run lib audience) (.perform [.onChip (some chip) request])
  rw [(onChip_eq_ask lib audience s .elsewhere chip hWaits).1, ask_eq]
  constructor
  · intro hClosed
    obtain ⟨hError, hContext⟩ := hGone hClosed
    rw [hError]
    exact ⟨rfl, hContext⟩
  · intro hOpen
    obtain ⟨hReply, hContext⟩ := hAnswered hOpen (by intro message hFault; cases hFault)
    rw [hReply]
    exact ⟨rfl, hContext⟩

end RadioLifecycle.Service
