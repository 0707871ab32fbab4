import RadioLifecycle.Proofs.Controller.Soundness
import RadioLifecycle.Proofs.Subscribers.OrderedSet

/-!
What a call makes of the chip. A chip is bound when a session starts and dropped when the teardown
of that session begins, and in between it answers the requests that mean it. Whatever else is asked
for leaves the chip alone, and only a request for its report tells its subscribers anything.
-/

namespace RadioLifecycle

open Vendor (Library Status InterfaceHandle WorkerId)

variable {σ : Type}

namespace Chip

/-- The chip after a request. -/
def afterRequest (c : Chip) : Request → Chip
  | .register s => (c.register s).2
  | .unregister s => (c.unregister s).2
  | .invalidate => { c with linked := false, subscribers := c.subscribers.clear }
  | .id | .isValid | .report | .modes | .configure _ | .mode => c

/-- Whether a request makes or ends the subscription of a subscriber, if it succeeds in either. -/
def subscription? (c : Chip) (subscriber : SubscriberId) : Request → Option Bool
  | .register s => if s = subscriber ∧ (c.register s).1 = true then some true else none
  | .unregister s => if s = subscriber ∧ (c.unregister s).1 = true then some false else none
  | .id | .isValid | .invalidate | .report | .modes | .configure _ | .mode => none

theorem perform_chip (lib : Library σ) (respond : Response) (alive : Bool) (c : Chip)
    (request : Request) (w : Surroundings σ) :
    (c.perform lib respond alive request w).2.1 = c.afterRequest request := by
  cases request <;> rfl

@[simp]
theorem afterRequest_id (c : Chip) (request : Request) : (c.afterRequest request).id = c.id := by
  cases request with
  | register s | unregister s =>
      simp only [afterRequest, register, unregister]
      split <;> rfl
  | id | isValid | invalidate | report | modes | configure | mode => rfl

theorem afterRequest_linked (c : Chip) {request : Request} (h : request ≠ .invalidate) :
    (c.afterRequest request).linked = c.linked := by
  cases request with
  | register s | unregister s =>
      simp only [afterRequest, register, unregister]
      split <;> rfl
  | invalidate => exact absurd rfl h
  | id | isValid | report | modes | configure | mode => rfl

/-- Subscribers of a valid chip come and go with the requests that succeed in that. -/
theorem mem_afterRequest {c : Chip} (hLinked : c.linked = true) {request : Request}
    (h : request ≠ .invalidate) (subscriber : SubscriberId) :
    subscriber ∈ (c.afterRequest request).subscribers.members ↔
      (c.subscription? subscriber request).getD (decide (subscriber ∈ c.subscribers.members)) =
        true := by
  cases request with
  | register s =>
      have hJoins : (c.register s).1 = decide (s ∉ c.subscribers.members) := by
        simp only [register, isValid, hLinked, ↓reduceIte, Subscribers.register]
        split <;> simp_all
      have hAfter : (c.register s).2.subscribers = (c.subscribers.register s).2 := by
        simp [register, isValid, hLinked]
      rw [afterRequest, subscription?, hJoins, hAfter, Subscribers.mem_register]
      by_cases hSame : s = subscriber
      · subst hSame
        by_cases hHas : s ∈ c.subscribers.members <;> simp [hHas]
      · simp [hSame, Ne.symm hSame]
  | unregister s =>
      have hLeaves : (c.unregister s).1 = decide (s ∈ c.subscribers.members) := by
        simp [unregister, isValid, hLinked, Subscribers.unregister]
      have hAfter : (c.unregister s).2.subscribers = (c.subscribers.unregister s).2 := by
        simp [unregister, isValid, hLinked]
      rw [afterRequest, subscription?, hLeaves, hAfter, Subscribers.mem_unregister]
      by_cases hSame : s = subscriber
      · subst hSame
        by_cases hHas : s ∈ c.subscribers.members <;> simp [hHas]
      · simp [hSame, Ne.symm hSame]
  | invalidate => exact absurd rfl h
  | id | isValid | report | modes | configure | mode => simp [afterRequest, subscription?]

theorem nodup_afterRequest {c : Chip} (h : c.subscribers.members.Nodup) (request : Request) :
    (c.afterRequest request).subscribers.members.Nodup := by
  cases request with
  | register s =>
      rw [afterRequest, register]
      split
      · exact Subscribers.nodup_register h s
      · exact h
  | unregister s =>
      rw [afterRequest, unregister]
      split
      · exact Subscribers.nodup_unregister h s
      · exact h
  | invalidate => exact List.nodup_nil
  | id | isValid | report | modes | configure | mode => exact h

/-- A subscriber stays with its chip until it is unregistered or the chip is invalidated. -/
theorem mem_afterRequest_of_mem {c : Chip} {subscriber : SubscriberId}
    (h : subscriber ∈ c.subscribers.members) {request : Request}
    (hStays : request ≠ .unregister subscriber) (hValid : request ≠ .invalidate) :
    subscriber ∈ (c.afterRequest request).subscribers.members := by
  cases request with
  | register s =>
      rw [afterRequest, register]
      split
      · exact Subscribers.mem_register.mpr (.inl h)
      · exact h
  | unregister s =>
      rw [afterRequest, unregister]
      split
      · exact Subscribers.mem_unregister.mpr ⟨h, fun hSame => hStays (by rw [hSame])⟩
      · exact h
  | invalidate => exact absurd rfl hValid
  | id | isValid | report | modes | configure | mode => exact h

/-- The report of a valid chip goes to each of its subscribers. -/
theorem perform_report_adds (lib : Library σ) (respond : Response) {c : Chip}
    (hLinked : c.linked = true) (w : Surroundings σ) :
    ∃ calls report, w.Adds (c.perform lib respond true .report w).2.2 calls
      (c.subscribers.deliveries (.reported report)) [] :=
  ⟨_, _, (c.requestReport_linked lib respond hLinked w).2.1⟩

/-- Requests other than that for a report tell nobody anything. -/
theorem perform_adds_untold (lib : Library σ) (respond : Response) (c : Chip) {request : Request}
    (h : request ≠ .report) (w : Surroundings σ) :
    w.Adds (c.perform lib respond true request w).2.2 [] [] [] := by
  cases request with
  | invalidate =>
      simp only [perform, invalidate]
      split
      · exact Surroundings.note_adds _ w
      · exact Surroundings.Adds.refl w
  | report => exact absurd rfl h
  | id | isValid | register | unregister | modes | configure | mode =>
      exact Surroundings.Adds.refl w

end Chip

namespace Controller

/-- The chip that is meant by an identity is that of the session, and it is valid. -/
theorem meantChip?_eq_some {c : Controller} {id : Option ChipId} {chip : Chip}
    (h : c.meantChip? id = some chip) :
    c.chip = some chip ∧ chip.linked = true ∧ ∀ k, id = some k → chip.id = k := by
  obtain ⟨k, hNamed, hLive⟩ := Option.bind_eq_some_iff.mp h
  obtain ⟨hChip, hMatches⟩ := Option.filter_eq_some_iff.mp hLive
  simp only [Chip.isValid, Bool.and_eq_true, decide_eq_true_eq] at hMatches
  refine ⟨hChip, hMatches.2, fun k' hId => ?_⟩
  rw [hId, Option.some_or, Option.some.injEq] at hNamed
  rw [hMatches.1, hNamed]

/-- What a call makes of the chip. -/
inductive ChipChange (c c' : Controller) : Cause → Prop
  /-- A session starts and finds its interface. -/
  | bound {command : CommandId} (interface : InterfaceHandle) (phase : c.phase = .stopped)
      (chip : c'.chip = some { id := ⟨c.nextChip⟩, interface })
      (next : c'.nextChip = c.nextChip + 1) : ChipChange c c' (.command (.start command))
  /-- The teardown of the session begins. -/
  | dropped {command : CommandId} (phase : c.phase = .started) (chip : c'.chip = none)
      (next : c'.nextChip = c.nextChip) : ChipChange c c' (.command (.stop command))
  /-- A request means the chip. -/
  | asked {id : Option ChipId} {request : Chip.Request} (chip : Chip)
      (meant : c.meantChip? id = some chip) (after : c'.chip = some (chip.afterRequest request))
      (next : c'.nextChip = c.nextChip) : ChipChange c c' (.command (.onChip id request))
  | kept {cause : Cause} (chip : c'.chip = c.chip) (next : c'.nextChip = c.nextChip)
      (stays : ∀ command, cause = .command (.stop command) → c.phase ≠ .started)
      (unmeant : ∀ id request, cause = .command (.onChip id request) → c.meantChip? id = none) :
      ChipChange c c' cause

/-- Only a stop takes the chip away, and its subscribers only leave by a request of their own. -/
theorem ChipChange.members {c c' : Controller} {cause : Cause} (change : c.ChipChange c' cause)
    {chip : Chip} (hChip : c.chip = some chip) (sound : c.Sound)
    (hStays : ∀ command, cause ≠ .command (.stop command)) :
    ∃ chip', c'.chip = some chip' ∧ ∀ s ∈ chip.subscribers.members,
      (∀ id, cause ≠ .command (.onChip id (.unregister s))) →
      (∀ id, cause ≠ .command (.onChip id .invalidate)) → s ∈ chip'.subscribers.members := by
  cases change with
  | bound _ hPhase _ _ => cases hPhase.symm.trans (sound.chip_started (by simp [hChip]))
  | dropped _ _ _ => exact absurd rfl (hStays _)
  | @asked id request found hMeant hAfter _ =>
      obtain rfl : chip = found :=
        Option.some.inj (hChip.symm.trans (meantChip?_eq_some hMeant).1)
      refine ⟨_, hAfter, fun s hMember hJoined hValid => ?_⟩
      exact Chip.mem_afterRequest_of_mem hMember
        (fun hRequest => hJoined id (by rw [hRequest])) fun hRequest => hValid id (by rw [hRequest])
  | kept hKept _ _ _ => exact ⟨chip, hKept.trans hChip, fun _ hMember _ _ => hMember⟩

/-- The events that a call may be answered with. A call that has such events is answered with one of
them. -/
inductive Owes (c : Controller) : Cause → Event → Prop
  | started {command : CommandId} (phase : c.phase ≠ .stopping) :
      Owes c (.command (.start command)) (.started command)
  | failed {command : CommandId} (status : Status) (phase : c.phase = .stopped) :
      Owes c (.command (.start command))
        (.startFailed command (.ofStatus status bringUpDescription))
  | refused {command : CommandId} (phase : c.phase = .stopping) :
      Owes c (.command (.start command)) (.startFailed command stoppingFailure)
  /-- A stop finds no session. -/
  | echoed {command : CommandId} (phase : c.phase = .stopped) :
      Owes c (.command (.stop command)) (.stopped command)
  /-- The stop that a teardown is in progress for is answered. -/
  | closed {worker : Option WorkerId} {command : CommandId} (phase : c.phase = .stopping)
      (pending : c.pendingStop = some command) :
      Owes c (.exitReport worker true) (.stopped command)

theorem Owes.unreported {c : Controller} {cause : Cause} {event : Event} (h : c.Owes cause event) :
    ∀ report, event ≠ .reported report := by
  cases h <;> simp

/-- No request of a chip is answered with an event of the session. -/
theorem Owes.unasked {c : Controller} {cause : Cause} {event : Event} (h : c.Owes cause event) :
    ∀ id request, cause ≠ .command (.onChip id request) := by
  cases h <;> simp

/-- Who is told of a call. -/
inductive Tells (c : Controller) : Cause → List Delivery → Prop
  | nobody {cause : Cause} (undue : ∀ event, ¬c.Owes cause event)
      (unmeant : ∀ id, cause = .command (.onChip id .report) → c.meantChip? id = none) :
      Tells c cause []
  /-- All subscribers of the session are told what the call is to be answered with. -/
  | session {cause : Cause} {event : Event} (due : c.Owes cause event) :
      Tells c cause (c.subscribers.deliveries event)
  /-- All subscribers of the chip are told its report. -/
  | chip {id : Option ChipId} (chip : Chip) (meant : c.meantChip? id = some chip)
      (report : ChipReport) :
      Tells c (.command (.onChip id .report)) (chip.subscribers.deliveries (.reported report))

end Controller

namespace Radio

variable {r : Radio σ}

/-- A request that means no chip changes nothing. -/
theorem perform_onChip_of_none (lib : Library σ) (respond : Response) {id : Option ChipId}
    (h : r.controller.meantChip? id = none) (request : Chip.Request) :
    r.perform lib respond (.onChip id request) = (.ofChip none, r) := by
  simp only [perform, onChip, h]

/-- A request that means a chip is the chip's alone. -/
theorem perform_onChip_of_some (lib : Library σ) (respond : Response) {id : Option ChipId}
    {chip : Chip} (h : r.controller.meantChip? id = some chip) (request : Chip.Request) :
    r.perform lib respond (.onChip id request) =
      (.ofChip (some (chip.perform lib respond true request r.toSurroundings).1),
        { r.within (chip.perform lib respond true request r.toSurroundings).2.2 with
          controller.chip := some (chip.afterRequest request) }) := by
  simp only [perform, onChip, h, Chip.perform_chip]

theorem obey_chipChange (lib : Library σ) (respond : Response) (sound : r.controller.Sound)
    (cause : Cause) :
    r.controller.ChipChange (r.obey lib respond cause).controller cause := by
  have shift := obey_shift lib respond sound cause
  have hSame {r' : Radio σ} {cause : Cause} (same : r.SameState r')
      (stays : ∀ command, cause = .command (.stop command) → r.controller.phase ≠ .started)
      (unasked : ∀ id request, cause ≠ .command (.onChip id request)) :
      r.controller.ChipChange r'.controller cause :=
    .kept (by rw [same.1]) (by rw [same.1]) stays
      fun id request hAsked => absurd hAsked (unasked id request)
  cases cause with
  | exitReport worker requested =>
      generalize r.obey lib respond (.exitReport worker requested) = r' at shift ⊢
      cases shift with
      | closed _ _ _ hController _ _ =>
          rw [hController]
          exact .kept rfl rfl (by simp) (by simp)
      | abandoned _ same _ => exact hSame same (by simp) (by simp)
  | command command =>
      cases command with
      | start command =>
          generalize r.obey lib respond (.command (.start command)) = r' at shift ⊢
          cases shift with
          | opened handle _ hPhase hController _ _ =>
              rcases hController with h | ⟨interface, h⟩
              · rw [h]
                exact .kept rfl rfl (by simp) (by simp)
              · rw [h]
                exact .bound interface hPhase rfl rfl
          | failed _ _ same _ | repeated _ same _ | refused _ same _ =>
              exact hSame same (by simp) (by simp)
          | served hStart _ _ _ _ _ _ _ => exact absurd rfl (hStart command)
      | stop command =>
          generalize r.obey lib respond (.command (.stop command)) = r' at shift ⊢
          cases shift with
          | torn _ _ hPhase _ _ hController _ _ =>
              rw [hController]
              exact .dropped hPhase rfl rfl
          | absorbed hPhase => exact hSame ⟨rfl, rfl⟩ (by simp [hPhase]) (by simp)
          | echoed hPhase same _ => exact hSame same (by simp [hPhase]) (by simp)
          | served _ hStop _ _ _ _ _ _ => exact absurd rfl (hStop command)
      | onChip id request =>
          cases hMeant : r.controller.meantChip? id with
          | none =>
              rw [obey, perform_onChip_of_none lib respond hMeant]
              refine .kept rfl rfl (by simp) fun id' _ hAsked => ?_
              cases hAsked
              exact hMeant
          | some chip =>
              rw [obey, perform_onChip_of_some lib respond hMeant]
              exact .asked chip hMeant rfl rfl
      | phase | isStarted | teardown | currentChip | hasChip | subscribe | unsubscribe =>
          exact .kept rfl rfl (by simp) (by simp)

theorem obey_tells (lib : Library σ) (respond : Response) (sound : r.controller.Sound)
    (cause : Cause) :
    ∃ calls told fatals, r.Adds (r.obey lib respond cause) calls told fatals ∧
      r.controller.Tells cause told := by
  have shift := obey_shift lib respond sound cause
  have hSilent {r' : Radio σ} {cause : Cause} {calls : List Vendor.Call} {fatals : List Phase}
      (adds : r.Adds r' calls [] fatals) (undue : ∀ event, ¬r.controller.Owes cause event)
      (unasked : ∀ id request, cause ≠ .command (.onChip id request)) :
      ∃ calls told fatals, r.Adds r' calls told fatals ∧ r.controller.Tells cause told :=
    ⟨_, _, _, adds, .nobody undue fun id hAsked => absurd hAsked (unasked id .report)⟩
  have hTold {r' : Radio σ} {cause : Cause} {calls : List Vendor.Call} {fatals : List Phase}
      {event : Event} (adds : r.Adds r' calls (r.controller.subscribers.deliveries event) fatals)
      (due : r.controller.Owes cause event) :
      ∃ calls told fatals, r.Adds r' calls told fatals ∧ r.controller.Tells cause told :=
    ⟨_, _, _, adds, .session due⟩
  cases cause with
  | exitReport worker requested =>
      generalize r.obey lib respond (.exitReport worker requested) = r' at shift ⊢
      cases shift with
      | closed _ hPhase hPending _ _ adds => exact hTold adds (.closed hPhase hPending)
      | abandoned hUnasked _ adds =>
          refine hSilent adds (fun event due => ?_) (by simp)
          cases due with
          | closed hPhase _ => exact hUnasked rfl hPhase
  | command command =>
      cases command with
      | start command =>
          generalize r.obey lib respond (.command (.start command)) = r' at shift ⊢
          cases shift with
          | opened _ _ hPhase _ _ adds => exact hTold adds (.started (by simp [hPhase]))
          | failed status hPhase _ adds => exact hTold adds (.failed status hPhase)
          | repeated hPhase _ adds => exact hTold adds (.started (by simp [hPhase]))
          | refused hPhase _ adds => exact hTold adds (.refused hPhase)
          | served hStart _ _ _ _ _ _ _ => exact absurd rfl (hStart command)
      | stop command =>
          generalize r.obey lib respond (.command (.stop command)) = r' at shift ⊢
          have hUndue (hPhase : r.controller.phase ≠ .stopped) :
              ∀ event, ¬r.controller.Owes (.command (.stop command)) event := by
            intro event due
            cases due with
            | echoed hStopped => exact hPhase hStopped
          cases shift with
          | torn _ _ hPhase _ _ _ _ adds =>
              exact hSilent adds (hUndue (by simp [hPhase])) (by simp)
          | absorbed hPhase =>
              exact hSilent (Surroundings.Adds.refl _) (hUndue (by simp [hPhase])) (by simp)
          | echoed hPhase _ adds => exact hTold adds (.echoed hPhase)
          | served _ hStop _ _ _ _ _ _ => exact absurd rfl (hStop command)
      | onChip id request =>
          have hUndue : ∀ event, ¬r.controller.Owes (.command (.onChip id request)) event :=
            fun event due => due.unasked id request rfl
          cases hMeant : r.controller.meantChip? id with
          | none =>
              rw [obey, perform_onChip_of_none lib respond hMeant]
              refine ⟨_, _, _, Surroundings.Adds.refl _, .nobody hUndue fun id' hAsked => ?_⟩
              cases hAsked
              exact hMeant
          | some chip =>
              rw [obey, perform_onChip_of_some lib respond hMeant]
              by_cases hReport : request = .report
              · subst hReport
                obtain ⟨calls, report, hAdds⟩ := chip.perform_report_adds lib respond
                  (Controller.meantChip?_eq_some hMeant).2.1 r.toSurroundings
                exact ⟨_, _, _, hAdds, .chip chip hMeant report⟩
              · refine ⟨_, _, _, chip.perform_adds_untold lib respond hReport _, .nobody hUndue ?_⟩
                intro id' hAsked
                cases hAsked
                exact absurd rfl hReport
      | phase | isStarted | teardown | currentChip | hasChip | subscribe | unsubscribe =>
          refine hSilent (Surroundings.Adds.refl _) (fun event due => ?_) (by simp)
          cases due

end Radio

end RadioLifecycle
