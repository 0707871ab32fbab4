import RadioLifecycle.Proofs.Daemon.Errands
import RadioLifecycle.Proofs.System.Observers
import RadioLifecycle.Proofs.System.Passage
import RadioLifecycle.Proofs.Vendor.Conduct

/-!
What the daemon's commands come to. The listener is told of the start and of the stop, once each,
and the session is torn down once if it came up. This depends on nothing but the order of the
commands: what the vendor library does decides only which of the two stories is told, and whether
the worker has reported yet.
-/

namespace RadioLifecycle

open Vendor (Library WorkerId)

/-- Whether an event is about the life of a session. -/
def Event.isLifecycle : Event → Bool
  | .started _ | .startFailed _ _ | .stopped _ => true
  | .reported _ => false

/-- What a subscriber was told of the lives of sessions. -/
def lifecycleHeard (subscriber : SubscriberId) (told : List Delivery) : List Event :=
  (heard subscriber told).filter (·.isLifecycle)

theorem lifecycleHeard_append (subscriber : SubscriberId) (told more : List Delivery) :
    lifecycleHeard subscriber (told ++ more) =
      lifecycleHeard subscriber told ++ lifecycleHeard subscriber more := by
  simp [lifecycleHeard, heard]

theorem lifecycleHeard_reports {subscriber : SubscriberId} {told : List Delivery}
    (reports : ∀ d ∈ told, ∃ report, d.event = .reported report) :
    lifecycleHeard subscriber told = [] := by
  apply List.filter_eq_nil_iff.mpr
  intro event hEvent
  obtain ⟨d, hDelivery, hHeard⟩ := List.mem_filterMap.mp hEvent
  obtain ⟨report, hReport⟩ := reports d hDelivery
  split at hHeard
  · cases hHeard
    simp [hReport, Event.isLifecycle]
  · cases hHeard

/-- The only subscriber is told of an event once. -/
theorem lifecycleHeard_deliveries {subscriber : SubscriberId} {s : Subscribers SubscriberId}
    (hMembers : s.members = [subscriber]) {event : Event} (hEvent : event.isLifecycle = true) :
    lifecycleHeard subscriber (s.deliveries event) = [event] := by
  simp [lifecycleHeard, heard, Subscribers.deliveries, hMembers, hEvent]

variable {σ : Type}

namespace Daemon

/-- What there is to see of a radio: who is told of its sessions, whether there is one, what the
listener was told of them, and how many teardowns were submitted. -/
structure Reading where
  members : List SubscriberId
  phase : Phase
  told : List Event
  cleanups : Nat

/-- What can be read once these commands have been executed. -/
inductive Story : List Command → Reading → Prop
  | fresh : Story [] ⟨[], .stopped, [], 0⟩
  | registered : Story (route.take 1) ⟨[listener], .stopped, [], 0⟩
  | started : Story (route.take 2) ⟨[listener], .started, [.started startCommand], 0⟩
  | refused (failure : StartFailure) :
      Story (route.take 2) ⟨[listener], .stopped, [.startFailed startCommand failure], 0⟩
  | stopping (asked : Nat) :
      Story (route ++ List.replicate asked .isStarted)
        ⟨[listener], .stopping, [.started startCommand], 1⟩
  | stopped (asked : Nat) :
      Story (route ++ List.replicate asked .isStarted)
        ⟨[listener], .stopped, [.started startCommand, .stopped stopCommand], 1⟩
  | spared (asked : Nat) (failure : StartFailure) :
      Story (route ++ List.replicate asked .isStarted)
        ⟨[listener], .stopped, [.startFailed startCommand failure, .stopped stopCommand], 0⟩

theorem Story.route_prefix {done : List Command} {reading : Reading} (story : Story done reading) :
    ∃ asked, done <+: route ++ List.replicate asked .isStarted := by
  cases story with
  | fresh => exact ⟨0, List.nil_prefix⟩
  | registered | started | refused =>
      exact ⟨0, (List.take_prefix _ _).trans (List.prefix_append _ _)⟩
  | stopping n | stopped n | spared n => exact ⟨n, List.prefix_rfl⟩

end Daemon

namespace Radio

open Daemon (Reading Story route listener startCommand stopCommand)

def reading (r : Radio σ) : Reading where
  members := r.controller.subscribers.members
  phase := r.controller.phase
  told := lifecycleHeard listener r.journal.deliveries
  cleanups := r.journal.calls.countP (·.tearsDown)

/-- The daemon's radio after these commands. -/
structure Chapter (r : Radio σ) (done : List Command) : Prop where
  story : Story done r.reading
  pending : r.controller.phase = .stopping → r.controller.pendingStop = some stopCommand

variable {r r' : Radio σ} {done : List Command} {command : Command} {asked : Nat}

/-- What a journal that grows adds to what can be read. -/
theorem reading_of_adds {calls : List Vendor.Call} {told : List Delivery} {fatals : List Phase}
    (adds : r.Adds r' calls told fatals) :
    r'.reading = ⟨r'.controller.subscribers.members, r'.controller.phase,
      r.reading.told ++ lifecycleHeard listener told,
      r.reading.cleanups + calls.countP (·.tearsDown)⟩ := by
  rw [reading, reading, Surroundings.Adds.journal_deliveries adds,
    Surroundings.Adds.journal_calls adds, lifecycleHeard_append, List.countP_append]

/-- The listener is told of what is broadcast while it is the only subscriber. -/
theorem reading_of_broadcast {calls : List Vendor.Call} {event : Event} {fatals : List Phase}
    (adds : r.Adds r' calls (r.controller.subscribers.deliveries event) fatals)
    (hSubscribers : r'.controller.subscribers = r.controller.subscribers)
    (hMembers : r.reading.members = [listener]) (hEvent : event.isLifecycle = true)
    (hCalls : calls.countP (·.tearsDown) = 0) :
    r'.reading = { r.reading with
      phase := r'.controller.phase
      told := r.reading.told ++ [event] } := by
  rw [reading_of_adds adds, lifecycleHeard_deliveries hMembers hEvent, hCalls, hSubscribers]
  rfl

theorem chapter_of_reading {reading : Reading} (hReading : r.reading = reading)
    (story : Story done reading) (hPhase : reading.phase ≠ .stopping) : r.Chapter done := by
  subst hReading
  exact ⟨story, fun hStopping => absurd hStopping hPhase⟩

/-- What neither starts nor stops a session and tells of none cannot be seen. -/
theorem Chapter.congr {calls : List Vendor.Call} {told : List Delivery} {fatals : List Phase}
    (h : r.Chapter done) (hPhase : r'.controller.phase = r.controller.phase)
    (hPending : r'.controller.pendingStop = r.controller.pendingStop)
    (hSubscribers : r'.controller.subscribers = r.controller.subscribers)
    (adds : r.Adds r' calls told fatals) (hTold : lifecycleHeard listener told = [])
    (hCalls : calls.countP (·.tearsDown) = 0) : r'.Chapter done := by
  constructor
  · have hSame : r'.reading = r.reading := by
      rw [reading_of_adds adds, hTold, hCalls, hPhase, hSubscribers, List.append_nil]
      rfl
    rw [hSame]
    exact h.story
  · rw [hPhase, hPending]
    exact h.pending

theorem countP_tearsDown_of_asks {calls : List Vendor.Call}
    (asks : ∀ call ∈ calls, call.asksVersion = true) : calls.countP (·.tearsDown) = 0 := by
  apply List.countP_eq_zero.mpr
  intro call hCall
  have hAsks := asks call hCall
  cases call with
  | driverVersion | firmwareVersion => simp [Vendor.Call.tearsDown]
  | bringUp | cleanup | eventLoop | interfaces | interfaceName =>
      simp [Vendor.Call.asksVersion] at hAsks

/-- What neither starts nor stops a session changes at most who is told. -/
theorem Shift.reading_of_served (shift : r.Shift (.command command) r')
    (hStart : ∀ id, command ≠ .start id) (hStop : ∀ id, command ≠ .stop id) :
    r'.reading = { r.reading with
      members := (r.controller.subscribersAfter (.command command)).members } ∧
    r'.controller.pendingStop = r.controller.pendingStop := by
  cases shift with
  | served _ _ kept _ adds reports asks subscribers =>
      refine ⟨?_, kept.pendingStop⟩
      rw [reading_of_adds adds, lifecycleHeard_reports reports, subscribers, kept.phase,
        countP_tearsDown_of_asks fun call hCall => (asks call hCall).1, List.append_nil]
      rfl
  | opened | failed | repeated | refused => exact absurd rfl (hStart _)
  | torn | absorbed | echoed => exact absurd rfl (hStop _)

/-- Once the daemon has stopped its session, all it does is to ask. -/
theorem isStarted_of_prefix {n : Nat}
    (hNext : route ++ List.replicate n .isStarted ++ [command] <+:
      route ++ List.replicate asked .isStarted) : command = .isStarted := by
  rw [List.append_assoc, List.prefix_append_right_inj] at hNext
  have hMember : command ∈ List.replicate asked Command.isStarted :=
    hNext.subset (List.mem_append_right _ List.mem_cons_self)
  exact List.eq_of_mem_replicate hMember

/-- The next command of the route is carried out, and the story goes on. -/
theorem Chapter.carried (h : r.Chapter done) (shift : r.Shift (.command command) r')
    (hNext : done ++ [command] <+: route ++ List.replicate asked .isStarted) :
    r'.Chapter (done ++ [command]) := by
  obtain ⟨story, pending⟩ := h
  have hMembers : r.reading.members = r.controller.subscribers.members := rfl
  have hPhase : r.controller.phase = r.reading.phase := rfl
  have hMore (n : Nat) : route ++ List.replicate n .isStarted ++ [.isStarted] =
      route ++ List.replicate (n + 1) .isStarted := by
    rw [List.append_assoc, List.replicate_succ']
  have hQuestion (hCommand : command = .isStarted) :
      r'.reading = r.reading ∧ r'.controller.pendingStop = r.controller.pendingStop := by
    subst hCommand
    exact shift.reading_of_served (by simp) (by simp)
  generalize hReading : r.reading = reading at story hMembers hPhase hQuestion
  cases story with
  | fresh =>
      obtain rfl : command = .subscribe listener := by simpa [route] using hNext
      obtain ⟨hNow, _⟩ := shift.reading_of_served (by simp) (by simp)
      rw [hReading, Controller.subscribersAfter, Subscribers.register, ← hMembers] at hNow
      exact chapter_of_reading hNow .registered (by simp)
  | registered =>
      obtain rfl : command = .start startCommand := by simpa [route] using hNext
      cases shift with
      | opened _ _ _ hController _ adds =>
          obtain ⟨hStarted, _, _, hSubscribers⟩ := fields_of_opened hController
          have hNow := reading_of_broadcast adds hSubscribers (by rw [hReading]) rfl
            (by simp [Vendor.Call.tearsDown])
          rw [hReading, hStarted] at hNow
          exact chapter_of_reading hNow .started (by simp)
      | failed status hStopped same adds =>
          have hNow := reading_of_broadcast adds (by rw [same.1]) (by rw [hReading]) rfl rfl
          rw [hReading, same.1, hStopped] at hNow
          exact chapter_of_reading hNow (.refused _) (by simp)
      | repeated hOther | refused hOther => cases hPhase.symm.trans hOther
      | served hStart => exact absurd rfl (hStart _)
  | started =>
      obtain rfl : command = .stop stopCommand := by simpa [route] using hNext
      cases shift with
      | torn _ _ _ _ _ hController _ adds =>
          have hNow := reading_of_adds adds
          rw [hReading, hController] at hNow
          refine ⟨?_, fun _ => by rw [hController]; rfl⟩
          rw [hNow, Controller.observed, Controller.teardownBegun, ← hMembers]
          exact .stopping 0
      | absorbed hOther | echoed hOther => cases hPhase.symm.trans hOther
      | served _ hStop => exact absurd rfl (hStop _)
  | refused failure =>
      obtain rfl : command = .stop stopCommand := by simpa [route] using hNext
      cases shift with
      | echoed hStopped same adds =>
          have hNow := reading_of_broadcast adds (by rw [same.1]) (by rw [hReading]) rfl rfl
          rw [hReading, same.1, hStopped] at hNow
          exact chapter_of_reading hNow (.spared 0 failure) (by simp)
      | torn _ _ hOther | absorbed hOther => cases hPhase.symm.trans hOther
      | served _ hStop => exact absurd rfl (hStop _)
  | stopping n =>
      obtain rfl := isStarted_of_prefix hNext
      obtain ⟨hNow, hPending⟩ := hQuestion rfl
      rw [hMore]
      refine ⟨by rw [hNow]; exact .stopping _, fun _ => ?_⟩
      rw [hPending]
      exact pending hPhase
  | stopped n =>
      obtain rfl := isStarted_of_prefix hNext
      rw [hMore]
      exact chapter_of_reading (hQuestion rfl).1 (.stopped _) (by simp)
  | spared n failure =>
      obtain rfl := isStarted_of_prefix hNext
      rw [hMore]
      exact chapter_of_reading (hQuestion rfl).1 (.spared _ failure) (by simp)

/-- The report that ends the session answers the stop, and any other report shows nothing. -/
theorem Chapter.taken {worker : Option WorkerId} {requested : Bool} (h : r.Chapter done)
    (shift : r.Shift (.exitReport worker requested) r') : r'.Chapter done := by
  cases shift with
  | abandoned _ same adds =>
      exact h.congr (by rw [same.1]) (by rw [same.1]) (by rw [same.1]) adds rfl rfl
  | closed command hStopping hPending hController _ adds =>
      obtain ⟨story, pending⟩ := h
      obtain rfl : command = stopCommand := Option.some.inj (hPending.symm.trans (pending hStopping))
      have hPhase : r.reading.phase = .stopping := hStopping
      generalize hReading : r.reading = reading at story hPhase
      cases story with
      | stopping n =>
          have hNow := reading_of_broadcast adds (by rw [hController]; rfl) (by rw [hReading]) rfl rfl
          rw [hReading, hController] at hNow
          exact chapter_of_reading hNow (.stopped n) (by simp [Controller.sessionClosed])
      | fresh | registered | started | refused | stopped | spared => cases hPhase

/-- What is asked of a chip cannot be seen. -/
theorem Chapter.aside (h : r.Chapter done) (shift : r.Shift (.command command) r')
    (hAside : command.isErrand = false) : r'.Chapter done := by
  cases command with
  | onChip chip request =>
      obtain ⟨hReading, hPending⟩ := shift.reading_of_served (by simp) (by simp)
      have hSame : r'.reading = r.reading := hReading
      have hPhase : r'.controller.phase = r.controller.phase := congrArg Reading.phase hSame
      refine ⟨by rw [hSame]; exact h.story, ?_⟩
      rw [hPhase, hPending]
      exact h.pending
  | start | stop | phase | isStarted | teardown | currentChip | hasChip | subscribe | unsubscribe =>
      cases hAside

theorem Chapter.performAll (lib : Library σ) (respond : Response) {commands : List Command}
    (h : r.Chapter done) (sound : r.controller.Sound)
    (hRoute : done ++ commands.filter (·.isErrand) <+: route ++ List.replicate asked .isStarted) :
    (r.performAll lib respond commands).2.Chapter (done ++ commands.filter (·.isErrand)) := by
  induction commands generalizing r done with
  | nil =>
      rw [List.filter_nil, List.append_nil]
      exact h
  | cons command rest ih =>
      have shift := obey_shift lib respond sound (.command command)
      have hSound := shift.sound sound
      cases hErrand : command.isErrand with
      | false =>
          rw [List.filter_cons_of_neg (by simp [hErrand])] at hRoute ⊢
          exact ih (h.aside shift hErrand) hSound hRoute
      | true =>
          rw [List.filter_cons_of_pos hErrand, List.append_cons] at hRoute ⊢
          exact ih (h.carried shift ((List.prefix_append _ _).trans hRoute)) hSound hRoute

theorem Passes.chapter {deeds : List (Deed σ)} (passes : r.Passes deeds r')
    (sound : r.controller.Sound)
    (hRoute : done ++ errandsOf deeds <+: route ++ List.replicate asked .isStarted)
    (h : r.Chapter done) : r'.Chapter (done ++ errandsOf deeds) := by
  cases passes with
  | rested hController _ adds =>
      rw [append_errandsOf_nil]
      exact h.congr (by rw [hController]) (by rw [hController]) (by rw [hController]) adds rfl rfl
  | strode w _ _ _ _ hController _ adds =>
      rw [append_errandsOf_nil]
      apply h.congr (by rw [hController]) (by rw [hController]) (by rw [hController]) adds rfl
      rw [Worker.nextCalls]
      split <;> rfl
  | carried lib respond commands =>
      rw [errandsOf_deeds] at hRoute ⊢
      exact h.performAll lib respond sound hRoute
  | taken respond worker requested =>
      rw [show errandsOf [_] = [] from rfl, List.append_nil]
      exact h.taken (onLoopExited_shift respond worker requested sound)

/-- The daemon is not told that there is no session before its stop has been answered. -/
theorem Chapter.denies (lib : Library σ) (respond : Response) (h : r.Chapter done)
    (hRoute : done ++ [command].filter (·.isErrand) <+: route ++ List.replicate asked .isStarted)
    (hAnswer : (r.perform lib respond command).1 = .flag false) :
    .stopped stopCommand ∈ r.reading.told := by
  cases hErrand : command.isErrand with
  | false =>
      cases command with
      | onChip => simp [perform] at hAnswer
      | start | stop | phase | isStarted | teardown | currentChip | hasChip | subscribe
      | unsubscribe => cases hErrand
  | true =>
      rw [List.filter_cons_of_pos hErrand, List.filter_nil] at hRoute
      have story := h.story
      have hMembers : r.controller.subscribers.members = r.reading.members := rfl
      have hPhase : r.controller.phase = r.reading.phase := rfl
      generalize r.reading = reading at story hMembers hPhase ⊢
      cases story with
      | fresh =>
          obtain rfl : command = .subscribe listener := by simpa [route] using hRoute
          simp [perform, Controller.subscribe, Subscribers.register, hMembers] at hAnswer
      | registered =>
          obtain rfl : command = .start startCommand := by simpa [route] using hRoute
          simp [perform] at hAnswer
      | started | refused =>
          obtain rfl : command = .stop stopCommand := by simpa [route] using hRoute
          simp [perform] at hAnswer
      | stopping n =>
          obtain rfl := isStarted_of_prefix hRoute
          simp [perform, Controller.isStarted, hPhase] at hAnswer
      | stopped | spared => simp

end Radio

end RadioLifecycle
