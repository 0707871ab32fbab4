import RadioLifecycle.Proofs.System.History
import RadioLifecycle.Simulation.Library

/-!
What a subscriber can tell from what it was told. Being told of a start or of a stop is the only
sign of whether there is a session; a start that fails is no sign. A subscriber that is there from
the beginning and stays knows as much as the controller answers to those who ask.
-/

namespace RadioLifecycle

open Vendor (Library SessionHandle)

variable {σ : Type} {subscriber : SubscriberId}

/-- What an event says of whether there is a session now, if it says anything of that. -/
def Event.presence? : Event → Option Bool
  | .started _ => some true
  | .stopped _ => some false
  | .startFailed _ _ | .reported _ => none

/-- The events that a subscriber received in some deliveries. -/
def heard (subscriber : SubscriberId) (told : List Delivery) : List Event :=
  told.filterMap fun d => if d.subscriber = subscriber then some d.event else none

/-- The latest sign a subscriber received of whether there is a session. -/
def lastPresence? (subscriber : SubscriberId) (told : List Delivery) : Option Bool :=
  ((heard subscriber told).filterMap Event.presence?).getLast?

theorem lastPresence?_append (told more : List Delivery) :
    lastPresence? subscriber (told ++ more) =
      (lastPresence? subscriber more).or (lastPresence? subscriber told) := by
  simp [lastPresence?, heard]

theorem lastPresence?_cons (d : Delivery) (told : List Delivery) :
    lastPresence? subscriber (d :: told) = (lastPresence? subscriber told).or
      (if d.subscriber = subscriber then d.event.presence? else none) := by
  have hOne : lastPresence? subscriber [d] =
      if d.subscriber = subscriber then d.event.presence? else none := by
    by_cases hSubscriber : d.subscriber = subscriber
    · cases hEvent : d.event.presence? <;> simp [lastPresence?, heard, hSubscriber, hEvent]
    · simp [lastPresence?, heard, hSubscriber]
  rw [← hOne]
  exact lastPresence?_append [d] told

theorem lastPresence?_reports {told : List Delivery}
    (reports : ∀ d ∈ told, ∃ report, d.event = .reported report) :
    lastPresence? subscriber told = none := by
  induction told with
  | nil => rfl
  | cons d rest ih =>
      obtain ⟨report, hReport⟩ := reports d (by simp)
      have hRest := ih fun d hd => reports d (List.mem_cons_of_mem _ hd)
      simp [lastPresence?_cons, hRest, hReport, Event.presence?]

/-- Whoever is subscribed receives the sign that a broadcast is. -/
theorem lastPresence?_deliveries {s : Subscribers SubscriberId} (hMember : subscriber ∈ s.members)
    (event : Event) : lastPresence? subscriber (s.deliveries event) = event.presence? := by
  obtain ⟨members⟩ := s
  induction members with
  | nil => simp at hMember
  | cons first rest ih =>
      simp only [Subscribers.deliveries, List.map_cons, lastPresence?_cons] at ih ⊢
      -- The latest delivery counts, so the rest of the list is looked at first.
      by_cases hRest : subscriber ∈ rest
      · rw [ih hRest]
        split <;> simp
      · have hFirst : first = subscriber := by simpa [hRest, eq_comm] using hMember
        have hNone : lastPresence? subscriber (rest.map fun s => ⟨s, event⟩) = none := by
          have hAbsent : heard subscriber (rest.map fun s => ⟨s, event⟩) = [] := by
            simp only [heard, List.filterMap_eq_nil_iff, List.mem_map]
            rintro _ ⟨other, hOther, rfl⟩
            refine if_neg fun hSame => hRest ?_
            rwa [← show other = subscriber from hSame]
          rw [lastPresence?, hAbsent]
          rfl
        simp [hNone, hFirst]

namespace Radio

/-- The subscriber is there, and knows whether there is a session. -/
structure Watches (r : Radio σ) (subscriber : SubscriberId) : Prop where
  member : subscriber ∈ r.controller.subscribers.members
  agrees : lastPresence? subscriber r.journal.deliveries = some true ↔
    r.controller.isStarted = true

variable {r r' : Radio σ} {cause : Cause}

theorem Watches.quiet (h : r.Watches subscriber) (quiet : r.Quiet r') : r'.Watches subscriber := by
  obtain ⟨_, hAdds⟩ := quiet.adds
  refine ⟨by rw [quiet.controller]; exact h.member, ?_⟩
  rw [Surroundings.Adds.journal_deliveries hAdds, List.append_nil, quiet.controller]
  exact h.agrees

theorem member_subscribersAfter {c : Controller} (hMember : subscriber ∈ c.subscribers.members)
    (hStays : cause ≠ .command (.unsubscribe subscriber)) :
    subscriber ∈ (c.subscribersAfter cause).members := by
  cases cause with
  | exitReport => exact hMember
  | command command =>
      cases command with
      | subscribe s =>
          rw [Controller.subscribersAfter, Subscribers.register]
          split
          · exact hMember
          · exact List.mem_append_left _ hMember
      | unsubscribe s =>
          have hOther : subscriber ≠ s := fun hSame => hStays (by rw [hSame])
          simp [Controller.subscribersAfter, Subscribers.unregister, hMember, hOther]
      | start | stop | phase | isStarted | teardown | currentChip | hasChip | onChip =>
          exact hMember

/-- Whatever becomes of a call, whoever watches is told of it if it makes a difference. -/
theorem Shift.watches (shift : r.Shift cause r')
    (hStays : cause ≠ .command (.unsubscribe subscriber)) (h : r.Watches subscriber) :
    r'.Watches subscriber := by
  have hMember : subscriber ∈ r'.controller.subscribers.members := by
    rw [shift.subscribers]
    exact member_subscribersAfter h.member hStays
  have hSilent {calls : List Vendor.Call} {told : List Delivery} {fatals : List Phase}
      (adds : r.Adds r' calls told fatals) (hNone : lastPresence? subscriber told = none)
      (hSame : r'.controller.isStarted = r.controller.isStarted) : r'.Watches subscriber := by
    refine ⟨hMember, ?_⟩
    rw [Surroundings.Adds.journal_deliveries adds, lastPresence?_append, hNone, hSame]
    exact h.agrees
  have hTold {calls : List Vendor.Call} {fatals : List Phase} {event : Event}
      (adds : r.Adds r' calls (r.controller.subscribers.deliveries event) fatals)
      (hSign : event.presence? = some r'.controller.isStarted) : r'.Watches subscriber := by
    refine ⟨hMember, ?_⟩
    rw [Surroundings.Adds.journal_deliveries adds, lastPresence?_append,
      lastPresence?_deliveries h.member, hSign]
    simp
  cases shift with
  | opened _ _ _ hController _ adds =>
      refine hTold adds ?_
      simp [Event.presence?, Controller.isStarted, (fields_of_opened hController).1]
  | repeated hPhase same adds =>
      refine hTold adds ?_
      simp [Event.presence?, Controller.isStarted, same.1, hPhase]
  | failed _ _ same adds | refused _ same adds =>
      exact hSilent adds (lastPresence?_deliveries h.member _) (by rw [same.1])
  | torn _ _ hPhase _ _ hController _ adds =>
      refine hSilent adds rfl ?_
      rw [hController]
      simp [Controller.isStarted, Controller.observed, Controller.teardownBegun, hPhase]
  | absorbed => exact h
  | echoed hPhase same adds =>
      refine hTold adds ?_
      simp [Event.presence?, Controller.isStarted, same.1, hPhase]
  | served _ _ kept _ adds reports _ _ =>
      refine hSilent adds (lastPresence?_reports reports) ?_
      rw [Controller.isStarted, kept.phase]
      rfl
  | closed _ _ _ hController _ adds =>
      refine hTold adds ?_
      rw [hController]
      rfl
  | abandoned _ same adds => exact hSilent adds rfl (by rw [same.1])

/-- A watch that is never given up lasts over any history. -/
theorem Leads.watches {deeds : List (Deed σ)} (leads : r.Leads deeds r')
    (hStays : ∀ e ∈ deeds, e.cause ≠ .command (.unsubscribe subscriber))
    (h : r.Watches subscriber) : r'.Watches subscriber := by
  induction deeds generalizing r with
  | nil => exact h.quiet leads
  | cons d rest ih =>
      obtain ⟨hQuiet, hOrderly, hRest⟩ := leads
      have hAfter := hOrderly.shift.watches (hStays d (by simp)) (h.quiet hQuiet)
      exact ih hRest (fun e he => hStays e (List.mem_cons_of_mem _ he)) hAfter

end Radio

/-- Whoever subscribes before anything was told, while there is no session, watches from then on. -/
theorem Deed.Orderly.watches_of_subscribe {d : Deed σ} (orderly : d.Orderly)
    (hCause : d.cause = .command (.subscribe subscriber))
    (hPhase : d.before.controller.phase = .stopped) (hUntold : d.before.journal.deliveries = []) :
    d.after.Watches subscriber := by
  obtain ⟨cause, before, after⟩ := d
  obtain rfl : cause = .command (.subscribe subscriber) := hCause
  have shift : before.Shift (.command (.subscribe subscriber)) after := orderly.shift
  have hSubscribers := shift.subscribers
  cases shift with
  | @served _ _ _ told _ _ kept _ adds reports _ _ =>
      constructor
      · show subscriber ∈ after.controller.subscribers.members
        rw [hSubscribers, Controller.subscribersAfter, Subscribers.register]
        split
        · assumption
        · exact List.mem_append_right _ (List.mem_singleton.mpr rfl)
      · have hTold : after.journal.deliveries = told := by
          rw [Surroundings.Adds.journal_deliveries adds]
          simp only [hUntold, List.nil_append]
        have hStopped : after.controller.phase = .stopped := kept.phase.trans hPhase
        simp [hTold, lastPresence?_reports reports, Controller.isStarted, hStopped]

namespace System

/-- A subscriber that was subscribed before anything else was done and has not left since can tell
what the controller answers to whoever asks whether there is a session. -/
theorem run_observersAgree {vendor : σ} {interface : String} {s : System σ} {d : Deed σ}
    {deeds : List (Deed σ)} (run : Run (initial vendor interface) (d :: deeds) s)
    (hFirst : d.cause = .command (.subscribe subscriber))
    (hStays : ∀ e ∈ deeds, e.cause ≠ .command (.unsubscribe subscriber)) (lib : Library σ)
    (respond : Response) :
    (s.context.perform lib respond .isStarted).1 =
      .flag (decide (lastPresence? subscriber s.context.journal.deliveries = some true)) := by
  obtain ⟨hQuiet, hOrderly, hLater⟩ := run.leads (regular_initial vendor interface)
  have hWatches := hOrderly.watches_of_subscribe hFirst (by rw [hQuiet.controller]; rfl) <| by
    obtain ⟨_, hAdds⟩ := hQuiet.adds
    rw [Surroundings.Adds.journal_deliveries hAdds]
    rfl
  have hEnd := hLater.watches hStays hWatches
  rw [Radio.perform, Answer.flag.injEq, Bool.eq_iff_iff, decide_eq_true_iff]
  exact hEnd.agrees.symm

/-- The subscriber of a simulated session that was refused a start, stopped and started anew. -/
theorem run_observersAgree_restarted :
    ∃ (s : System (Simulation SessionHandle)) (deeds : List (Deed (Simulation SessionHandle))),
      Run (initial { behaviour := { interfaces := [] } } "wlan0") deeds s ∧
      heard ⟨7⟩ s.context.journal.deliveries =
        [.started ⟨1⟩, .startFailed ⟨3⟩ stoppingFailure, .stopped ⟨2⟩, .started ⟨4⟩] ∧
      (s.context.perform Simulation.library (fun _ _ => .accepted) .isStarted).1 = .flag true := by
  let start : System (Simulation SessionHandle) :=
    initial { behaviour := { interfaces := [] } } "wlan0"
  let audience : Audience := { respond := fun _ _ => .accepted }
  let actions : List (Action (Simulation SessionHandle)) :=
    [.submit (.perform [.subscribe ⟨7⟩, .start ⟨1⟩, .stop ⟨2⟩, .start ⟨3⟩]), .execute,
      .work ⟨0⟩, .work ⟨0⟩, .work ⟨0⟩, .work ⟨0⟩, .work ⟨0⟩, .execute,
      .submit (.perform [.start ⟨4⟩]), .execute]
  let s := (replay? Simulation.library audience actions start).get (by decide +kernel)
  have run := run_of_replay? (t := s) (Option.some_get _).symm (by simp [actions, Task.report?])
  let deeds := replayDeeds Simulation.library audience actions start
  have hCauses : deeds.map (·.cause) =
      [.command (.subscribe ⟨7⟩), .command (.start ⟨1⟩), .command (.stop ⟨2⟩),
        .command (.start ⟨3⟩), .exitReport (some ⟨0⟩) true, .command (.start ⟨4⟩)] := by
    decide +kernel
  have hHeard : heard ⟨7⟩ s.context.journal.deliveries =
      [.started ⟨1⟩, .startFailed ⟨3⟩ stoppingFailure, .stopped ⟨2⟩, .started ⟨4⟩] := by
    decide +kernel
  obtain ⟨first, rest, hDeeds, hFirst, hRest⟩ := List.map_eq_cons_iff.mp hCauses
  have hStays : ∀ e ∈ rest, e.cause ≠ .command (.unsubscribe ⟨7⟩) := by
    intro e he
    have hCause := List.mem_map_of_mem (f := (·.cause)) he
    rw [hRest] at hCause
    intro hLeaves
    simp [hLeaves] at hCause
  have run' : Run start (first :: rest) s := by
    rw [← hDeeds]
    exact run
  refine ⟨s, deeds, run, hHeard, ?_⟩
  rw [run_observersAgree run' hFirst hStays, lastPresence?, hHeard]
  rfl

end System

end RadioLifecycle
