import RadioLifecycle.Proofs.System.ChipHandles
import RadioLifecycle.Proofs.System.Observers

/-!
Who receives the report of a chip. A request through the handle of a chip reaches those who are
subscribed to that chip, each of them once. Subscriptions are made and ended in tasks of their own,
so only the order in which tasks are executed decides who that is, and the stop of a session ends
all subscriptions to its chip.
-/

namespace RadioLifecycle

open Vendor (Library SessionHandle)

variable {σ : Type} {k : ChipId} {subscriber : SubscriberId} {d : Deed σ}
  {deeds since : List (Deed σ)}

def Event.report? : Event → Option ChipReport
  | .reported report => some report
  | .started _ | .startFailed _ _ | .stopped _ => none

/-- The reports that a subscriber received in some deliveries. -/
def reportsTo (subscriber : SubscriberId) (told : List Delivery) : List ChipReport :=
  (heard subscriber told).filterMap Event.report?

/-- A report is asked for through the handle of a chip that is bound, and the last that became of
the subscriber's subscription to that chip is that it was made. -/
def Deed.Informs (d : Deed σ) (subscriber : SubscriberId) (earlier : List (Deed σ)) : Prop :=
  ∃ k since, d.cause = .command (.onChip (some k) .report) ∧ BoundSince k earlier since ∧
    lastSubscription? k subscriber since = some true

theorem heard_deliveries (subscriber : SubscriberId) (s : Subscribers SubscriberId)
    (event : Event) :
    heard subscriber (s.deliveries event) =
      List.replicate (s.members.count subscriber) event := by
  obtain ⟨members⟩ := s
  simp only [Subscribers.deliveries]
  induction members with
  | nil => rfl
  | cons first rest ih =>
      rw [List.map_cons, heard, List.filterMap_cons, ← heard, ih]
      by_cases hFirst : first = subscriber
      · simp [hFirst, List.replicate_succ]
      · simp [hFirst]

theorem reportsTo_deliveries_of_not_mem {s : Subscribers SubscriberId}
    (h : subscriber ∉ s.members) (event : Event) :
    reportsTo subscriber (s.deliveries event) = [] := by
  rw [reportsTo, heard_deliveries, List.count_eq_zero_of_not_mem h]
  rfl

theorem reportsTo_deliveries_of_mem {s : Subscribers SubscriberId} (h : subscriber ∈ s.members)
    (hNodup : s.members.Nodup) (report : ChipReport) :
    reportsTo subscriber (s.deliveries (.reported report)) = [report] := by
  rw [reportsTo, heard_deliveries, List.count_eq_one_of_mem hNodup h]
  rfl

theorem reportsTo_deliveries_unreported (s : Subscribers SubscriberId) {event : Event}
    (h : ∀ report, event ≠ .reported report) : reportsTo subscriber (s.deliveries event) = [] := by
  have hNone : event.report? = none := by
    cases event with
    | reported report => exact absurd rfl (h report)
    | started | startFailed | stopped => rfl
  simp [reportsTo, heard_deliveries, hNone]

namespace Radio.Records

/-- A report goes to each subscriber of the chip that was asked for it, once, and to nobody else. -/
theorem reports (h : d.before.Records deeds) (proper : d.Proper) (subscriber : SubscriberId) :
    (d.Informs subscriber deeds → ∃ report, reportsTo subscriber d.told = [report]) ∧
    (¬d.Informs subscriber deeds → reportsTo subscriber d.told = []) := by
  have tells := proper.obeyed.tells
  have offered := proper.offered
  constructor
  · rintro ⟨k, since, hCause, hSince, hLast⟩
    obtain ⟨chip, hChip, rfl, hLinked, hNodup, hMembers⟩ := h.current k since hSince
    have hMeant : d.before.controller.meantChip? (some chip.id) = some chip := by
      simp [Controller.meantChip?, Controller.liveChip?, hChip, Chip.isValid, hLinked]
    rw [hCause] at tells
    generalize d.told = told at tells ⊢
    cases tells with
    | nobody _ unmeant => cases (unmeant _ rfl).symm.trans hMeant
    | session due => exact absurd rfl (due.unasked _ _)
    | chip found hFound report =>
        obtain rfl := Option.some.inj (hMeant.symm.trans hFound)
        exact ⟨report, reportsTo_deliveries_of_mem ((hMembers subscriber).mpr hLast) hNodup report⟩
  · intro hUninformed
    generalize hCause : d.cause = cause at tells offered
    generalize d.told = told at tells ⊢
    cases tells with
    | nobody => rfl
    | session due => exact reportsTo_deliveries_unreported _ due.unreported
    | chip chip hMeant report =>
        obtain ⟨⟨k, rfl⟩, _⟩ := Cause.eq_some_of_isOffered offered
        obtain ⟨hChip, _, hNamed⟩ := Controller.meantChip?_eq_some hMeant
        obtain rfl : chip.id = k := hNamed k rfl
        obtain ⟨since, hSince⟩ := h.bound chip hChip
        obtain ⟨chip', hChip', _, _, _, hMembers⟩ := h.current chip.id since hSince
        obtain rfl := Option.some.inj (hChip.symm.trans hChip')
        refine reportsTo_deliveries_of_not_mem (fun hMember => hUninformed ?_) _
        exact ⟨chip.id, since, hCause, hSince, (hMembers subscriber).mp hMember⟩

end Radio.Records

theorem not_boundSince_nil : ¬BoundSince k ([] : List (Deed σ)) since := by
  rintro ⟨earlier, d, hDeeds, _⟩
  simp at hDeeds

theorem BoundSince.mem_boundChips (h : BoundSince k deeds since) : k ∈ boundChips deeds := by
  obtain ⟨earlier, d, rfl, hBound, _⟩ := h
  exact List.mem_filterMap.mpr ⟨d, by simp, hBound⟩

/-- Nothing that was done up to the stop of a session counts for a chip that is bound later. -/
theorem boundSince_of_stops {old new : List (Deed σ)} {stop : Deed σ} (obeyed : stop.Obeyed)
    (hStops : stop.StopsSession) :
    BoundSince k (old ++ stop :: new) since ↔ BoundSince k new since := by
  induction new using List.reverseRecOn generalizing since with
  | nil =>
      have hGone : ¬BoundSince k (old ++ [stop]) since := by
        intro hSince
        rcases boundSince_snoc.mp hSince with ⟨_, hBound⟩ | ⟨_, _, _, hStays⟩
        · obtain ⟨_, _, hStop⟩ := hStops
          obtain ⟨_, _, hStart⟩ := obeyed.starts_of_bound hBound
          cases hStart.symm.trans hStop
        · exact hStays hStops
      exact iff_of_false hGone not_boundSince_nil
  | append_singleton new d ih =>
      rw [← List.cons_append, ← List.append_assoc, boundSince_snoc, boundSince_snoc]
      simp only [ih]

/-- Subscriptions to a chip are made and ended only once it has been bound. -/
theorem OnRecord.unsubscribed (h : OnRecord deeds) (hUnbound : k ∉ boundChips deeds) :
    lastSubscription? k subscriber deeds = none := by
  rw [lastSubscription?, List.getLast?_eq_none_iff, List.filterMap_eq_nil_iff]
  intro d hd
  obtain ⟨first, second, rfl⟩ := List.append_of_mem hd
  have hRecords := (h first d second rfl).1
  refine Deed.subscription?_eq_none fun _ _ => ?_
  rw [← Option.not_isSome_iff_eq_none, hRecords.isSome_liveChip?_iff]
  rintro ⟨since, hSince⟩
  apply hUnbound
  rw [boundChips, List.filterMap_append]
  exact List.mem_append_left _ hSince.mem_boundChips

/-- As long as no number is given out twice, what became of a subscription to a chip became of it
since the chip was bound. -/
theorem OnRecord.lastSubscription?_since (h : OnRecord deeds) (hNodup : (boundChips deeds).Nodup)
    (hSince : BoundSince k deeds since) :
    lastSubscription? k subscriber deeds = lastSubscription? k subscriber since := by
  obtain ⟨earlier, d, rfl, hBound, _⟩ := hSince
  have hUnbound : k ∉ boundChips earlier := by
    intro hEarlier
    rw [boundChips, List.filterMap_append] at hNodup
    exact (List.nodup_append.mp hNodup).2.2 k hEarlier k (by simp [hBound]) rfl
  have hBefore : lastSubscription? k subscriber earlier = none :=
    h.init.unsubscribed hUnbound
  have hHere : d.subscription? k subscriber = none := by
    obtain ⟨_, command, hStart⟩ := (h earlier d since rfl).2.obeyed.starts_of_bound hBound
    exact Deed.subscription?_eq_none fun _ hAsked => by cases hStart.symm.trans hAsked
  have hCut : earlier ++ d :: since = earlier ++ [d] ++ since := by simp
  rw [hCut, lastSubscription?_append, lastSubscription?_append, lastSubscription?_singleton, hHere,
    hBefore]
  simp

namespace System

/-- Subscribers receive what deeds tell them. A subscriber receives a report, and then one, exactly
when it is asked for through the handle of a chip that has been bound, whose session has not been
stopped since, and to which the subscriber has subscribed since and not unsubscribed. What was done
up to the stop of a session does not count for that. As long as the numbers of chips do not run
out, it is the same to say that the chip is live, and that the last that became of the subscription
at any time is that it was made. -/
theorem run_chipReports {vendor : σ} {interface : String} {s : System σ}
    (run : Run (initial vendor interface) deeds s)
    (offered : ∀ d ∈ deeds, d.cause.isOffered = true) :
    s.context.journal.deliveries = deeds.flatMap (·.told) ∧
    ∀ earlier d later subscriber, deeds = earlier ++ d :: later →
      (d.Informs subscriber earlier → ∃ report, reportsTo subscriber d.told = [report]) ∧
      (¬d.Informs subscriber earlier → reportsTo subscriber d.told = []) ∧
      (∀ old stop new, earlier = old ++ stop :: new → stop.StopsSession →
        (d.Informs subscriber earlier ↔ d.Informs subscriber new)) ∧
      ((boundChips earlier).length < UInt64.size - 1 →
        (d.Informs subscriber earlier ↔ ∃ k, d.cause = .command (.onChip (some k) .report) ∧
          (d.before.controller.liveChip? k).isSome = true ∧
          lastSubscription? k subscriber earlier = some true)) := by
  refine ⟨(run.leads (regular_initial vendor interface)).deliveries, ?_⟩
  rintro earlier d later subscriber rfl
  have hRecord := run.onRecord offered
  obtain ⟨hHere, proper⟩ := hRecord earlier d later rfl
  obtain ⟨hInformed, hUninformed⟩ := hHere.reports proper subscriber
  refine ⟨hInformed, hUninformed, ?_, fun few => ?_⟩
  · rintro old stop new rfl hStops
    have hStop := (hRecord old stop (new ++ d :: later) (by simp)).2.obeyed
    simp only [Deed.Informs, boundSince_of_stops hStop hStops]
  · have hLast {k : ChipId} {since : List (Deed σ)} (hSince : BoundSince k earlier since) :
        lastSubscription? k subscriber earlier = lastSubscription? k subscriber since :=
      hRecord.init.lastSubscription?_since (hHere.nodup few) hSince
    constructor
    · rintro ⟨k, since, hCause, hSince, hMade⟩
      exact ⟨k, hCause, hHere.isSome_liveChip?_iff.mpr ⟨since, hSince⟩, (hLast hSince).trans hMade⟩
    · rintro ⟨k, hCause, hLive, hMade⟩
      obtain ⟨since, hSince⟩ := hHere.isSome_liveChip?_iff.mp hLive
      exact ⟨k, since, hCause, hSince, (hLast hSince).symm.trans hMade⟩

/-- A subscriber that registered twice with the first chip receives its report once, and it does not
receive that of the chip of the next session. -/
theorem run_chipReports_secondChip :
    ∃ (s : System (Simulation SessionHandle)) (earlier between : List (Deed _)) (d e : Deed _),
      Run (initial { behaviour := { interfaces := [{ name := "wlan0" }] } } "wlan0")
        (earlier ++ d :: (between ++ [e])) s ∧
      earlier.map (·.cause) = [.command (.start ⟨1⟩), .command (.onChip (some ⟨1⟩) (.register ⟨7⟩)),
        .command (.onChip (some ⟨1⟩) (.register ⟨7⟩))] ∧
      d.cause = .command (.onChip (some ⟨1⟩) .report) ∧
      between.map (·.cause) = [.command (.stop ⟨2⟩), .exitReport (some ⟨0⟩) true,
        .command (.start ⟨3⟩)] ∧
      e.cause = .command (.onChip (some ⟨2⟩) .report) ∧
      (∃ report, reportsTo ⟨7⟩ d.told = [report]) ∧ reportsTo ⟨7⟩ e.told = [] := by
  let start : System (Simulation SessionHandle) :=
    initial { behaviour := { interfaces := [{ name := "wlan0" }] } } "wlan0"
  let audience : Audience := { respond := fun _ _ => .accepted }
  let joining : List (Action (Simulation SessionHandle)) :=
    [.submit (.perform [.start ⟨1⟩, .onChip (some ⟨1⟩) (.register ⟨7⟩),
      .onChip (some ⟨1⟩) (.register ⟨7⟩)]), .execute]
  let asking (k : ChipId) : List (Action (Simulation SessionHandle)) :=
    [.submit (.perform [.onChip (some k) .report]), .execute]
  let restarting : List (Action (Simulation SessionHandle)) :=
    [.submit (.perform [.stop ⟨2⟩]), .execute,
      .work ⟨0⟩, .work ⟨0⟩, .work ⟨0⟩, .work ⟨0⟩, .work ⟨0⟩,
      .execute, .submit (.perform [.start ⟨3⟩]), .execute]
  let s₁ := (replay? Simulation.library audience joining start).get (by decide +kernel)
  let s₂ := (replay? Simulation.library audience (asking ⟨1⟩) s₁).get (by decide +kernel)
  let s₃ := (replay? Simulation.library audience restarting s₂).get (by decide +kernel)
  let s₄ := (replay? Simulation.library audience (asking ⟨2⟩) s₃).get (by decide +kernel)
  let earlier := replayDeeds Simulation.library audience joining start
  let between := replayDeeds Simulation.library audience restarting s₂
  have join : Run start earlier s₁ :=
    run_of_replay? (Option.some_get _).symm (by simp [joining, Task.report?])
  let asked := replayDeeds Simulation.library audience (asking ⟨1⟩) s₁
  let askedAgain := replayDeeds Simulation.library audience (asking ⟨2⟩) s₃
  have ask : Run s₁ asked s₂ :=
    run_of_replay? (Option.some_get _).symm (by simp [asking, Task.report?])
  have restart : Run s₂ between s₃ :=
    run_of_replay? (Option.some_get _).symm (by simp [restarting, Task.report?])
  have again : Run s₃ askedAgain s₄ :=
    run_of_replay? (Option.some_get _).symm (by simp [asking, Task.report?])
  have hJoins : earlier.map (·.cause) = [.command (.start ⟨1⟩),
      .command (.onChip (some ⟨1⟩) (.register ⟨7⟩)),
      .command (.onChip (some ⟨1⟩) (.register ⟨7⟩))] := by decide +kernel
  have hRestarts : between.map (·.cause) = [.command (.stop ⟨2⟩), .exitReport (some ⟨0⟩) true,
      .command (.start ⟨3⟩)] := by decide +kernel
  have hAsked : asked.map (fun d => (d.cause, (d.before.controller.liveChip? ⟨1⟩).isSome)) =
      [(.command (.onChip (some ⟨1⟩) .report), true)] := by decide +kernel
  have hAskedAgain : askedAgain.map (·.cause) = [.command (.onChip (some ⟨2⟩) .report)] := by
    decide +kernel
  have hOffered : ∀ d ∈ earlier ++ (asked ++ (between ++ askedAgain)), d.cause.isOffered = true :=
    List.all_eq_true.mp (by decide +kernel)
  have hFew : (boundChips earlier).length < UInt64.size - 1 := by decide +kernel
  have hFewLater : (boundChips (earlier ++ (asked ++ between))).length < UInt64.size - 1 := by
    decide +kernel
  have hJoined : lastSubscription? ⟨1⟩ ⟨7⟩ earlier = some true := by decide +kernel
  have hUnjoined : lastSubscription? ⟨2⟩ ⟨7⟩ (earlier ++ (asked ++ between)) = none := by
    decide +kernel
  obtain ⟨d, hDeed, hData⟩ := List.map_eq_singleton_iff.mp hAsked
  obtain ⟨e, hDeedAgain, hCause⟩ := List.map_eq_singleton_iff.mp hAskedAgain
  simp only [Prod.mk.injEq] at hData
  rw [hDeed] at ask hOffered hFewLater hUnjoined
  rw [hDeedAgain] at again hOffered
  have run := join.trans (ask.trans (restart.trans again))
  rw [List.singleton_append] at run hOffered
  obtain ⟨_, hReports⟩ := run_chipReports run hOffered
  obtain ⟨hInformed, _, _, hLiteral⟩ := hReports earlier d (between ++ [e]) ⟨7⟩ rfl
  obtain ⟨_, hUninformed, _, hLiteralAgain⟩ :=
    hReports (earlier ++ ([d] ++ between)) e [] ⟨7⟩ (by simp)
  refine ⟨s₄, earlier, between, d, e, run, hJoins, hData.1, hRestarts, hCause,
    hInformed ((hLiteral hFew).mpr ⟨⟨1⟩, hData.1, hData.2, hJoined⟩), hUninformed ?_⟩
  rw [hLiteralAgain hFewLater]
  rintro ⟨k, hNamed, _, hLast⟩
  cases hCause.symm.trans hNamed
  cases hUnjoined.symm.trans hLast

end System

end RadioLifecycle
