import RadioLifecycle.Proofs.System.Obedience

/-!
What the deeds of a run tell of the chip. A chip lives from the deed that bound it to the stop of
its session, its number is the count of the chips bound so far, and its subscribers are those whose
last subscription through its handle has not ended. So the deeds alone decide which handle is good,
and whom a report reaches.
-/

namespace RadioLifecycle

variable {σ : Type} {k : ChipId} {subscriber : SubscriberId} {d : Deed σ}
  {deeds since : List (Deed σ)}

/-- Whether clients have a way to bring a call about. They name the chip by the handle that they
hold, and no handle offers to invalidate its chip. -/
def Cause.isOffered : Cause → Bool
  | .command (.onChip (some _) request) => decide (request ≠ .invalidate)
  | .command (.onChip none _) => false
  | .command (.start _) | .command (.stop _) | .command .phase | .command .isStarted
  | .command .teardown | .command .currentChip | .command (.hasChip _) | .command (.subscribe _)
  | .command (.unsubscribe _) | .exitReport _ _ => true

theorem Cause.eq_some_of_isOffered {id : Option ChipId} {request : Chip.Request}
    (h : isOffered (.command (.onChip id request)) = true) :
    (∃ k, id = some k) ∧ request ≠ .invalidate := by
  cases id with
  | none => cases h
  | some k => exact ⟨⟨k, rfl⟩, of_decide_eq_true h⟩

/-- The deed is a call that was obeyed, and clients or workers brought it about. -/
structure Deed.Proper (d : Deed σ) : Prop where
  obeyed : d.Obeyed
  offered : d.cause.isOffered = true

/-- The chip that was bound: the one that is there after the deed, when none was before. -/
def Deed.bound? (d : Deed σ) : Option ChipId :=
  if d.before.controller.chip.isSome then none else d.after.controller.currentChip

/-- A running session is stopped. -/
def Deed.StopsSession (d : Deed σ) : Prop :=
  d.before.controller.phase = .started ∧ ∃ command, d.cause = .command (.stop command)

/-- The chips that were bound, earliest first. -/
def boundChips (deeds : List (Deed σ)) : List ChipId :=
  deeds.filterMap (·.bound?)

/-- A chip was bound before these last deeds, and its session has not been stopped since. -/
def BoundSince (k : ChipId) (deeds since : List (Deed σ)) : Prop :=
  ∃ earlier d, deeds = earlier ++ d :: since ∧ d.bound? = some k ∧ ∀ e ∈ since, ¬e.StopsSession

/-- Whether the deed makes or ends a subscription to a chip, through a handle of that chip. -/
def Deed.subscription? (k : ChipId) (subscriber : SubscriberId) (d : Deed σ) : Option Bool :=
  match d.cause with
  | .command (.onChip (some id) request) =>
    if id = k then (d.before.controller.liveChip? k).bind (·.subscription? subscriber request)
    else none
  | _ => none

/-- Whether the last that became of a subscription to a chip is that it was made. -/
def lastSubscription? (k : ChipId) (subscriber : SubscriberId) (deeds : List (Deed σ)) :
    Option Bool :=
  (deeds.filterMap (·.subscription? k subscriber)).getLast?

/-- Nothing becomes of a subscription through the handle of a chip that is not live. -/
theorem Deed.subscription?_eq_none
    (h : ∀ request, d.cause = .command (.onChip (some k) request) →
      d.before.controller.liveChip? k = none) : d.subscription? k subscriber = none := by
  rw [subscription?]
  split
  · next id request hAsked =>
      split
      · next hSame =>
          subst hSame
          rw [h request hAsked, Option.bind_none]
      · rfl
  · rfl

theorem lastSubscription?_append (k : ChipId) (subscriber : SubscriberId)
    (first second : List (Deed σ)) :
    lastSubscription? k subscriber (first ++ second) =
      (lastSubscription? k subscriber second).or (lastSubscription? k subscriber first) := by
  simp [lastSubscription?]

theorem lastSubscription?_singleton (k : ChipId) (subscriber : SubscriberId) (d : Deed σ) :
    lastSubscription? k subscriber [d] = d.subscription? k subscriber := by
  rw [lastSubscription?, List.filterMap_cons]
  cases d.subscription? k subscriber <;> rfl

/-- A chip is bound after a deed if the deed bound it, or if it was bound before and the deed did
not stop its session. -/
theorem boundSince_snoc :
    BoundSince k (deeds ++ [d]) since ↔ (since = [] ∧ d.bound? = some k) ∨
      ∃ prior, since = prior ++ [d] ∧ BoundSince k deeds prior ∧ ¬d.StopsSession := by
  constructor
  · rintro ⟨earlier, e, hDeeds, hBound, hSince⟩
    rcases List.eq_nil_or_concat since with rfl | ⟨prior, last, rfl⟩
    · obtain ⟨_, hLast⟩ := List.append_inj' hDeeds rfl
      cases hLast
      exact .inl ⟨rfl, hBound⟩
    · have hCut : deeds ++ [d] = (earlier ++ e :: prior) ++ [last] := by simpa using hDeeds
      obtain ⟨rfl, hLast⟩ := List.append_inj' hCut rfl
      cases hLast
      exact .inr ⟨prior, List.concat_eq_append,
        ⟨earlier, e, rfl, hBound, fun e he => hSince e (by simp [he])⟩, hSince _ (by simp)⟩
  · rintro (⟨rfl, hBound⟩ | ⟨prior, rfl, ⟨earlier, e, rfl, hBound, hPrior⟩, hStays⟩)
    · exact ⟨deeds, d, rfl, hBound, by simp⟩
    · refine ⟨earlier, e, by simp, hBound, fun e he => ?_⟩
      rcases List.mem_append.mp he with he | he
      · exact hPrior e he
      · rw [List.mem_singleton.mp he]
        exact hStays

namespace Radio

/-- The deeds tell which chip there is, who is subscribed to it, and which number comes next. -/
structure Records (r : Radio σ) (deeds : List (Deed σ)) : Prop where
  sound : r.controller.Sound
  next : r.controller.nextChip = UInt64.ofNat ((boundChips deeds).length + 1)
  numbered : boundChips deeds =
    (List.range (boundChips deeds).length).map fun n => ⟨UInt64.ofNat (n + 1)⟩
  current : ∀ k since, BoundSince k deeds since →
    ∃ chip, r.controller.chip = some chip ∧ chip.id = k ∧ chip.linked = true ∧
      chip.subscribers.members.Nodup ∧
      ∀ s, s ∈ chip.subscribers.members ↔ lastSubscription? k s since = some true
  bound : ∀ chip, r.controller.chip = some chip → ∃ since, BoundSince chip.id deeds since

theorem records_initial (vendor : σ) (interface : String) :
    (System.initial vendor interface).context.Records [] where
  sound := Controller.sound_initial interface
  next := rfl
  numbered := rfl
  current := by
    rintro k since ⟨earlier, d, hDeeds, _⟩
    simp at hDeeds
  bound := by
    intro chip hChip
    cases hChip

variable {r r' : Radio σ}

theorem Records.quiet (h : r.Records deeds) (quiet : r.Quiet r') : r'.Records deeds where
  sound := by rw [quiet.controller]; exact h.sound
  next := by rw [quiet.controller]; exact h.next
  numbered := h.numbered
  current := by rw [quiet.controller]; exact h.current
  bound := by rw [quiet.controller]; exact h.bound

/-- A deed that neither binds a chip nor stops a session adds to the history of the chip there
is. -/
theorem Records.continued (h : d.before.Records deeds) (sound : d.after.controller.Sound)
    (hStays : ¬d.StopsSession)
    (hNext : d.after.controller.nextChip = d.before.controller.nextChip)
    (hNone : d.before.controller.chip = none → d.after.controller.chip = none)
    (hSome : ∀ chip, d.before.controller.chip = some chip →
      ∃ chip', d.after.controller.chip = some chip' ∧ chip'.id = chip.id ∧
        (chip.linked = true → chip'.linked = true) ∧
        (chip.subscribers.members.Nodup → chip'.subscribers.members.Nodup) ∧
        (chip.linked = true → ∀ s, s ∈ chip'.subscribers.members ↔
          (d.subscription? chip.id s).getD (decide (s ∈ chip.subscribers.members)) = true)) :
    d.after.Records (deeds ++ [d]) := by
  have hUnbound : d.bound? = none := by
    rw [Deed.bound?]
    cases hChip : d.before.controller.chip with
    | some chip => rfl
    | none => simp [Controller.currentChip, hNone hChip]
  have hSame : boundChips (deeds ++ [d]) = boundChips deeds := by simp [boundChips, hUnbound]
  refine ⟨sound, by rw [hSame, hNext]; exact h.next, by rw [hSame]; exact h.numbered, ?_, ?_⟩
  · intro k since hSince
    rcases boundSince_snoc.mp hSince with ⟨_, hBound⟩ | ⟨prior, rfl, hPrior, _⟩
    · cases hUnbound.symm.trans hBound
    · obtain ⟨chip, hChip, rfl, hLinked, hNodup, hMembers⟩ := h.current k prior hPrior
      obtain ⟨chip', hChip', hId, hLinked', hNodup', hMembers'⟩ := hSome chip hChip
      refine ⟨chip', hChip', hId, hLinked' hLinked, hNodup' hNodup, fun s => ?_⟩
      rw [hMembers' hLinked s, lastSubscription?_append, lastSubscription?_singleton]
      cases d.subscription? chip.id s with
      | none => simpa using hMembers s
      | some made => simp
  · intro chip' hChip'
    cases hChip : d.before.controller.chip with
    | none => cases (hNone hChip).symm.trans hChip'
    | some chip =>
        obtain ⟨_, hAfter, hId, _⟩ := hSome chip hChip
        obtain rfl := Option.some.inj (hAfter.symm.trans hChip')
        obtain ⟨since, hSince⟩ := h.bound chip hChip
        rw [hId]
        exact ⟨since ++ [d], boundSince_snoc.mpr (.inr ⟨since, rfl, hSince, hStays⟩)⟩

/-- The deed that binds a chip begins the history of that chip. -/
theorem Records.begun (h : d.before.Records deeds) (sound : d.after.controller.Sound)
    (hNone : d.before.controller.chip = none) {interface : Vendor.InterfaceHandle}
    (hChip : d.after.controller.chip = some { id := ⟨d.before.controller.nextChip⟩, interface })
    (hNext : d.after.controller.nextChip = d.before.controller.nextChip + 1) :
    d.after.Records (deeds ++ [d]) := by
  have hBound : d.bound? = some ⟨d.before.controller.nextChip⟩ := by
    simp [Deed.bound?, hNone, Controller.currentChip, hChip]
  have hChips : boundChips (deeds ++ [d]) =
      boundChips deeds ++ [⟨d.before.controller.nextChip⟩] := by
    simp [boundChips, hBound]
  refine ⟨sound, ?_, ?_, ?_, ?_⟩
  · rw [hChips, hNext, h.next, List.length_append, List.length_singleton]
    exact (UInt64.ofNat_add _ 1).symm
  · rw [hChips, List.length_append, List.length_singleton, List.range_succ, List.map_append,
      ← h.numbered, h.next]
    rfl
  · intro k since hSince
    rcases boundSince_snoc.mp hSince with ⟨rfl, hBoundHere⟩ | ⟨prior, _, hPrior, _⟩
    · obtain rfl := Option.some.inj (hBound.symm.trans hBoundHere)
      refine ⟨_, hChip, rfl, rfl, List.nodup_nil, fun s => ?_⟩
      simp [lastSubscription?, Subscribers.empty]
    · obtain ⟨chip, hBefore, _⟩ := h.current k prior hPrior
      cases hNone.symm.trans hBefore
  · intro chip hAfter
    obtain rfl := Option.some.inj (hChip.symm.trans hAfter)
    exact ⟨[], boundSince_snoc.mpr (.inl ⟨rfl, hBound⟩)⟩

/-- The stop of a session ends the history of its chip. -/
theorem Records.ended (h : d.before.Records deeds) (sound : d.after.controller.Sound)
    (hStops : d.StopsSession) (hChip : d.after.controller.chip = none)
    (hNext : d.after.controller.nextChip = d.before.controller.nextChip) :
    d.after.Records (deeds ++ [d]) := by
  have hUnbound : d.bound? = none := by
    simp [Deed.bound?, Controller.currentChip, hChip]
  have hSame : boundChips (deeds ++ [d]) = boundChips deeds := by simp [boundChips, hUnbound]
  refine ⟨sound, by rw [hSame, hNext]; exact h.next, by rw [hSame]; exact h.numbered, ?_, ?_⟩
  · intro k since hSince
    rcases boundSince_snoc.mp hSince with ⟨_, hBound⟩ | ⟨_, _, _, hStays⟩
    · cases hUnbound.symm.trans hBound
    · exact absurd hStops hStays
  · intro chip hAfter
    cases hChip.symm.trans hAfter

/-- What was asked for by a client or a worker becomes part of the record. -/
theorem Records.deed (h : d.before.Records deeds) (proper : d.Proper) :
    d.after.Records (deeds ++ [d]) := by
  have sound := proper.obeyed.sound_after
  have change := proper.obeyed.chipChange
  have offered := proper.offered
  generalize hCause : d.cause = cause at change offered
  cases change with
  | bound interface hPhase hChip hNext =>
      refine h.begun sound ?_ hChip hNext
      cases hBefore : d.before.controller.chip with
      | none => rfl
      | some chip => cases hPhase.symm.trans (h.sound.chip_started (by simp [hBefore]))
  | dropped hPhase hChip hNext => exact h.ended sound ⟨hPhase, _, hCause⟩ hChip hNext
  | @asked id request chip hMeant hAfter hNext =>
      obtain ⟨⟨k, rfl⟩, hRequest⟩ := Cause.eq_some_of_isOffered offered
      obtain ⟨hBefore, hLinked, hNamed⟩ := Controller.meantChip?_eq_some hMeant
      obtain rfl : chip.id = k := hNamed k rfl
      have hStays : ¬d.StopsSession := by
        rintro ⟨_, command, hStop⟩
        cases hCause.symm.trans hStop
      refine h.continued sound hStays hNext (fun hNone => ?_) fun chip' hChip' => ?_
      · cases hNone.symm.trans hBefore
      · obtain rfl := Option.some.inj (hBefore.symm.trans hChip')
        refine ⟨_, hAfter, chip.afterRequest_id request, ?_, (Chip.nodup_afterRequest · request),
          fun _ s => ?_⟩
        · rw [chip.afterRequest_linked hRequest]
          exact id
        · have hLive : d.before.controller.liveChip? chip.id = some chip := hMeant
          rw [Chip.mem_afterRequest hLinked hRequest]
          simp [Deed.subscription?, hCause, hLive]
  | kept hChip hNext hStays hUnmeant =>
      have hStopless : ¬d.StopsSession := by
        rintro ⟨hPhase, command, hStop⟩
        exact hStays command (hCause.symm.trans hStop) hPhase
      refine h.continued sound hStopless hNext (fun hNone => hChip.trans hNone)
        fun chip hBefore => ?_
      refine ⟨chip, hChip.trans hBefore, rfl, id, id, fun hLinked s => ?_⟩
      have hNone : d.subscription? chip.id s = none :=
        Deed.subscription?_eq_none fun request hAsked =>
          hUnmeant (some chip.id) request (hCause.symm.trans hAsked)
      simp [hNone]

/-- What clients and workers bring about becomes part of the record, one deed after another. -/
theorem Records.leads {earlier : List (Deed σ)} (h : r.Records earlier) (leads : r.Leads deeds r')
    (proper : ∀ d ∈ deeds, d.Proper) : r'.Records (earlier ++ deeds) := by
  induction deeds generalizing r earlier with
  | nil =>
      rw [List.append_nil]
      exact h.quiet leads
  | cons d rest ih =>
      obtain ⟨hQuiet, _, hRest⟩ := leads
      have hAfter := (h.quiet hQuiet).deed (proper d (by simp))
      have hLast := ih hAfter hRest fun e he => proper e (by simp [he])
      rwa [List.append_assoc] at hLast

end Radio

/-- When each of these deeds was done, those before it were on record. -/
def OnRecord (deeds : List (Deed σ)) : Prop :=
  ∀ earlier d later, deeds = earlier ++ d :: later → d.before.Records earlier ∧ d.Proper

theorem OnRecord.init {earlier later : List (Deed σ)} (h : OnRecord (earlier ++ later)) :
    OnRecord earlier := by
  rintro first d second rfl
  exact h first d (second ++ later) (by simp)

namespace System

variable {vendor : σ} {interface : String} {s : System σ}

theorem Run.proper (run : Run (initial vendor interface) deeds s)
    (offered : ∀ d ∈ deeds, d.cause.isOffered = true) : ∀ d ∈ deeds, d.Proper :=
  fun d hd => ⟨run.obeyed (regular_initial vendor interface) d hd, offered d hd⟩

/-- What clients and workers brought about in a run is on record in the end. -/
theorem Run.records (run : Run (initial vendor interface) deeds s)
    (offered : ∀ d ∈ deeds, d.cause.isOffered = true) : s.context.Records deeds :=
  (Radio.records_initial vendor interface).leads (run.leads (regular_initial vendor interface))
    (run.proper offered)

theorem Run.onRecord (run : Run (initial vendor interface) deeds s)
    (offered : ∀ d ∈ deeds, d.cause.isOffered = true) : OnRecord deeds := by
  rintro earlier d later rfl
  have hProper := run.proper offered
  have hLeads := (run.leads (regular_initial vendor interface)).split.1
  exact ⟨(Radio.records_initial vendor interface).leads hLeads fun e he => hProper e (by simp [he]),
    hProper d (by simp)⟩

end System

end RadioLifecycle
