import RadioLifecycle.Proofs.System.FatalExit

/-!
What a worker's report says, and when that is decided. A worker looks at its flag after the event
loop has returned, and the flag is up exactly if a stop of its session has been executed by then. So
a stop that comes before the loop returns is always seen, and one that comes after the worker looked
never is. Of a stop that comes between the two nothing is said here.
-/

namespace RadioLifecycle

open Vendor (Library SessionHandle WorkerId)

variable {σ : Type} {id : WorkerId}

/-- The deed stops the session of this worker. -/
def Deed.Stops (d : Deed σ) (id : WorkerId) : Prop :=
  (∃ command, d.cause = .command (.stop command)) ∧ d.before.controller.phase = .started ∧
    d.before.controller.runner = some id

theorem Deed.not_stops_of_causes {deeds : List (Deed σ)}
    (h : ∀ command, .command (.stop command) ∉ deeds.map (·.cause)) :
    ∀ e ∈ deeds, ¬e.Stops id := by
  rintro e he ⟨⟨command, hStop⟩, _⟩
  exact h command (List.mem_map.mpr ⟨e, he, hStop⟩)

namespace Radio

/-- The flags of the workers tell which sessions have been stopped. -/
structure Marked (r : Radio σ) (deeds : List (Deed σ)) : Prop where
  flags : ∀ w ∈ r.workers, w.teardownRequested = true ↔ ∃ e ∈ deeds, e.Stops w.id
  samples : ∀ w ∈ r.workers, w.stage = .sampled true → w.teardownRequested = true
  known : ∀ e ∈ deeds, ∀ id, e.Stops id → id.number < r.workers.length

variable {r r' : Radio σ} {deeds more : List (Deed σ)} {d : Deed σ}

theorem marked_initial (vendor : σ) (interface : String) :
    (System.initial vendor interface).context.Marked [] := by
  constructor <;> simp [System.initial]

theorem exists_stops_snoc :
    (∃ e ∈ deeds ++ [d], e.Stops id) ↔ (∃ e ∈ deeds, e.Stops id) ∨ d.Stops id := by
  simp only [List.mem_append, List.mem_singleton, or_and_right, exists_or, exists_eq_left]

theorem Marked.flag_of_stops (h : r.Marked deeds) {e : Deed σ} (he : e ∈ deeds)
    (hStops : e.Stops id) : ∀ w ∈ r.workers, w.id = id → w.teardownRequested = true := by
  rintro w hMember rfl
  exact (h.flags w hMember).mpr ⟨e, he, hStops⟩

/-- A deed that stops nothing leaves the flags as they are. -/
theorem Marked.snoc (h : r.Marked deeds) (hWorkers : r'.workers = r.workers)
    (hNone : ∀ id, ¬d.Stops id) : r'.Marked (deeds ++ [d]) := by
  refine ⟨?_, by rw [hWorkers]; exact h.samples, ?_⟩
  · rw [hWorkers]
    intro w hMember
    rw [h.flags w hMember, exists_stops_snoc]
    simp [hNone]
  · rw [hWorkers]
    intro e he id hStops
    rcases List.mem_append.mp he with he | he
    · exact h.known e he id hStops
    · obtain rfl := List.mem_singleton.mp he
      exact absurd hStops (hNone id)

/-- A deed that stops a session raises the flag of its worker, and of no other. -/
theorem Marked.deed (h : d.before.Marked deeds) (fit : d.before.Fit)
    (shift : d.before.Shift d.cause d.after) : d.after.Marked (deeds ++ [d]) := by
  obtain ⟨cause, before, after⟩ := d
  simp only at h fit shift ⊢
  have hOther (hPhase : before.controller.phase ≠ .started) (id : WorkerId) :
      ¬Deed.Stops ⟨cause, before, after⟩ id := fun hStops => hPhase hStops.2.1
  have hNot (hCause : ∀ command, cause ≠ .command (.stop command)) (id : WorkerId) :
      ¬Deed.Stops ⟨cause, before, after⟩ id :=
    fun ⟨⟨command, hStop⟩, _⟩ => hCause command hStop
  cases shift with
  | failed _ hPhase same _ | refused hPhase same _ | echoed hPhase same _ =>
      exact h.snoc same.2 (hOther (by simp [hPhase]))
  | absorbed hPhase => exact h.snoc rfl (hOther (by simp [hPhase]))
  | repeated _ same _ | abandoned _ same _ => exact h.snoc same.2 (hNot (by simp))
  | served _ hStop _ hWorkers _ _ _ _ => exact h.snoc hWorkers (hNot (by simpa using hStop))
  | closed _ _ _ _ hWorkers _ => exact h.snoc hWorkers (hNot (by simp))
  | opened handle _ hPhase _ hWorkers _ =>
      refine ⟨fun w hMember => ?_, fun w hMember hStage => ?_, fun e he id hStops => ?_⟩
      · rw [exists_stops_snoc]
        simp only [hNot (by simp), or_false]
        rw [hWorkers] at hMember
        rcases List.mem_append.mp hMember with hOld | hNew
        · exact h.flags w hOld
        -- Nobody can have stopped the session of a worker that was not there yet.
        · obtain rfl := List.mem_singleton.mp hNew
          simp only [Bool.false_eq_true, false_iff, not_exists, not_and]
          intro e he hStops
          exact absurd (h.known e he _ hStops) (Nat.lt_irrefl _)
      · rw [hWorkers] at hMember
        rcases List.mem_append.mp hMember with hOld | hNew
        · exact h.samples w hOld hStage
        · obtain rfl := List.mem_singleton.mp hNew
          cases hStage
      · rw [hWorkers, List.length_append]
        rcases List.mem_append.mp he with he | he
        · exact Nat.lt_add_right _ (h.known e he id hStops)
        · obtain rfl := List.mem_singleton.mp he
          exact absurd hStops (hNot (by simp) id)
  | @torn _ command handle worker hPhase _ hRunner _ hWorkers _ =>
      have hMap : after.workers = before.workers.map (·.asked worker) := hWorkers
      have hStops (id : WorkerId) :
          Deed.Stops ⟨.command (.stop command), before, after⟩ id ↔ id = worker := by
        constructor
        · exact fun hStop => Option.some.inj (hStop.2.2.symm.trans hRunner)
        · rintro rfl
          exact ⟨⟨_, rfl⟩, hPhase, hRunner⟩
      refine ⟨fun w hMember => ?_, fun w hMember hStage => ?_, fun e he id hStop => ?_⟩
      · rw [hMap] at hMember
        obtain ⟨v, hMemberV, rfl⟩ := List.mem_map.mp hMember
        rw [exists_stops_snoc, hStops, v.asked_teardownRequested, v.asked_id, h.flags v hMemberV]
      · rw [hMap] at hMember
        obtain ⟨v, hMemberV, rfl⟩ := List.mem_map.mp hMember
        rw [v.asked_stage] at hStage
        exact (v.asked_teardownRequested worker).mpr (.inl (h.samples v hMemberV hStage))
      · rw [hMap, List.length_map]
        rcases List.mem_append.mp he with he | he
        · exact h.known e he id hStop
        · obtain rfl := List.mem_singleton.mp he
          rw [(hStops id).mp hStop]
          exact fit.runner_lt worker hRunner

/-- What a worker sees when it looks is its flag. -/
theorem Marked.strode {w w' : Worker} {report : Option Bool} (h : r.Marked deeds)
    (hMember : w ∈ r.workers) (stride : w.Stride report w')
    (hWorkers : r'.workers = r.workers.map fun other => if other.id = w.id then w' else other) :
    r'.Marked deeds := by
  refine ⟨fun v hMemberV => ?_, fun v hMemberV hStage => ?_, ?_⟩
  · rw [hWorkers] at hMemberV
    obtain ⟨other, hOther, rfl⟩ := List.mem_map.mp hMemberV
    split
    · rw [stride.teardownRequested, stride.id]
      exact h.flags w hMember
    · exact h.flags other hOther
  · rw [hWorkers] at hMemberV
    obtain ⟨other, hOther, rfl⟩ := List.mem_map.mp hMemberV
    split at hStage
    · next hId =>
        rw [if_pos hId, stride.teardownRequested]
        cases stride with
        | called | returned | reported => cases hStage
        | stayed => exact h.samples w hMember hStage
        | sampled => exact WorkerStage.sampled.inj hStage
    · next hId =>
        rw [if_neg hId]
        exact h.samples other hOther hStage
  · rw [hWorkers, List.length_map]
    exact h.known

theorem Marked.performAll (h : r.Marked deeds) (fit : r.Fit) (lib : Library σ)
    (respond : Response) (commands : List Command) :
    (r.performAll lib respond commands).2.Marked (deeds ++ r.deeds lib respond commands) := by
  induction commands generalizing r deeds with
  | nil => rwa [Radio.deeds, List.append_nil]
  | cons command rest ih =>
      have shift := obey_shift lib respond fit.sound (.command command)
      have hFirst := Marked.deed
        (d := ⟨.command command, r, r.obey lib respond (.command command)⟩) h fit shift
      have hRest := ih hFirst (shift.fit (by simp) fit)
      rw [List.append_assoc] at hRest
      exact hRest

theorem Passes.marked (passes : r.Passes more r') (orderly : ∀ d ∈ more, d.Orderly) (fit : r.Fit)
    (h : r.Marked deeds) : r'.Marked (deeds ++ more) := by
  cases passes with
  | rested _ hWorkers _ =>
      rw [List.append_nil]
      refine ⟨?_, ?_, ?_⟩ <;> rw [hWorkers]
      · exact h.flags
      · exact h.samples
      · exact h.known
  | strode w w' report hMember stride _ hWorkers _ =>
      rw [List.append_nil]
      exact h.strode hMember stride hWorkers
  | carried lib respond commands => exact h.performAll fit lib respond commands
  | taken respond worker requested =>
      exact h.deed fit (orderly _ (List.mem_singleton.mpr rfl)).shift

/-- A call moves no worker on, and a new worker has not looked yet. -/
theorem Shift.stage_ne {cause : Cause} (shift : r.Shift cause r')
    (h : ∀ w ∈ r.workers, w.id = id → w.stage ≠ .sampled false) :
    ∀ w ∈ r'.workers, w.id = id → w.stage ≠ .sampled false := by
  intro w hMember hId
  rcases shift.stage_before hMember with ⟨v, hMemberV, hIdV, hStage⟩ | hSpawned
  · rw [← hStage]
    exact h v hMemberV (hIdV.trans hId)
  · simp [hSpawned]

end Radio

namespace System

variable {s t : System σ} {deeds more : List (Deed σ)}

theorem Run.marked (run : Run s more t) (regular : s.Regular) (fit : s.context.Fit)
    (h : s.context.Marked deeds) : t.context.Marked (deeds ++ more) := by
  induction run with
  | refl => rwa [List.append_nil]
  | snoc prior last ih =>
      have hRegular := (prior.regular regular).1
      rw [← List.append_assoc]
      exact last.passes.marked (last.regular hRegular).2 (prior.fit regular fit) ih

/-- The worker has not seen its flag down, and has not reported that it did. -/
structure Unfailing (s : System σ) (id : WorkerId) : Prop where
  stage : ∀ w ∈ s.context.workers, w.id = id → w.stage ≠ .sampled false
  reports : ∀ requested, (some id, requested) ∈ s.waiting → requested = true

/-- A worker whose flag is up sees it up when it looks, and says so. -/
theorem Effect.unfailing (effect : s.Effect more t) (balanced : s.context.Balanced s.waiting)
    (hFlag : ∀ w ∈ s.context.workers, w.id = id → w.teardownRequested = true)
    (h : s.Unfailing id) :
    t.Unfailing id ∧ ∀ d ∈ more, ∀ requested,
      d.cause = .exitReport (some id) requested → requested = true := by
  cases effect with
  | rested _ hWorkers _ hWaiting =>
      refine ⟨⟨?_, ?_⟩, by simp⟩
      · rw [hWorkers]
        exact h.stage
      · rw [hWaiting]
        exact h.reports
  | carried lib respond commands hContext hWaiting =>
      have hAll := Radio.performAll_induction
        (P := fun r => r.controller.Sound ∧ ∀ w ∈ r.workers, w.id = id → w.stage ≠ .sampled false)
        (fun _ h => h.1) (fun _ _ _ h shift => ⟨shift.sound h.1, shift.stage_ne h.2⟩)
        lib respond commands ⟨balanced.sound, h.stage⟩
      rw [← hContext] at hAll
      refine ⟨⟨hAll.2, ?_⟩, fun d hd requested hCause => ?_⟩
      · rw [hWaiting]
        exact h.reports
      · obtain ⟨command, hCommand⟩ := Radio.cause_of_mem_deeds hd
        cases hCommand.symm.trans hCause
  | taken respond worker requested hContext hWaiting _ =>
      have shift := Radio.onLoopExited_shift respond worker requested balanced.sound
      rw [← hContext] at shift
      refine ⟨⟨shift.stage_ne h.stage, fun seen hSeen => ?_⟩, fun d hd seen hCause => ?_⟩
      · exact h.reports seen (by rw [hWaiting]; exact List.mem_cons_of_mem _ hSeen)
      · obtain rfl := List.mem_singleton.mp hd
        obtain ⟨rfl, rfl⟩ := Cause.exitReport.inj hCause
        exact h.reports requested (by rw [hWaiting]; exact List.mem_cons_self)
  | strode w w' report hMember stride _ hWorkers _ hWaiting =>
      refine ⟨⟨fun v hMemberV hId => ?_, fun requested hSeen => ?_⟩, by simp⟩
      · rw [hWorkers] at hMemberV
        obtain ⟨other, hOther, rfl⟩ := List.mem_map.mp hMemberV
        split at hId
        · next hSame =>
            rw [if_pos hSame]
            rw [stride.id] at hId
            cases stride with
            | called | returned | reported => simp
            | stayed => exact h.stage w hMember hId
            | sampled => simp [hFlag w hMember hId]
        · next hSame =>
            rw [if_neg hSame]
            exact h.stage other hOther hId
      · rw [hWaiting] at hSeen
        rcases List.mem_append.mp hSeen with hOld | hNew
        · exact h.reports requested hOld
        · cases stride with
          | reported seen hStage =>
              simp only [Option.map_some, Option.toList_some, List.mem_singleton, Prod.mk.injEq,
                Option.some.injEq] at hNew
              obtain ⟨rfl, rfl⟩ := hNew
              cases requested with
              | true => rfl
              | false => exact absurd hStage (h.stage w hMember rfl)
          | called | stayed | returned | sampled => simp at hNew

/-- A worker that has not looked yet has not seen anything. -/
theorem unfailing_of_entered {w : Worker} (balanced : s.context.Balanced s.waiting)
    (hMember : w ∈ s.context.workers) (hStage : w.stage = .spawned ∨ w.stage = .inLoop) :
    s.Unfailing w.id := by
  have hOutstanding : w.isOutstanding = true := by
    rcases hStage with hStage | hStage <;> simp [Worker.isOutstanding, hStage]
  obtain ⟨_, hNone, _⟩ := balanced.only hMember hOutstanding
  refine ⟨fun v hMemberV hId => ?_, by simp [hNone]⟩
  obtain rfl := List.inj_on_of_nodup_map balanced.numbered.nodup hMemberV hMember hId
  rcases hStage with hStage | hStage <;> simp [hStage]

/-- If the session was stopped before the event loop returned, its worker never reports otherwise.
-/
theorem Run.unfailing {earlier : List (Deed σ)} (run : Run s deeds t) (regular : s.Regular)
    (fit : s.context.Fit) (marked : s.context.Marked earlier) (hStopped : ∃ e ∈ earlier, e.Stops id)
    (h : s.GoesOn → s.Unfailing id) :
    (t.GoesOn → t.Unfailing id) ∧ ∀ d ∈ deeds, ∀ requested,
      d.cause = .exitReport (some id) requested → requested = true := by
  induction run with
  | refl => exact ⟨h, by simp⟩
  | @snoc t u deeds more prior last ih =>
      obtain ⟨hPrior, hReports⟩ := ih
      have hRegular := (prior.regular regular).1
      by_cases hGoesOn : t.GoesOn
      · have hMarked := prior.marked regular fit marked
        obtain ⟨e, he, hStops⟩ := hStopped
        have hFlag := hMarked.flag_of_stops (List.mem_append_left _ he) hStops
        have effect := last.effect hGoesOn hRegular.plain
        obtain ⟨hNext, hMore⟩ :=
          effect.unfailing (hRegular.standing.balanced hGoesOn) hFlag (hPrior hGoesOn)
        refine ⟨fun _ => hNext, fun d hd => ?_⟩
        rcases List.mem_append.mp hd with hd | hd
        · exact hReports d hd
        · exact hMore d hd
      -- Nothing is taken any more once the control thread does not go on.
      · obtain ⟨hStill, rfl⟩ := last.stalled hGoesOn
        refine ⟨fun goesOn => absurd goesOn hStill, ?_⟩
        rw [List.append_nil]
        exact hReports

/-- The flag of a worker tells whether its session has been stopped. If it had been when the event
loop was still to return, then the worker reports that. If it had not been when the worker looked,
then the worker saw that, and is about to report it or has its report waiting for as long as the
control thread goes on; a report that is taken then is the report of that, it is fatal, and it is
the last deed. Nobody is told anything but by a deed, and from the beginning of the session no deed
tells of its end, whether or not the report is taken. -/
theorem run_exitVerdict {vendor : σ} {interface : String} {s₁ s₂ : System σ}
    {deeds₁ deeds₂ : List (Deed σ)} {w : Worker}
    (first : Run (initial vendor interface) deeds₁ s₁) (hMember : w ∈ s₁.context.workers)
    (second : Run s₁ deeds₂ s₂) :
    (w.teardownRequested = true ↔ ∃ e ∈ deeds₁, e.Stops w.id) ∧
    (w.stage = .spawned ∨ w.stage = .inLoop → (∃ e ∈ deeds₁, e.Stops w.id) →
      ∀ d ∈ deeds₂, ∀ requested, d.cause = .exitReport (some w.id) requested →
        requested = true) ∧
    ∀ seen, w.stage = .sampled seen → (∀ e ∈ deeds₁, ¬e.Stops w.id) →
      seen = false ∧
      (s₂.GoesOn → (∃ v ∈ s₂.context.workers, v.id = w.id ∧ v.stage = .sampled false) ∨
        s₂.waiting = [(some w.id, false)]) ∧
      (∀ d ∈ deeds₂, ∀ worker requested, d.cause = .exitReport worker requested →
        worker = some w.id ∧ requested = false ∧ (∃ prior, deeds₂ = prior ++ [d]) ∧
        d.calls = [] ∧ d.told = [] ∧ d.fatals = [.started] ∧ ¬s₂.GoesOn ∧
        s₂.context.journal.fatals = [.started]) ∧
      s₂.context.journal.deliveries = (deeds₁ ++ deeds₂).flatMap (·.told) ∧
      ∀ earlier m later, deeds₁ ++ deeds₂ = earlier ++ m :: later →
        m.after.controller.runner = some w.id → ∀ n ∈ m :: later, n.TellsNoStop := by
  have hInitial := regular_initial vendor interface
  have hRegular := (first.regular hInitial).1
  have hFit := first.fit hInitial (fit_initial vendor interface)
  have hMarked := first.marked hInitial (fit_initial vendor interface)
    (Radio.marked_initial vendor interface)
  rw [List.nil_append] at hMarked
  refine ⟨hMarked.flags w hMember, fun hStage hStopped => ?_, fun seen hStage hUnstopped => ?_⟩
  · have hUnfailing (goesOn : s₁.GoesOn) : s₁.Unfailing w.id :=
      unfailing_of_entered (hRegular.standing.balanced goesOn) hMember hStage
    exact (second.unfailing hRegular hFit hMarked hStopped hUnfailing).2
  · obtain rfl : seen = false := by
      cases seen with
      | false => rfl
      | true =>
          obtain ⟨e, he, hStops⟩ := (hMarked.flags w hMember).mp (hMarked.samples w hMember hStage)
          exact absurd hStops (hUnstopped e he)
    have hOutstanding : w.isOutstanding = true := by simp [Worker.isOutstanding, hStage]
    have hRunner := hFit.owned w hMember hOutstanding
    have hDoomed (goesOn : s₁.GoesOn) : s₁.Doomed w.id :=
      doomed_of_sampled (hRegular.standing.balanced goesOn) hMember hStage
    obtain ⟨hStill, hBroken⟩ := second.doomed hRegular hDoomed
    have hLeads := (first.trans second).leads hInitial
    refine ⟨rfl, fun goesOn => (hStill goesOn).trace, fun d hd worker requested hCause => ?_,
      hLeads.deliveries, ?_⟩
    · have broken := hBroken d hd worker requested hCause
      obtain ⟨rfl, rfl⟩ := Cause.exitReport.inj (hCause.symm.trans broken.cause)
      obtain ⟨hCalls, hTold, hFatals⟩ := broken.gained
      exact ⟨rfl, rfl, broken.last, hCalls, hTold, hFatals, broken.stalled, broken.fatal⟩
    · intro earlier m later hDeeds hBegun
      have hEnd := second.runner_of_doomed hRegular hRunner hDoomed
      have run := first.trans second
      rw [hDeeds] at run
      exact run.tellsNoStop hBegun hEnd

/-- A worker is inside the event loop when its session is stopped, and reports a requested end. -/
theorem run_exitVerdict_stoppedInLoop :
    ∃ (s₁ s₂ : System (Simulation SessionHandle))
      (deeds₁ deeds₂ : List (Deed (Simulation SessionHandle))),
      Run (initial { behaviour := { interfaces := [] } } "wlan0") deeds₁ s₁ ∧
      Run s₁ deeds₂ s₂ ∧ (∃ e ∈ deeds₁, e.Stops ⟨0⟩) ∧
      ∃ d ∈ deeds₂, ∃ requested, d.cause = .exitReport (some ⟨0⟩) requested ∧
        requested = true := by
  let start : System (Simulation SessionHandle) :=
    initial { behaviour := { interfaces := [] } } "wlan0"
  let audience : Audience := { respond := fun _ _ => .accepted }
  let before : List (Action (Simulation SessionHandle)) :=
    [.submit (.perform [.start ⟨1⟩]), .execute, .work ⟨0⟩, .submit (.perform [.stop ⟨2⟩]), .execute]
  let after : List (Action (Simulation SessionHandle)) :=
    [.work ⟨0⟩, .work ⟨0⟩, .work ⟨0⟩, .work ⟨0⟩, .execute]
  let s₁ := (replay? Simulation.library audience before start).get (by decide +kernel)
  let s₂ := (replay? Simulation.library audience after s₁).get (by decide +kernel)
  have first := run_of_replay? (t := s₁) (Option.some_get _).symm (by simp [before, Task.report?])
  have second := run_of_replay? (t := s₂) (Option.some_get _).symm (by simp [after, Task.report?])
  have hWorkers : s₁.context.workers = [⟨⟨0⟩, ⟨1⟩, true, .inLoop⟩] := by decide +kernel
  have hMember : ⟨⟨0⟩, ⟨1⟩, true, .inLoop⟩ ∈ s₁.context.workers := by simp [hWorkers]
  let deeds := replayDeeds Simulation.library audience after s₁
  have hCauses : deeds.map (·.cause) = [.exitReport (some ⟨0⟩) true] := by decide +kernel
  obtain ⟨d, hDeeds, hCause⟩ := List.map_eq_singleton_iff.mp hCauses
  have hDeed : d ∈ deeds := by simp [hDeeds]
  obtain ⟨hFlag, hAsked, _⟩ := run_exitVerdict first hMember second
  have hStopped := hFlag.mp rfl
  exact ⟨s₁, s₂, _, _, first, second, hStopped, d, hDeed, true, hCause,
    hAsked (.inr rfl) hStopped d hDeed true hCause⟩

/-- The report need not tell whether the session had been stopped when the event loop returned: the
worker may look later than a stop that came after the return, and then it reports a requested end,
and subscribers are told of the stop. And a report need not be taken at all: the control thread may
have been asked to end before it comes. -/
theorem exists_lateStop_and_lostReport :
    (∃ (s₁ s₂ : System (Simulation SessionHandle))
      (deeds₁ deeds₂ : List (Deed (Simulation SessionHandle))),
      Run (initial { behaviour := { interfaces := [] } } "wlan0") deeds₁ s₁ ∧
      s₁.context.workers = [⟨⟨0⟩, ⟨1⟩, false, .returned⟩] ∧ (∀ e ∈ deeds₁, ¬e.Stops ⟨0⟩) ∧
      Run s₁ deeds₂ s₂ ∧ ∃ d ∈ deeds₂, d.cause = .exitReport (some ⟨0⟩) true ∧
        d.told = [⟨⟨7⟩, .stopped ⟨2⟩⟩] ∧ d.fatals = []) ∧
    ∃ (s : System (Simulation SessionHandle)) (deeds : List (Deed (Simulation SessionHandle))),
      Run (initial { behaviour := { interfaces := [] } } "wlan0") deeds s ∧
      s.context.workers = [⟨⟨0⟩, ⟨1⟩, false, .finished⟩] ∧ (∀ e ∈ deeds, ¬e.Stops ⟨0⟩) ∧
      ∀ more t, Run s more t → more = [] ∧ t.context.journal.fatals = [] := by
  let start : System (Simulation SessionHandle) :=
    initial { behaviour := { interfaces := [] } } "wlan0"
  let audience : Audience := { respond := fun _ _ => .accepted }
  constructor
  · let before : List (Action (Simulation SessionHandle)) :=
      [.submit (.perform [.subscribe ⟨7⟩, .start ⟨1⟩]), .execute, .work ⟨0⟩,
        .disturb Simulation.terminate, .work ⟨0⟩, .work ⟨0⟩]
    let after : List (Action (Simulation SessionHandle)) :=
      [.submit (.perform [.stop ⟨2⟩]), .execute, .work ⟨0⟩, .work ⟨0⟩, .execute]
    let s₁ := (replay? Simulation.library audience before start).get (by decide +kernel)
    let s₂ := (replay? Simulation.library audience after s₁).get (by decide +kernel)
    let deeds₁ := replayDeeds Simulation.library audience before start
    let deeds₂ := replayDeeds Simulation.library audience after s₁
    have first : Run start deeds₁ s₁ :=
      run_of_replay? (Option.some_get _).symm (by simp [before, Task.report?])
    have second : Run s₁ deeds₂ s₂ :=
      run_of_replay? (Option.some_get _).symm (by simp [after, Task.report?])
    have hWorkers : s₁.context.workers = [⟨⟨0⟩, ⟨1⟩, false, .returned⟩] := by decide +kernel
    have hCauses : deeds₁.map (·.cause) = [.command (.subscribe ⟨7⟩), .command (.start ⟨1⟩)] := by
      decide +kernel
    have hReport : deeds₂.map (fun d => (d.cause, d.told, d.fatals)) =
        [(.command (.stop ⟨2⟩), [], []),
          (.exitReport (some ⟨0⟩) true, [⟨⟨7⟩, .stopped ⟨2⟩⟩], [])] := by
      decide +kernel
    obtain ⟨d, hDeed, hData⟩ := List.mem_map.mp
      (show (.exitReport (some ⟨0⟩) true, [⟨⟨7⟩, .stopped ⟨2⟩⟩], []) ∈
        deeds₂.map (fun d => (d.cause, d.told, d.fatals)) by simp [hReport])
    simp only [Prod.mk.injEq] at hData
    exact ⟨s₁, s₂, deeds₁, deeds₂, first, hWorkers, Deed.not_stops_of_causes (by simp [hCauses]),
      second, d, hDeed, hData⟩
  · let actions : List (Action (Simulation SessionHandle)) :=
      [.submit (.perform [.subscribe ⟨7⟩, .start ⟨1⟩]), .execute, .work ⟨0⟩, .submit .halt, .execute,
        .disturb Simulation.terminate, .work ⟨0⟩, .work ⟨0⟩, .work ⟨0⟩, .work ⟨0⟩]
    let s := (replay? Simulation.library audience actions start).get (by decide +kernel)
    let deeds := replayDeeds Simulation.library audience actions start
    have run : Run start deeds s :=
      run_of_replay? (Option.some_get _).symm (by simp [actions, Task.report?])
    have hWorkers : s.context.workers = [⟨⟨0⟩, ⟨1⟩, false, .finished⟩] := by decide +kernel
    have hCauses : deeds.map (·.cause) = [.command (.subscribe ⟨7⟩), .command (.start ⟨1⟩)] := by
      decide +kernel
    have hCondition : s.condition = .halted := by decide +kernel
    have hCalm : s.context.journal.fatals = [] := by decide +kernel
    refine ⟨s, deeds, run, hWorkers, Deed.not_stops_of_causes (by simp [hCauses]), ?_⟩
    intro more t next
    have hStalled : ¬s.GoesOn := fun goesOn => by simpa [hCondition] using goesOn.1
    obtain ⟨_, hNone, hQuiet⟩ := next.stalled hStalled
    obtain ⟨_, hAdds⟩ := hQuiet.adds
    refine ⟨hNone, ?_⟩
    rw [Surroundings.Adds.journal_fatals hAdds, hCalm]
    rfl

end System

end RadioLifecycle
