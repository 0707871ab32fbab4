import RadioLifecycle.Proofs.System.History
import RadioLifecycle.Proofs.System.Passage

/-!
The end of an event loop that nobody asked to end. What counts is what the worker saw when it
looked, not what became of the session until its report is taken. The report ends the control
thread, also if a teardown has begun in the meantime, and nobody is ever told that the session has
ended.
-/

namespace RadioLifecycle

open Vendor (Library SessionHandle WorkerId)

variable {σ : Type} {id : WorkerId}

namespace Radio

variable {r r' : Radio σ}

/-- A command carried out while there is a session does not change its worker. -/
theorem Shift.runner_of_command {command : Command} (shift : r.Shift (.command command) r')
    (hActive : r.controller.phase ≠ .stopped) :
    r'.controller.runner = r.controller.runner := by
  cases shift with
  | opened _ _ hPhase | failed _ hPhase | echoed hPhase => exact absurd hPhase hActive
  | repeated _ same _ | refused _ same _ => rw [same.1]
  | torn _ _ _ _ _ hController _ _ =>
      rw [hController]
      rfl
  | absorbed => rfl
  | served _ _ kept _ _ _ => exact kept.runner

variable {deeds : List (Deed σ)}

theorem Quiet.length (quiet : r.Quiet r') : r'.workers.length = r.workers.length := by
  simpa using congrArg List.length quiet.ids

/-- The worker of a session is one of those that were spawned. -/
theorem Leads.runner_lt (leads : r.Leads deeds r')
    (h : ∀ id, r.controller.runner = some id → id.number < r.workers.length) :
    ∀ id, r'.controller.runner = some id → id.number < r'.workers.length := by
  induction deeds generalizing r with
  | nil =>
      rw [leads.controller, leads.length]
      exact h
  | cons d rest ih =>
      obtain ⟨hQuiet, hOrderly, hRest⟩ := leads
      obtain ⟨hLength, hRunner⟩ := hOrderly.shift.workers
      rw [← hQuiet.controller, ← hQuiet.length] at h
      refine ih hRest fun id hSome => ?_
      rcases hRunner id hSome with hBefore | ⟨_, hNew⟩
      · exact Nat.lt_of_lt_of_le (h id hBefore) hLength
      · exact hNew

/-- A session that is there at the end, and whose worker is not new, has been there all the time. -/
theorem Leads.runner_eq (leads : r.Leads deeds r') (hOld : id.number < r.workers.length)
    (hEnd : r'.controller.runner = some id) :
    r.controller.runner = some id ∧ ∀ d ∈ deeds, d.after.controller.runner = some id := by
  induction deeds generalizing r with
  | nil => exact ⟨by rw [← leads.controller, hEnd], by simp⟩
  | cons d rest ih =>
      obtain ⟨hQuiet, hOrderly, hRest⟩ := leads
      obtain ⟨hLength, hRunner⟩ := hOrderly.shift.workers
      rw [← hQuiet.length] at hOld
      -- Time runs backwards here: from what holds after the deed follows what held before it.
      obtain ⟨hAfter, hAll⟩ := ih hRest (Nat.lt_of_lt_of_le hOld hLength)
      have hBefore : d.before.controller.runner = some id := by
        rcases hRunner id hAfter with hBefore | ⟨hNew, _⟩
        · exact hBefore
        · omega
      refine ⟨by rw [← hQuiet.controller, hBefore], fun n hn => ?_⟩
      rcases List.mem_cons.mp hn with rfl | hn
      · exact hAfter
      · exact hAll n hn

end Radio

namespace System

/-- The worker of the session saw that nobody had asked it to end its loop. It is about to report
so, or its report waits. -/
structure Doomed (s : System σ) (id : WorkerId) : Prop where
  runner : s.context.controller.runner = some id
  trace : (∃ w ∈ s.context.workers, w.id = id ∧ w.stage = .sampled false) ∨
    s.waiting = [(some id, false)]

variable {s t : System σ} {deeds : List (Deed σ)}

theorem doomed_of_sampled {w : Worker} (balanced : s.context.Balanced s.waiting)
    (hMember : w ∈ s.context.workers) (hStage : w.stage = .sampled false) : s.Doomed w.id := by
  obtain ⟨hRunner, _, _⟩ := balanced.only hMember (by simp [Worker.isOutstanding, hStage])
  exact ⟨hRunner, .inl ⟨w, hMember, rfl, hStage⟩⟩

/-- Commands do not save a session whose worker saw that nobody had asked it. -/
theorem Doomed.performAll (doomed : s.Doomed id) (sound : s.context.controller.Sound)
    (lib : Library σ) (respond : Response) (commands : List Command)
    (hContext : t.context = (s.context.performAll lib respond commands).2)
    (hWaiting : t.waiting = s.waiting) : t.Doomed id := by
  have hAll := Radio.performAll_induction
    (P := fun r => r.controller.Sound ∧ r.controller.runner = some id ∧
      ∀ w ∈ s.context.workers, ∃ w' ∈ r.workers, w'.id = w.id ∧ w'.stage = w.stage)
    (fun _ h => h.1)
    (fun r r' command ⟨hSound, hRunner, hStages⟩ shift => by
      have hActive := hSound.runner_iff.mp (by rw [hRunner]; rfl)
      refine ⟨shift.sound hSound, (shift.runner_of_command hActive).trans hRunner, ?_⟩
      intro w hMember
      obtain ⟨w', hMember', hId, hStage⟩ := hStages w hMember
      obtain ⟨w'', hMember'', hId', hStage'⟩ := shift.stage hMember'
      exact ⟨w'', hMember'', hId'.trans hId, hStage'.trans hStage⟩)
    lib respond commands ⟨sound, doomed.runner, fun w hMember => ⟨w, hMember, rfl, rfl⟩⟩
  rw [← hContext] at hAll
  obtain ⟨_, hRunner, hStages⟩ := hAll
  refine ⟨hRunner, ?_⟩
  rcases doomed.trace with ⟨w, hMember, hId, hStage⟩ | hReport
  · obtain ⟨w', hMember', hId', hStage'⟩ := hStages w hMember
    exact .inl ⟨w', hMember', hId'.trans hId, hStage'.trans hStage⟩
  · exact .inr (hWaiting.trans hReport)

/-- What the report is that a doomed session comes to. -/
theorem Doomed.report {worker : Option WorkerId} {requested : Bool}
    {rest : List (Option WorkerId × Bool)} (doomed : s.Doomed id)
    (balanced : s.context.Balanced s.waiting) (hWaiting : s.waiting = (worker, requested) :: rest) :
    worker = some id ∧ requested = false := by
  rcases doomed.trace with ⟨w, hMember, _, hStage⟩ | hReport
  · obtain ⟨_, hNone, _⟩ := balanced.only hMember (by simp [Worker.isOutstanding, hStage])
    simp [hNone] at hWaiting
  · rw [hReport, List.cons.injEq, Prod.mk.injEq] at hWaiting
    exact ⟨hWaiting.1.1.symm, hWaiting.1.2.symm⟩

/-- A doomed session stays so for as long as the control thread goes on. -/
theorem Effect.doomed (effect : s.Effect deeds t) (balanced : s.context.Balanced s.waiting)
    (doomed : s.Doomed id) (goesOn : t.GoesOn) : t.Doomed id := by
  cases effect with
  | rested hController hWorkers _ hWaiting =>
      refine ⟨by rw [hController, doomed.runner], ?_⟩
      rw [hWorkers, hWaiting]
      exact doomed.trace
  | carried lib respond commands hContext hWaiting =>
      exact doomed.performAll balanced.sound lib respond commands hContext hWaiting
  | taken respond worker requested _ hWaiting hGoesOn =>
      obtain ⟨_, rfl⟩ := doomed.report balanced hWaiting
      have hProceed := hGoesOn.mp goesOn
      simp [Radio.onLoopExited] at hProceed
  | strode w w' report hMember stride hController _ _ hWaiting =>
      refine ⟨by rw [hController, doomed.runner], .inr ?_⟩
      obtain ⟨_, hNone, hOnly⟩ := balanced.only hMember stride.outstanding
      rcases doomed.trace with ⟨v, hMemberV, rfl, hStageV⟩ | hReport
      -- No other worker than the doomed one has still to report, so it is the one that moves.
      · obtain ⟨_, _, hOnlyV⟩ := balanced.only hMemberV (by simp [Worker.isOutstanding, hStageV])
        obtain rfl : w = v := by simpa [hOnly] using hOnlyV
        rw [hWaiting, hNone]
        cases stride with
        | reported requested hStage =>
            obtain rfl := WorkerStage.sampled.inj (hStage.symm.trans hStageV)
            rfl
        | called hStage | stayed hStage | returned hStage | sampled hStage =>
            simp [hStage] at hStageV
      · simp [hNone] at hReport

/-- Nothing parts a doomed session from its worker, not even the report. -/
theorem Effect.runner_of_doomed (effect : s.Effect deeds t)
    (balanced : s.context.Balanced s.waiting) (doomed : s.Doomed id) :
    t.context.controller.runner = some id := by
  cases effect with
  | rested hController | strode _ _ _ _ _ hController => rw [hController, doomed.runner]
  | carried lib respond commands hContext hWaiting =>
      exact (doomed.performAll balanced.sound lib respond commands hContext hWaiting).runner
  | taken respond worker requested hContext hWaiting _ =>
      obtain ⟨rfl, rfl⟩ := doomed.report balanced hWaiting
      have shift := Radio.onLoopExited_shift respond (some id) false balanced.sound
      rw [← hContext] at shift
      cases shift with
      | abandoned _ same _ => rw [same.1, doomed.runner]

/-- This deed was the last of all, and it took a report that ended the control thread. -/
structure BrokenBy (s : System σ) (id : WorkerId) (deeds : List (Deed σ)) (d : Deed σ) :
    Prop where
  cause : d.cause = .exitReport (some id) false
  gained : d.calls = [] ∧ d.told = [] ∧ d.fatals = [.started]
  last : ∃ prior, deeds = prior ++ [d]
  stalled : ¬s.GoesOn
  none : s.context.outstanding = []
  runner : s.context.controller.runner = some id
  fatal : s.context.journal.fatals = [.started]
  journal : s.context.journal = d.after.journal

/-- The report of a doomed session breaks the system. -/
theorem Effect.brokenBy {d : Deed σ} {worker : Option WorkerId} {requested : Bool}
    (effect : s.Effect deeds t) (balanced : s.context.Balanced s.waiting)
    (calm : s.context.journal.fatals = []) (doomed : s.Doomed id) (hDeed : d ∈ deeds)
    (hCause : d.cause = .exitReport worker requested) : t.BrokenBy id deeds d := by
  cases effect with
  | rested | strode => simp at hDeed
  | carried lib respond commands _ _ =>
      obtain ⟨command, hCommand⟩ := Radio.cause_of_mem_deeds hDeed
      cases hCommand.symm.trans hCause
  | taken respond worker requested hContext hWaiting hGoesOn =>
      obtain rfl := List.mem_singleton.mp hDeed
      obtain ⟨rfl, rfl⟩ := doomed.report balanced hWaiting
      rw [hWaiting] at balanced
      have shift := Radio.onLoopExited_shift respond (some id) false balanced.sound
      rw [← hContext] at shift
      cases shift with
      | abandoned _ same hAdds =>
          have hStalled : ¬t.GoesOn := by
            rw [hGoesOn]
            simp [Radio.onLoopExited]
          have hGained := Deed.gained (d := ⟨.exitReport (some id) false, s.context, t.context⟩) hAdds
          refine ⟨rfl, hGained, ⟨[], rfl⟩, hStalled, ?_, ?_, ?_, rfl⟩
          · rw [Crew.outstanding, same.2]
            exact balanced.expects.2.2
          · rw [same.1, doomed.runner]
          · rw [Surroundings.Adds.journal_fatals hAdds, calm]
            rfl

/-- A broken system stays as it is. -/
theorem Turn.brokenBy {more : List (Deed σ)} {d : Deed σ} (turn : Turn s more t)
    (broken : s.BrokenBy id deeds d) : more = [] ∧ t.BrokenBy id deeds d := by
  obtain ⟨hStalled, hMore⟩ := turn.stalled broken.stalled
  obtain ⟨hQuiet, hFrozen⟩ := turn.quiet_of_not_goesOn broken.stalled
  obtain ⟨hJournal, hWorkers⟩ := hFrozen broken.none
  refine ⟨hMore, broken.cause, broken.gained, broken.last, hStalled, ?_, ?_, ?_, ?_⟩
  · rw [Crew.outstanding, hWorkers]
    exact broken.none
  · rw [hQuiet.controller, broken.runner]
  · rw [hJournal, broken.fatal]
  · rw [hJournal, broken.journal]

theorem Run.brokenBy {more : List (Deed σ)} {d : Deed σ} (run : Run s more t)
    (broken : s.BrokenBy id deeds d) : more = [] ∧ t.BrokenBy id deeds d := by
  induction run with
  | refl => exact ⟨rfl, broken⟩
  | snoc prior last ih =>
      obtain ⟨rfl, hMiddle⟩ := ih
      obtain ⟨rfl, hLast⟩ := last.brokenBy hMiddle
      exact ⟨rfl, hLast⟩

/-- However a run goes on from a doomed session, the session stays so, or the control thread ends
without a report, or the report is the last deed. -/
theorem Run.doomed (run : Run s deeds t) (regular : s.Regular)
    (doomed : s.GoesOn → s.Doomed id) :
    (t.GoesOn → t.Doomed id) ∧ ∀ d ∈ deeds, ∀ worker requested,
      d.cause = .exitReport worker requested → t.BrokenBy id deeds d := by
  induction run with
  | refl => exact ⟨doomed, by simp⟩
  | snoc prior last ih =>
      rename_i s t deeds more
      obtain ⟨hDoomed, hBroken⟩ := ih
      have hRegular := (prior.regular regular).1
      cases hRegular.standing with
      | going hGoesOn hBalanced hCalm =>
          have hEffect := last.effect hGoesOn hRegular.plain
          refine ⟨hEffect.doomed hBalanced (hDoomed hGoesOn), fun d hd worker requested hCause => ?_⟩
          -- A report taken before this turn would have ended the control thread.
          rcases List.mem_append.mp hd with hd | hd
          · exact absurd hGoesOn (hBroken d hd worker requested hCause).stalled
          · have hLast := hEffect.brokenBy hBalanced hCalm (hDoomed hGoesOn) hd hCause
            obtain ⟨before, hMore⟩ := hLast.last
            exact { hLast with last := ⟨deeds ++ before, by rw [hMore, List.append_assoc]⟩ }
      | ended hStalled _ | broken hStalled _ _ =>
          obtain ⟨hStill, rfl⟩ := last.stalled hStalled
          refine ⟨fun hGoesOn => absurd hGoesOn hStill, fun d hd worker requested hCause => ?_⟩
          rw [List.append_nil] at hd ⊢
          exact (last.brokenBy (hBroken d hd worker requested hCause)).2

theorem Run.runner_of_doomed (run : Run s deeds t) (regular : s.Regular)
    (hRunner : s.context.controller.runner = some id) (doomed : s.GoesOn → s.Doomed id) :
    t.context.controller.runner = some id := by
  induction run with
  | refl => exact hRunner
  | @snoc t u deeds more prior last ih =>
      have hRegular := (prior.regular regular).1
      by_cases hGoesOn : t.GoesOn
      · have effect := last.effect hGoesOn hRegular.plain
        have hDoomed := (prior.doomed regular doomed).1 hGoesOn
        exact effect.runner_of_doomed (hRegular.standing.balanced hGoesOn) hDoomed
      · rw [(last.quiet_of_not_goesOn hGoesOn).1.controller]
        exact ih

theorem Run.isClosed (run : Run s deeds t) (hClosed : s.isClosed = true) : t.isClosed = true := by
  induction run with
  | refl => exact hClosed
  | snoc _ last ih => exact last.isClosed ih

/-- From the beginning of a session that is there at the end, nobody is told of a session's end. -/
theorem Run.tellsNoStop {vendor : σ} {interface : String} {m : Deed σ}
    {earlier later : List (Deed σ)}
    (run : Run (initial vendor interface) (earlier ++ m :: later) t)
    (hBegun : m.after.controller.runner = some id) (hEnd : t.context.controller.runner = some id) :
    ∀ n ∈ m :: later, n.TellsNoStop := by
  have hLeads := run.leads (regular_initial vendor interface)
  obtain ⟨_, hAll⟩ := run.regular (regular_initial vendor interface)
  obtain ⟨hEarlier, hOrderly, hLater⟩ := hLeads.split
  have hUntil : (initial vendor interface).context.Leads (earlier ++ [m]) m.after :=
    hEarlier.append ⟨.refl _, hOrderly, .refl _⟩
  have hOld := hUntil.runner_lt (by simp [initial]) id hBegun
  obtain ⟨_, hThere⟩ := hLater.runner_eq hOld hEnd
  intro n hn
  have hRunner : n.after.controller.runner = some id := by
    rcases List.mem_cons.mp hn with rfl | hn
    · exact hBegun
    · exact hThere n hn
  have hOrder := hAll n (List.mem_append_right _ hn)
  have hSound := hOrder.shift.sound hOrder.sound
  exact hOrder.tellsNoStop (hSound.runner_iff.mp (by rw [hRunner]; rfl))

/-- Once a worker has seen that nobody had asked it to end its loop, a report that is taken is the
report of that, whatever was done in the meantime. It is the last deed, and the one fatal report
there is puts it down to a session that runs. Nobody is told anything but by a deed, and from the
beginning of that session no deed tells of a session's end. Afterwards nothing is entered into the
journal, no task is begun, and the control thread ends and accepts nothing any more. -/
theorem run_unrequestedExitFatal {vendor : σ} {interface : String} {s₁ s₂ : System σ}
    {deeds₁ deeds₂ : List (Deed σ)} {w : Worker} {d : Deed σ} {worker : Option WorkerId}
    {requested : Bool} (first : Run (initial vendor interface) deeds₁ s₁)
    (hMember : w ∈ s₁.context.workers) (hSampled : w.stage = .sampled false)
    (second : Run s₁ deeds₂ s₂) (hDeed : d ∈ deeds₂)
    (hCause : d.cause = .exitReport worker requested) :
    worker = some w.id ∧ requested = false ∧ (∃ prior, deeds₂ = prior ++ [d]) ∧
    d.calls = [] ∧ d.told = [] ∧ d.fatals = [.started] ∧ d.after.journal.fatals = [.started] ∧
    s₂.context.journal.deliveries = (deeds₁ ++ deeds₂).flatMap (·.told) ∧
    (∀ earlier m later, deeds₁ ++ deeds₂ = earlier ++ m :: later →
      m.after.controller.runner = some w.id → ∀ n ∈ m :: later, n.TellsNoStop) ∧
    ∀ deeds₃ s₃, Run s₂ deeds₃ s₃ →
      deeds₃ = [] ∧ s₃.context.journal = d.after.journal ∧
      (∀ lib audience, s₃.begin? (Task.run lib audience) = none) ∧
      s₃.complete.isClosed = true ∧
      (s₂.isClosed = true → ∀ task, s₃.submit task = (.error .controlThreadGone, s₃)) := by
  have hRegular := (first.regular (regular_initial vendor interface)).1
  have hDoomed (goesOn : s₁.GoesOn) : s₁.Doomed w.id :=
    doomed_of_sampled (hRegular.standing.balanced goesOn) hMember hSampled
  have hBroken := (second.doomed hRegular hDoomed).2 d hDeed worker requested hCause
  have hReport := Cause.exitReport.inj (hCause.symm.trans hBroken.cause)
  obtain ⟨hCalls, hTold, hFatals⟩ := hBroken.gained
  have hLeads := (first.trans second).leads (regular_initial vendor interface)
  refine ⟨hReport.1, hReport.2, hBroken.last, hCalls, hTold, hFatals, ?_, hLeads.deliveries, ?_, ?_⟩
  · rw [← hBroken.journal, hBroken.fatal]
  · intro earlier m later hDeeds hRunner
    have hRun := first.trans second
    rw [hDeeds] at hRun
    exact hRun.tellsNoStop hRunner hBroken.runner
  · intro deeds₃ s₃ third
    obtain ⟨hNone, hStill⟩ := third.brokenBy hBroken
    exact ⟨hNone, hStill.journal, fun lib audience => s₃.begin?_of_not_goesOn hStill.stalled _,
      s₃.isClosed_complete hStill.stalled,
      fun hClosed task => ControlThread.submit_of_closed (third.isClosed hClosed) task⟩

/-- A stop comes between the look of the worker and its report, and the report is fatal all the
same. -/
theorem run_unrequestedExitFatal_stopBetween :
    ∃ (s : System (Simulation SessionHandle)) (deeds : List (Deed (Simulation SessionHandle))),
      Run (initial { behaviour := { interfaces := [] } } "wlan0") deeds s ∧
      ∃ d ∈ deeds, d.before.controller.phase = .stopping ∧ d.fatals = [.started] ∧
        s.context.journal = d.after.journal := by
  let start : System (Simulation SessionHandle) :=
    initial { behaviour := { interfaces := [] } } "wlan0"
  let audience : Audience := { respond := fun _ _ => .accepted }
  let before : List (Action (Simulation SessionHandle)) :=
    [.submit (.perform [.start ⟨1⟩]), .execute, .work ⟨0⟩, .disturb Simulation.terminate,
      .work ⟨0⟩, .work ⟨0⟩, .work ⟨0⟩]
  let after : List (Action (Simulation SessionHandle)) :=
    [.submit (.perform [.stop ⟨2⟩]), .execute, .work ⟨0⟩, .submit (.perform [.start ⟨3⟩]), .execute]
  let s₁ := (replay? Simulation.library audience before start).get (by decide +kernel)
  have first := run_of_replay? (t := s₁) (Option.some_get _).symm (by simp [before, Task.report?])
  have hAfter : (replay? Simulation.library audience after s₁).isSome = true := by decide +kernel
  have second := run_of_replay? (Option.some_get hAfter).symm (by simp [after, Task.report?])
  have hWorkers : s₁.context.workers = [⟨⟨0⟩, ⟨1⟩, false, .sampled false⟩] := by decide +kernel
  have hMember : ⟨⟨0⟩, ⟨1⟩, false, .sampled false⟩ ∈ s₁.context.workers := by simp [hWorkers]
  let deeds := replayDeeds Simulation.library audience after s₁
  have hCauses : deeds.map (·.cause) =
      [.command (.stop ⟨2⟩), .exitReport (some ⟨0⟩) false] := by decide +kernel
  have hPhases : deeds.map (·.before.controller.phase) = [.started, .stopping] := by
    decide +kernel
  obtain ⟨stop, report, hDeeds⟩ := List.length_eq_two.mp (by simpa using congrArg List.length hCauses)
  rw [hDeeds] at hCauses hPhases
  simp only [List.map_cons, List.map_nil, List.cons.injEq, and_true] at hCauses hPhases
  have hDeed : report ∈ deeds := by simp [hDeeds]
  obtain ⟨_, _, _, _, _, hFatals, _, _, _, hAfterwards⟩ :=
    run_unrequestedExitFatal first hMember rfl second hDeed hCauses.2
  exact ⟨_, _, first.trans second, report, List.mem_append_right _ hDeed, hPhases.2, hFatals,
    (hAfterwards _ _ (.refl _)).2.1⟩

end System

end RadioLifecycle
