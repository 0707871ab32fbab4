import RadioLifecycle.Proofs.System.Effect
import RadioLifecycle.Simulation.Library

/-!
The balance of exit reports. A report carries no mark of the session that it is about. It needs
none, because there is never more than one: while a session is there, either its worker has still to
report or its report waits in the queue, and without a session neither is the case. The balance is
kept by every turn, over any number of sessions, until the control thread ends.
-/

namespace RadioLifecycle

open Vendor (Library SessionHandle WorkerId)

namespace Radio

variable {σ : Type}

/-- Where the one exit report of the session is, given the reports that wait to be taken. -/
inductive Books (r : Radio σ) : List (Option WorkerId × Bool) → Prop
  /-- There is no session, and no report to come. -/
  | idle (phase : r.controller.phase = .stopped) (none : r.outstanding = []) : Books r []
  /-- The worker of the session has still to report. It has been asked to end its loop exactly if a
  teardown is in progress. -/
  | working (worker : Worker) (runner : r.controller.runner = some worker.id)
      (session : r.controller.session.held = some worker.session)
      (only : r.outstanding = [worker])
      (asked : worker.teardownRequested = true ↔ r.controller.phase = .stopping)
      (sampled : worker.stage = .sampled true → r.controller.phase = .stopping) : Books r []
  /-- The worker of the session has reported. -/
  | reported (worker : Worker) (requested : Bool) (member : worker ∈ r.workers)
      (finished : worker.stage = .finished) (runner : r.controller.runner = some worker.id)
      (session : r.controller.session.held = some worker.session) (none : r.outstanding = [])
      (sampled : requested = true → r.controller.phase = .stopping) :
      Books r [(some worker.id, requested)]

/-- The controller's memory fits together, and so do the workers and the reports that wait. -/
structure Balanced (r : Radio σ) (waiting : List (Option WorkerId × Bool)) : Prop where
  sound : r.controller.Sound
  numbered : r.Numbered
  books : r.Books waiting

/-- An exit report is what the controller waits for: it comes from the worker of the session, which
is done, and it says that the end was asked for only if that is so. -/
def Expects (r : Radio σ) (worker : Option WorkerId) (requested : Bool) : Prop :=
  ∃ w ∈ r.workers, worker = some w.id ∧ w.stage = .finished ∧
    r.controller.runner = some w.id ∧ r.controller.session.held = some w.session ∧
    (requested = true → r.controller.phase = .stopping)

theorem Balanced.expects {r : Radio σ} {worker : Option WorkerId} {requested : Bool}
    {waiting : List (Option WorkerId × Bool)} (h : r.Balanced ((worker, requested) :: waiting)) :
    r.Expects worker requested ∧ waiting = [] ∧ r.outstanding = [] := by
  have books := h.books
  generalize hReports : (worker, requested) :: waiting = reports at books
  cases books with
  | idle => simp at hReports
  | working => simp at hReports
  | reported w _ hMember hFinished hRunner hSession hNone hSampled =>
      simp only [List.cons.injEq, Prod.mk.injEq] at hReports
      obtain ⟨⟨rfl, rfl⟩, rfl⟩ := hReports
      exact ⟨⟨w, hMember, rfl, hFinished, hRunner, hSession, hSampled⟩, rfl, hNone⟩

/-- Between two sessions there is nobody who could report. -/
theorem Balanced.idle {r : Radio σ} {waiting : List (Option WorkerId × Bool)}
    (h : r.Balanced waiting) (hPhase : r.controller.phase = .stopped) :
    waiting = [] ∧ r.outstanding = [] := by
  have hRunner (worker : WorkerId) : r.controller.runner ≠ some worker := by
    intro hSome
    have hNot := h.sound.runner_iff.mp (by rw [hSome]; rfl)
    exact hNot hPhase
  cases h.books with
  | idle _ hNone => exact ⟨rfl, hNone⟩
  | working worker hSome => exact absurd hSome (hRunner _)
  | reported worker _ _ _ hSome => exact absurd hSome (hRunner _)

/-- While a worker has still to report, it is the worker of the session, and no report waits. -/
theorem Balanced.only {r : Radio σ}
    {waiting : List (Option WorkerId × Bool)} (h : r.Balanced waiting) {w : Worker}
    (hMember : w ∈ r.workers) (hOutstanding : w.isOutstanding = true) :
    r.controller.runner = some w.id ∧ waiting = [] ∧ r.outstanding = [w] := by
  have hOut : w ∈ r.outstanding := List.mem_filter.mpr ⟨hMember, hOutstanding⟩
  cases h.books with
  | idle _ hNone => simp [hNone] at hOut
  | reported _ _ _ _ _ _ hNone => simp [hNone] at hOut
  | working v hRunner _ hOnly _ _ =>
      obtain rfl : w = v := by simpa [hOnly] using hOut
      exact ⟨hRunner, rfl, hOnly⟩

theorem Balanced.congr {r r' : Radio σ} {waiting : List (Option WorkerId × Bool)}
    (h : r.Balanced waiting) (kept : r.controller.KeepsSession r'.controller)
    (hWorkers : r'.workers = r.workers) : r'.Balanced waiting := by
  have hOutstanding : r'.outstanding = r.outstanding := by
    rw [Crew.outstanding, hWorkers]
    rfl
  refine ⟨kept.sound h.sound, ?_, ?_⟩
  · rw [Crew.Numbered, hWorkers]
    exact h.numbered
  · cases h.books with
    | idle hPhase hNone => exact .idle (kept.phase.trans hPhase) (hOutstanding.trans hNone)
    | working worker hRunner hSession hOnly hAsked hSampled =>
        refine .working worker (kept.runner.trans hRunner) ?_ (hOutstanding.trans hOnly) ?_ ?_
        · rw [kept.session, hSession]
        · rw [kept.phase]
          exact hAsked
        · rw [kept.phase]
          exact hSampled
    | reported worker requested hMember hFinished hRunner hSession hNone hSampled =>
        refine .reported worker requested ?_ hFinished (kept.runner.trans hRunner) ?_
          (hOutstanding.trans hNone) ?_
        · rw [hWorkers]
          exact hMember
        · rw [kept.session, hSession]
        · rw [kept.phase]
          exact hSampled

theorem SameState.balanced {r r' : Radio σ} {waiting : List (Option WorkerId × Bool)}
    (same : r.SameState r') (h : r.Balanced waiting) : r'.Balanced waiting := by
  refine h.congr ?_ same.2
  rw [same.1]
  exact .refl _

/-- A new session spawns the worker that will report of it. -/
theorem Balanced.opened {r r' : Radio σ} {waiting : List (Option WorkerId × Bool)}
    {handle : SessionHandle} (h : r.Balanced waiting) (hPhase : r.controller.phase = .stopped)
    (sound : r'.controller.Sound) (hPhase' : r'.controller.phase = .started)
    (hSession : r'.controller.session = ⟨some handle⟩)
    (hRunner : r'.controller.runner = some r.nextWorker)
    (hWorkers : r'.workers = (r.toCrew.spawn handle).workers) : r'.Balanced waiting := by
  obtain ⟨rfl, hNone⟩ := h.idle hPhase
  refine ⟨sound, ?_, ?_⟩
  · rw [Crew.Numbered, hWorkers]
    exact h.numbered.spawn handle
  · refine .working { id := r.nextWorker, session := handle } hRunner ?_ ?_ ?_ ?_
    · rw [hSession]
    · rw [Crew.outstanding] at hNone
      rw [Crew.outstanding, hWorkers, Crew.spawn, List.filter_append, hNone]
      rfl
    · simp [hPhase']
    · simp

/-- A stop changes nothing about who has to report, and the worker learns that it has been asked. -/
theorem Balanced.torn {r r' : Radio σ} {waiting : List (Option WorkerId × Bool)}
    {worker : WorkerId} (h : r.Balanced waiting) (sound : r'.controller.Sound)
    (hRunner : r.controller.runner = some worker) (hRunner' : r'.controller.runner = some worker)
    (hSession : r'.controller.session = r.controller.session)
    (hPhase' : r'.controller.phase = .stopping)
    (hWorkers : r'.workers = (r.toCrew.requestTeardown worker).workers) : r'.Balanced waiting := by
  have hMap : r'.workers = r.workers.map (·.asked worker) := hWorkers
  have hOutstanding : r'.outstanding = r.outstanding.map (·.asked worker) := by
    rw [Crew.outstanding, hMap, List.filter_map, Crew.outstanding]
    congr 2
    funext w
    simp [Worker.isOutstanding]
  refine ⟨sound, h.numbered.map _ hMap (fun w _ => w.asked_id worker), ?_⟩
  cases h.books with
  | idle hPhase _ =>
      have hActive := h.sound.runner_iff.mp (by rw [hRunner]; rfl)
      exact absurd hPhase hActive
  | working w hRunnerW hSessionW hOnly _ _ =>
      have hId : w.id = worker := Option.some.inj (hRunnerW.symm.trans hRunner)
      refine .working (w.asked worker) ?_ ?_ ?_ ?_ ?_
      · rw [Worker.asked_id, hRunner', hId]
      · rw [Worker.asked_session, hSession, hSessionW]
      · rw [hOutstanding, hOnly]
        rfl
      · simp [Worker.asked, hId, hPhase']
      · exact fun _ => hPhase'
  | reported w requested hMember hFinished hRunnerW hSessionW hNone _ =>
      have hBooks := Books.reported (r := r') (w.asked worker) requested (by
        rw [hMap]
        exact List.mem_map_of_mem hMember) ((w.asked_stage worker).trans hFinished)
        (by rw [Worker.asked_id, hRunner', ← hRunner, hRunnerW])
        (by rw [Worker.asked_session, hSession, hSessionW])
        (by rw [hOutstanding, hNone]; rfl) (fun _ => hPhase')
      rwa [Worker.asked_id] at hBooks

/-- Commands leave the balance as it is, whatever reports wait behind them. -/
theorem Shift.balanced {r r' : Radio σ} {command : Command}
    {waiting : List (Option WorkerId × Bool)} (shift : r.Shift (.command command) r')
    (h : r.Balanced waiting) : r'.Balanced waiting := by
  have sound := shift.sound h.sound
  cases shift with
  | opened handle asked hPhase hController hWorkers _ =>
      obtain ⟨hStarted, hSession, hRunner, _⟩ := fields_of_opened hController
      exact h.opened hPhase sound hStarted hSession hRunner hWorkers
  | failed _ _ same _ | repeated _ same _ | refused _ same _ | echoed _ same _ =>
      exact same.balanced h
  | torn handle worker hPhase hHeld hRunner hC hWorkers _ =>
      exact h.torn sound hRunner (by rw [hC]; exact hRunner) (by rw [hC]; rfl) (by rw [hC]; rfl)
        hWorkers
  | absorbed _ => exact h
  | served _ _ kept hWorkers _ _ => exact h.congr kept hWorkers

/-- A worker that makes a step is the one of the session. If it reports, then its report takes its
place in the balance. -/
theorem Balanced.strode {r r' : Radio σ} {waiting : List (Option WorkerId × Bool)} {w w' : Worker}
    {report : Option Bool} (h : r.Balanced waiting) (hMember : w ∈ r.workers)
    (stride : w.Stride report w') (hController : r'.controller = r.controller)
    (hWorkers : r'.workers = r.workers.map fun other => if other.id = w.id then w' else other) :
    r'.Balanced
      (waiting ++ (report.map fun requested => (some w.id, requested)).toList) := by
  -- Only a worker that has still to report can move, so no report waits yet.
  have hOut : w ∈ r.outstanding := List.mem_filter.mpr ⟨hMember, stride.outstanding⟩
  have sound : r'.controller.Sound := by
    rw [hController]
    exact h.sound
  refine ⟨sound, h.numbered.replace stride.id hWorkers, ?_⟩
  cases h.books with
  | idle _ hNone => simp [hNone] at hOut
  | reported _ _ _ _ _ _ hNone => simp [hNone] at hOut
  | working v hRunner hSession hOnly hAsked hSampled =>
      obtain rfl : w = v := by simpa [hOnly] using hOut
      have hOutstanding : r'.outstanding = if w'.isOutstanding then [w'] else [] := by
        rw [Crew.outstanding, hWorkers]
        exact Crew.filter_replace w' hOnly h.numbered.nodup
      rw [← hController, ← stride.id] at hRunner
      rw [← hController, ← stride.session] at hSession
      rw [← hController, ← stride.teardownRequested] at hAsked
      rw [← hController] at hSampled
      cases hReport : report with
      | none =>
          rw [if_pos (stride.outstanding_iff.mpr hReport)] at hOutstanding
          refine .working w' hRunner hSession hOutstanding hAsked fun hStage => ?_
          cases stride with
          | called | returned => simp at hStage
          | stayed => exact hSampled hStage
          | sampled =>
              simp only [WorkerStage.sampled.injEq] at hStage
              exact hAsked.mp hStage
          | reported => simp at hReport
      | some requested =>
          have hDone : ¬w'.isOutstanding = true := by simp [stride.outstanding_iff, hReport]
          rw [if_neg hDone] at hOutstanding
          have hPlace : w' ∈ r'.workers := by
            rw [hWorkers]
            exact List.mem_map.mpr ⟨w, hMember, if_pos rfl⟩
          have hFinished : w'.stage = .finished := by
            simpa [Worker.isOutstanding] using hDone
          have hBooks := Books.reported w' requested hPlace hFinished hRunner hSession hOutstanding
            (fun hRequested => by
              cases stride with
              | reported seen hStage =>
                  obtain rfl : seen = requested := Option.some.inj hReport
                  exact hSampled (by rw [hStage, hRequested])
              | called | stayed | returned | sampled => simp at hReport)
          rwa [stride.id] at hBooks

/-- The report of a requested end closes the session that it is about. -/
theorem Balanced.closed {r : Radio σ} {worker : Option WorkerId}
    {waiting : List (Option WorkerId × Bool)} (h : r.Balanced ((worker, true) :: waiting))
    (respond : Response) : (r.onLoopExited respond true).2.Balanced waiting := by
  obtain ⟨⟨w, _, _, _, _, _, hStopping⟩, rfl, hNone⟩ := h.expects
  have hPhase := hStopping rfl
  have shift := onLoopExited_shift respond worker true h.sound
  have sound := shift.sound h.sound
  generalize (r.onLoopExited respond true).2 = r' at shift sound
  cases shift with
  | abandoned unasked => exact absurd hPhase (unasked rfl)
  | closed command _ _ hController hWorkers _ =>
      refine ⟨sound, ?_, .idle (by rw [hController]; rfl) ?_⟩
      · rw [Crew.Numbered, hWorkers]
        exact h.numbered
      · rw [Crew.outstanding, hWorkers]
        exact hNone

/-- Commands report nothing as fatal. -/
theorem Shift.fatals {r r' : Radio σ} {command : Command} (shift : r.Shift (.command command) r') :
    r'.journal.fatals = r.journal.fatals := by
  have hNone {calls : List Vendor.Call} {told : List Delivery} (adds : r.Adds r' calls told []) :
      r'.journal.fatals = r.journal.fatals := by
    rw [Surroundings.Adds.journal_fatals adds, List.append_nil]
  cases shift with
  | opened _ _ _ _ _ adds | failed _ _ _ adds | repeated _ _ adds | refused _ _ adds
  | torn _ _ _ _ _ _ _ adds | echoed _ _ adds | served _ _ _ _ adds _ => exact hNone adds
  | absorbed _ => rfl

end Radio

/-- A deed is one of the things that a call on a controller can come to, and if it takes a report,
then it takes the one that the controller waits for. -/
structure Deed.Orderly {σ : Type} (d : Deed σ) : Prop where
  sound : d.before.controller.Sound
  shift : d.before.Shift d.cause d.after
  expects : ∀ worker requested, d.cause = .exitReport worker requested →
    d.before.Expects worker requested

theorem Radio.orderly_deeds {σ : Type} (lib : Library σ) (respond : Response)
    (commands : List Command) {r : Radio σ} (sound : r.controller.Sound) :
    ∀ d ∈ r.deeds lib respond commands, d.Orderly := by
  induction commands generalizing r with
  | nil => simp [deeds]
  | cons command rest ih =>
      have shift := obey_shift lib respond sound (.command command)
      intro d hd
      rcases List.mem_cons.mp hd with rfl | hRest
      · exact ⟨sound, shift, by simp⟩
      · exact ih (shift.sound sound) d hRest

namespace System

variable {σ : Type}

/-- Where a system stands. -/
inductive Standing (s : System σ) : Prop
  /-- The control thread goes on, and reports are in balance. -/
  | going (goesOn : s.GoesOn) (balanced : s.context.Balanced s.waiting)
      (calm : s.context.journal.fatals = []) : Standing s
  /-- The control thread was asked to end. -/
  | ended (stalled : ¬s.GoesOn) (calm : s.context.journal.fatals = []) : Standing s
  /-- A session broke down. Its worker is gone, and there is no other. -/
  | broken (stalled : ¬s.GoesOn) (fatal : s.context.journal.fatals = [.started])
      (none : s.context.outstanding = []) : Standing s

theorem standing_initial (vendor : σ) (interface : String) :
    (initial vendor interface).Standing := by
  refine .going ⟨rfl, by simp [initial]⟩ ⟨?_, rfl, .idle rfl rfl⟩ rfl
  exact Controller.sound_initial interface

/-- What a control thread that goes on does keeps reports in balance and is not fatal, or a session
breaks down with it. -/
theorem Effect.balanced {s t : System σ} {deeds : List (Deed σ)} (effect : s.Effect deeds t)
    (balanced : s.context.Balanced s.waiting) (calm : s.context.journal.fatals = []) :
    (t.context.Balanced t.waiting ∧ t.context.journal.fatals = []) ∨
    (¬t.GoesOn ∧ t.context.controller.phase ≠ .stopped ∧
      t.context.journal.fatals = [.started] ∧ t.context.outstanding = []) := by
  have hSilent {calls : List Vendor.Call} {told : List Delivery} {fatals : List Phase}
      (adds : s.context.Adds t.context calls told fatals) : t.context.journal.fatals = fatals := by
    rw [Surroundings.Adds.journal_fatals adds, calm, List.nil_append]
  cases effect with
  | rested hController hWorkers hAdds hWaiting =>
      rw [← hWaiting] at balanced
      exact .inl ⟨Radio.SameState.balanced ⟨hController, hWorkers⟩ balanced, hSilent hAdds⟩
  | strode w w' report hMember stride hController hWorkers hAdds hWaiting =>
      refine .inl ⟨?_, hSilent hAdds⟩
      rw [hWaiting]
      exact balanced.strode hMember stride hController hWorkers
  | carried lib respond commands hContext hWaiting =>
      have hAll := Radio.performAll_induction
        (P := fun r => r.Balanced s.waiting ∧ r.journal.fatals = []) (fun _ h => h.1.sound)
        (fun _ _ _ h shift => ⟨shift.balanced h.1, shift.fatals.trans h.2⟩) lib respond commands
        ⟨balanced, calm⟩
      rw [← hContext, ← hWaiting] at hAll
      exact .inl hAll
  | taken respond worker requested hContext hWaiting hGoesOn =>
      rw [hWaiting] at balanced
      have shift := Radio.onLoopExited_shift respond worker requested balanced.sound
      rw [← hContext] at shift
      obtain ⟨⟨_, _, _, _, hRunner, _, hStopping⟩, _, hNone⟩ := balanced.expects
      cases requested with
      | true =>
          -- The worker saw a request, and the teardown it was made for is still in progress.
          have hClosed := balanced.closed respond
          rw [← hContext] at hClosed
          cases shift with
          | closed _ _ _ _ _ hAdds => exact .inl ⟨hClosed, hSilent hAdds⟩
          | abandoned unasked => exact absurd (hStopping rfl) (unasked rfl)
      | false =>
          have hStalled : ¬t.GoesOn := by
            rw [hGoesOn]
            simp [Radio.onLoopExited]
          cases shift with
          | abandoned _ same hAdds =>
              refine .inr ⟨hStalled, ?_, hSilent hAdds, ?_⟩
              · rw [same.1]
                exact balanced.sound.runner_iff.mp (by rw [hRunner]; rfl)
              · rw [Crew.outstanding, same.2]
                exact hNone

/-- A control thread that goes on keeps its standing, or loses it in one of two ways. -/
theorem Effect.standing {s t : System σ} {deeds : List (Deed σ)} (effect : s.Effect deeds t)
    (balanced : s.context.Balanced s.waiting) (calm : s.context.journal.fatals = []) :
    t.Standing := by
  rcases effect.balanced balanced calm with ⟨hBalanced, hCalm⟩ | ⟨hStalled, _, hFatal, hNone⟩
  · by_cases hGoesOn : t.GoesOn
    · exact .going hGoesOn hBalanced hCalm
    · exact .ended hGoesOn hCalm
  · exact .broken hStalled hFatal hNone

theorem Effect.orderly {s t : System σ} {deeds : List (Deed σ)} (effect : s.Effect deeds t)
    (balanced : s.context.Balanced s.waiting) : ∀ d ∈ deeds, d.Orderly := by
  cases effect with
  | rested | strode => simp
  | carried lib respond commands _ _ => exact s.context.orderly_deeds lib respond commands balanced.sound
  | taken respond worker requested hContext hWaiting _ =>
      rw [hWaiting] at balanced
      intro d hd
      obtain rfl := List.mem_singleton.mp hd
      refine ⟨balanced.sound, ?_, ?_⟩
      · simp only [hContext]
        exact Radio.onLoopExited_shift respond worker requested balanced.sound
      · rintro _ _ ⟨⟩
        exact balanced.expects.1

/-- What holds of a system, wherever its threads are. -/
structure Regular (s : System σ) : Prop where
  plain : s.Plain
  standing : s.Standing

theorem Turn.regular {s t : System σ} {deeds : List (Deed σ)} (turn : Turn s deeds t)
    (regular : s.Regular) : t.Regular ∧ ∀ d ∈ deeds, d.Orderly := by
  have hPlain := turn.plain regular.plain
  cases regular.standing with
  | going hGoesOn hBalanced hCalm =>
      have hEffect := turn.effect hGoesOn regular.plain
      exact ⟨⟨hPlain, hEffect.standing hBalanced hCalm⟩, hEffect.orderly hBalanced⟩
  | ended hStalled hCalm =>
      obtain ⟨hStill, rfl⟩ := turn.stalled hStalled
      obtain ⟨hQuiet, _⟩ := turn.quiet_of_not_goesOn hStalled
      refine ⟨⟨hPlain, .ended hStill ?_⟩, by simp⟩
      obtain ⟨_, hAdds⟩ := hQuiet.adds
      rw [Surroundings.Adds.journal_fatals hAdds, hCalm, List.nil_append]
  | broken hStalled hFatal hNone =>
      obtain ⟨hStill, rfl⟩ := turn.stalled hStalled
      obtain ⟨hJournal, hWorkers⟩ := (turn.quiet_of_not_goesOn hStalled).2 hNone
      refine ⟨⟨hPlain, .broken hStill (by rw [hJournal, hFatal]) ?_⟩, by simp⟩
      rw [Crew.outstanding, hWorkers]
      exact hNone

theorem Run.regular {s t : System σ} {deeds : List (Deed σ)} (run : Run s deeds t)
    (regular : s.Regular) : t.Regular ∧ ∀ d ∈ deeds, d.Orderly := by
  induction run with
  | refl => exact ⟨regular, by simp⟩
  | snoc prior last ih =>
      obtain ⟨hRegular, hOrderly⟩ := ih
      obtain ⟨hNext, hMore⟩ := last.regular hRegular
      refine ⟨hNext, fun d hd => ?_⟩
      rcases List.mem_append.mp hd with hd | hd
      · exact hOrderly d hd
      · exact hMore d hd

theorem regular_initial (vendor : σ) (interface : String) : (initial vendor interface).Regular :=
  ⟨by simp [Plain, initial], standing_initial vendor interface⟩

theorem Standing.balanced {s : System σ} (h : s.Standing) (goesOn : s.GoesOn) :
    s.context.Balanced s.waiting := by
  cases h with
  | going _ hBalanced _ => exact hBalanced
  | ended hStalled _ => exact absurd goesOn hStalled
  | broken hStalled _ _ => exact absurd goesOn hStalled

/-- Between two tasks of a control thread that runs, as many reports are to come or wait as there
are sessions, and they are about that session. Every report that is taken is taken in the session
of the worker that made it, one that tells of a requested end only during a teardown, and whatever
is reported as fatal is put down to a session that runs. -/
theorem run_reportsBalanced {vendor : σ} {interface : String} {s : System σ}
    {deeds : List (Deed σ)} (run : Run (initial vendor interface) deeds s) :
    (s.condition = .running → s.busy = none →
      s.context.outstanding.length + s.waiting.length =
        (if s.context.controller.phase = .stopped then 0 else 1) ∧
      (∀ w ∈ s.context.outstanding, s.context.controller.runner = some w.id ∧
        s.context.controller.session.held = some w.session) ∧
      ∀ report ∈ s.waiting, ∃ w ∈ s.context.workers, report.1 = some w.id ∧
        s.context.controller.runner = some w.id ∧
        s.context.controller.session.held = some w.session) ∧
    (∀ d ∈ deeds, ∀ worker requested, d.cause = .exitReport worker requested →
      ∃ w ∈ d.before.workers, worker = some w.id ∧ w.stage = .finished ∧
        d.before.controller.runner = some w.id ∧
        d.before.controller.session.held = some w.session ∧
        (requested = true → d.before.controller.phase = .stopping)) ∧
    ∀ phase ∈ s.context.journal.fatals, phase = .started := by
  obtain ⟨hRegular, hOrderly⟩ := run.regular (regular_initial vendor interface)
  refine ⟨fun hRunning hIdle => ?_, fun d hd => (hOrderly d hd).expects, ?_⟩
  · have hBalanced := hRegular.standing.balanced ⟨hRunning, by simp [hIdle]⟩
    have hActive {worker : WorkerId} (hRunner : s.context.controller.runner = some worker) :
        s.context.controller.phase ≠ .stopped :=
      hBalanced.sound.runner_iff.mp (by rw [hRunner]; rfl)
    have books := hBalanced.books
    generalize s.waiting = reports at books ⊢
    cases books with
    | idle hPhase hNone => simp [hPhase, hNone]
    | working w hRunner hSession hOnly _ _ => simp [hActive hRunner, hOnly, hRunner, hSession]
    | reported w requested hMember _ hRunner hSession hNone _ =>
        simp only [hNone, hActive hRunner]
        refine ⟨rfl, by simp, fun report hReport => ?_⟩
        obtain rfl := List.mem_singleton.mp hReport
        exact ⟨w, hMember, rfl, hRunner, hSession⟩
  · cases hRegular.standing with
    | going _ _ hCalm => simp [hCalm]
    | ended _ hCalm => simp [hCalm]
    | broken _ hFatal _ => simp [hFatal]

/-- The session of a simulated library, whose worker has still to report. -/
theorem run_reportsBalanced_session :
    ∃ (s : System (Simulation SessionHandle)) (deeds : List (Deed (Simulation SessionHandle))),
      Run (initial { behaviour := { interfaces := [] } } "wlan0") deeds s ∧
      s.condition = .running ∧ s.busy = none ∧
      s.context.outstanding.length + s.waiting.length = 1 := by
  have run := ((Turn.submit (initial { behaviour := { interfaces := [] } } "wlan0")
    (.perform [.start ⟨1⟩]) rfl).run.trans
      (Turn.begin Simulation.library { respond := fun _ _ => .accepted } rfl).run).trans
        (Turn.finish rfl).run
  exact ⟨_, _, run, rfl, rfl, ((run_reportsBalanced run).1 rfl rfl).1⟩

end System

end RadioLifecycle
