import RadioLifecycle.Proofs.System.History

/-!
The answer to a stop. A stop of a session that runs begins a teardown, and subscribers are told of
the session's end once: when the report of the session's worker is taken, after the vendor's cleanup
command has returned. Until then the session counts as there, nobody is told of an end, and further
stops come to nothing.
-/

namespace RadioLifecycle

open Vendor (SessionHandle WorkerId)

variable {σ : Type}

/-- The session of a handle and a worker is being torn down, and this stop is to be answered. -/
structure Radio.TearsDown (r : Radio σ) (command : CommandId) (handle : SessionHandle)
    (worker : WorkerId) : Prop where
  phase : r.controller.phase = .stopping
  pending : r.controller.pendingStop = some command
  held : r.controller.session.held = some handle
  runner : r.controller.runner = some worker

variable {command : CommandId} {handle : SessionHandle} {worker : WorkerId}

theorem Radio.TearsDown.isStarted {r : Radio σ} (h : r.TearsDown command handle worker) :
    r.controller.isStarted = true := by
  simp [Controller.isStarted, h.phase]

theorem Radio.TearsDown.congr {r r' : Radio σ} (h : r.TearsDown command handle worker)
    (kept : r.controller.KeepsSession r'.controller) : r'.TearsDown command handle worker where
  phase := kept.phase.trans h.phase
  pending := kept.pendingStop.trans h.pending
  held := by rw [kept.session, h.held]
  runner := kept.runner.trans h.runner

theorem Radio.Quiet.tearsDown {r r' : Radio σ} (quiet : r.Quiet r')
    (h : r.TearsDown command handle worker) : r'.TearsDown command handle worker := by
  refine h.congr ?_
  rw [quiet.controller]
  exact .refl _

namespace Deed

variable {d : Deed σ}

/-- A stop of a session that runs begins its teardown. The vendor library is called once, and nobody
is told anything. -/
theorem Orderly.begins (orderly : d.Orderly) (hCause : d.cause = .command (.stop command))
    (hPhase : d.before.controller.phase = .started) :
    ∃ handle worker, d.before.controller.session.held = some handle ∧
      d.before.controller.runner = some worker ∧ d.calls = [.cleanup handle] ∧ d.told = [] ∧
      d.after.TearsDown command handle worker := by
  obtain ⟨cause, before, after⟩ := d
  obtain rfl : cause = .command (.stop command) := hCause
  have shift : before.Shift (.command (.stop command)) after := orderly.shift
  cases shift with
  | torn handle worker _ hHeld hRunner hController _ hAdds =>
      obtain ⟨hCalls, hTold, _⟩ := gained (d := ⟨.command (.stop command), before, after⟩) hAdds
      refine ⟨handle, worker, hHeld, hRunner, hCalls, hTold, ?_, ?_, ?_, ?_⟩
      all_goals simp only [hController]
      · rfl
      · rfl
      · exact hHeld
      · exact hRunner
  | absorbed hOther => cases hPhase.symm.trans hOther
  | echoed hOther => cases hPhase.symm.trans hOther
  | served _ hStop => exact absurd rfl (hStop command)

/-- During a teardown stops come to nothing, and only the report of a requested end can end the
teardown. -/
theorem Orderly.during (orderly : d.Orderly) (h : d.before.TearsDown command handle worker) :
    (d.after.TearsDown command handle worker ∧
      ∀ other, d.cause = .command (.stop other) → d.after = d.before) ∨
    (d.after.controller.phase = .stopped ∧ d.cause = .exitReport (some worker) true ∧
      (∃ w ∈ d.before.workers, w.id = worker ∧ w.session = handle ∧ w.stage = .finished) ∧
      d.calls = [] ∧ d.told = d.before.controller.subscribers.deliveries (.stopped command)) := by
  obtain ⟨cause, before, after⟩ := d
  have hSame (same : before.SameState after) : after.TearsDown command handle worker := by
    refine h.congr ?_
    simp only [same.1]
    exact .refl _
  have hOther {phase : Phase} (hPhase : before.controller.phase = phase) : phase = .stopping :=
    hPhase.symm.trans h.phase
  have shift : before.Shift cause after := orderly.shift
  -- Five of the ten things that can happen begin in another phase than this one.
  cases shift with
  | opened _ _ hPhase | failed _ hPhase | repeated hPhase | echoed hPhase => cases hOther hPhase
  | torn _ _ hPhase => cases hOther hPhase
  | refused _ same _ => exact .inl ⟨hSame same, by simp⟩
  | absorbed => exact .inl ⟨h, fun _ _ => rfl⟩
  | served _ hStop kept _ _ _ =>
      refine .inl ⟨h.congr kept, fun other hCause => ?_⟩
      exact absurd (Cause.command.inj hCause) (hStop other)
  | abandoned _ same _ => exact .inl ⟨hSame same, by simp⟩
  | closed pending _ hPending hController _ hAdds =>
      obtain rfl : pending = command := Option.some.inj (hPending.symm.trans h.pending)
      obtain ⟨w, hMember, rfl, hFinished, hRunner, hSession, _⟩ := orderly.expects _ _ rfl
      obtain rfl : w.id = worker := Option.some.inj (hRunner.symm.trans h.runner)
      obtain rfl : w.session = handle := Option.some.inj (hSession.symm.trans h.held)
      obtain ⟨hCalls, hTold, _⟩ := gained (d := ⟨_, before, after⟩) hAdds
      refine .inr ⟨?_, rfl, ⟨w, hMember, rfl, rfl, hFinished⟩, hCalls, hTold⟩
      simp only [hController]
      rfl

end Deed

/-- As long as the session is not gone, its teardown is in progress. -/
theorem Radio.Leads.tearsDown {r r' : Radio σ} {deeds : List (Deed σ)} (leads : r.Leads deeds r')
    (h : r.TearsDown command handle worker)
    (hThere : ∀ m ∈ deeds, m.after.controller.phase ≠ .stopped) :
    r'.TearsDown command handle worker ∧ ∀ m ∈ deeds,
      m.before.TearsDown command handle worker ∧ m.after.TearsDown command handle worker ∧
      m.TellsNoStop ∧ ∀ other, m.cause = .command (.stop other) → m.after = m.before := by
  induction deeds generalizing r with
  | nil => exact ⟨Radio.Quiet.tearsDown leads h, by simp⟩
  | cons d rest ih =>
      obtain ⟨hQuiet, hOrderly, hRest⟩ := leads
      have hBefore := hQuiet.tearsDown h
      have hPhase := hThere d (by simp)
      rcases hOrderly.during hBefore with ⟨hAfter, hStop⟩ | ⟨hGone, _⟩
      · obtain ⟨hLast, hAll⟩ := ih hRest hAfter (fun m hm => hThere m (List.mem_cons_of_mem _ hm))
        refine ⟨hLast, fun m hm => ?_⟩
        rcases List.mem_cons.mp hm with rfl | hm
        · exact ⟨hBefore, hAfter, hOrderly.tellsNoStop hPhase, hStop⟩
        · exact hAll m hm
      · exact absurd hGone hPhase

namespace System

/-- Each stop of a session that runs begins one teardown, and it is answered once. As long as the
session is there it counts as started, nobody is told of an end, and further stops change nothing.
The deed that ends the session takes the report of the session's worker, and it tells every
subscriber once of the stop that began the teardown. Nobody is told anything but by a deed. -/
theorem run_stopAnsweredOnce {vendor : σ} {interface : String} {s : System σ}
    {deeds earlier later : List (Deed σ)} {d : Deed σ}
    (run : Run (initial vendor interface) deeds s) (hDeeds : deeds = earlier ++ d :: later)
    (hCause : d.cause = .command (.stop command))
    (hPhase : d.before.controller.phase = .started) :
    s.context.journal.deliveries = deeds.flatMap (·.told) ∧
    ∃ handle worker, d.before.controller.session.held = some handle ∧
      d.before.controller.runner = some worker ∧ d.calls = [.cleanup handle] ∧ d.told = [] ∧
      d.after.TearsDown command handle worker ∧
      ∀ between rest, later = between ++ rest →
        (∀ m ∈ between, m.after.controller.phase ≠ .stopped) →
        (∀ m ∈ between, m.before.controller.isStarted = true ∧
          m.after.controller.isStarted = true ∧ m.TellsNoStop ∧
          m.after.controller.pendingStop = some command ∧
          ∀ other, m.cause = .command (.stop other) → m.after = m.before) ∧
        (rest = [] → s.context.controller.isStarted = true) ∧
        ∀ e more, rest = e :: more → e.after.controller.phase = .stopped →
          e.before.controller.isStarted = true ∧
          e.cause = .exitReport (some worker) true ∧
          (∃ w ∈ e.before.workers, w.id = worker ∧ w.session = handle ∧ w.stage = .finished) ∧
          e.calls = [] ∧
          e.told = e.before.controller.subscribers.deliveries (.stopped command) := by
  have hLeads := run.leads (regular_initial vendor interface)
  refine ⟨hLeads.deliveries, ?_⟩
  subst hDeeds
  obtain ⟨_, hOrderly, hLater⟩ := hLeads.split
  obtain ⟨handle, worker, hHeld, hRunner, hCalls, hTold, hAfter⟩ := hOrderly.begins hCause hPhase
  refine ⟨handle, worker, hHeld, hRunner, hCalls, hTold, hAfter, ?_⟩
  rintro between rest rfl hThere
  have hMiddle {r : Radio σ} (leads : d.after.Leads between r) :
      r.TearsDown command handle worker ∧ ∀ m ∈ between, m.before.controller.isStarted = true ∧
        m.after.controller.isStarted = true ∧ m.TellsNoStop ∧
        m.after.controller.pendingStop = some command ∧
        ∀ other, m.cause = .command (.stop other) → m.after = m.before := by
    obtain ⟨hLast, hAll⟩ := leads.tearsDown hAfter hThere
    refine ⟨hLast, fun m hm => ?_⟩
    obtain ⟨hBefore, hNext, hSilent, hStop⟩ := hAll m hm
    exact ⟨hBefore.isStarted, hNext.isStarted, hSilent, hNext.pending, hStop⟩
  cases rest with
  | nil =>
      rw [List.append_nil] at hLater
      obtain ⟨hLast, hAll⟩ := hMiddle hLater
      exact ⟨hAll, fun _ => hLast.isStarted, by simp⟩
  | cons e more =>
      obtain ⟨hBetween, hEnd, _⟩ := hLater.split
      obtain ⟨hBefore, hAll⟩ := hMiddle hBetween
      refine ⟨hAll, by simp, ?_⟩
      rintro _ _ ⟨⟩ hGone
      rcases hEnd.during hBefore with ⟨hStill, _⟩ | ⟨_, hReport, hWorker, hCalls, hTold⟩
      · cases hStill.phase.symm.trans hGone
      · exact ⟨hBefore.isStarted, hReport, hWorker, hCalls, hTold⟩

/-- Of two stops of a simulated session the first is answered, once the worker has reported. -/
theorem run_stopAnsweredOnce_secondStop :
    ∃ (s : System (Simulation SessionHandle)) (deeds : List (Deed (Simulation SessionHandle))),
      Run (initial { behaviour := { interfaces := [] } } "wlan0") deeds s ∧
      ∃ e ∈ deeds, e.told = [⟨⟨7⟩, .stopped ⟨2⟩⟩] := by
  let start : System (Simulation SessionHandle) :=
    initial { behaviour := { interfaces := [] } } "wlan0"
  let audience : Audience := { respond := fun _ _ => .accepted }
  let actions : List (Action (Simulation SessionHandle)) :=
    [.submit (.perform [.subscribe ⟨7⟩, .start ⟨1⟩, .stop ⟨2⟩, .stop ⟨3⟩]), .execute,
      .work ⟨0⟩, .work ⟨0⟩, .work ⟨0⟩, .work ⟨0⟩, .work ⟨0⟩, .execute]
  obtain ⟨s, hReplay⟩ := Option.isSome_iff_exists.mp
    (show (replay? Simulation.library audience actions start).isSome = true by decide +kernel)
  have run := run_of_replay? hReplay (by simp [actions, Task.report?])
  let deeds := replayDeeds Simulation.library audience actions start
  have hLength : deeds.length = 5 := by decide +kernel
  have hDeeds : deeds = deeds.take 2 ++ deeds[2] :: deeds.drop 3 := by simp
  have hLater : deeds.drop 3 = [deeds[3]] ++ deeds[4] :: deeds.drop 5 := by simp
  have hCause : deeds[2].cause = .command (.stop ⟨2⟩) := by decide +kernel
  have hPhase : deeds[2].before.controller.phase = .started := by decide +kernel
  have hThere : deeds[3].after.controller.phase ≠ .stopped := by decide +kernel
  have hGone : deeds[4].after.controller.phase = .stopped := by decide +kernel
  have hSubscribers : deeds[4].before.controller.subscribers = ⟨[⟨7⟩]⟩ := by decide +kernel
  obtain ⟨_, _, _, _, _, _, _, _, hBetween⟩ := run_stopAnsweredOnce run hDeeds hCause hPhase
  obtain ⟨_, _, hEnd⟩ := hBetween _ _ hLater (by simpa using hThere)
  obtain ⟨_, _, _, _, hTold⟩ := hEnd _ _ rfl hGone
  rw [hSubscribers] at hTold
  exact ⟨s, deeds, run, deeds[4], List.getElem_mem _, hTold⟩

end System

end RadioLifecycle
