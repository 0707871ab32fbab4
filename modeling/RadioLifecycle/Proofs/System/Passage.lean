import RadioLifecycle.Proofs.System.Balance

/-!
What a turn does to the radio. Unlike the effect of a turn this says nothing of the reports that
wait, and it can be said of every turn, also when the control thread does not go on. What it keeps
is that workers are told apart and that whoever has still to report is the worker of the session. A
session that has ended therefore leaves no report behind.
-/

namespace RadioLifecycle

open Vendor (Library WorkerId)

variable {σ : Type}

/-- How a radio comes through a turn: no step is made, a worker makes one, or the control thread
makes the calls of a task. -/
inductive Radio.Passes (r : Radio σ) : List (Deed σ) → Radio σ → Prop
  | rested {r' : Radio σ} (controller : r'.controller = r.controller)
      (workers : r'.workers = r.workers) (adds : r.Adds r' [] [] []) : Passes r [] r'
  | strode {r' : Radio σ} (w w' : Worker) (report : Option Bool) (member : w ∈ r.workers)
      (stride : w.Stride report w') (controller : r'.controller = r.controller)
      (workers : r'.workers = r.workers.map fun other => if other.id = w.id then w' else other)
      (adds : r.Adds r' w.nextCalls [] []) : Passes r [] r'
  | carried (lib : Library σ) (respond : Response) (commands : List Command) :
      Passes r (r.deeds lib respond commands) (r.performAll lib respond commands).2
  | taken (respond : Response) (worker : Option WorkerId) (requested : Bool) :
      Passes r [⟨.exitReport worker requested, r, (r.onLoopExited respond requested).2⟩]
        (r.onLoopExited respond requested).2

namespace Radio

variable {r r' : Radio σ} {cause : Cause} {deeds : List (Deed σ)}

/-- Workers never become fewer, and a session's worker is the one that it had or a new one. -/
theorem Shift.workers (shift : r.Shift cause r') :
    r.workers.length ≤ r'.workers.length ∧ ∀ id, r'.controller.runner = some id →
      r.controller.runner = some id ∨
        r.workers.length ≤ id.number ∧ id.number < r'.workers.length := by
  have hSame (hRunner : r'.controller.runner = r.controller.runner)
      (hLength : r'.workers.length = r.workers.length) :
      r.workers.length ≤ r'.workers.length ∧ ∀ id, r'.controller.runner = some id →
        r.controller.runner = some id ∨
          r.workers.length ≤ id.number ∧ id.number < r'.workers.length :=
    ⟨Nat.le_of_eq hLength.symm, fun _ hSome => .inl (hRunner.symm.trans hSome)⟩
  cases shift with
  | opened handle _ _ hController hWorkers _ =>
      obtain ⟨_, _, hRunner, _⟩ := fields_of_opened hController
      have hLength : r'.workers.length = r.workers.length + 1 := by simp [hWorkers]
      refine ⟨by omega, fun id hSome => .inr ?_⟩
      obtain rfl := Option.some.inj (hRunner.symm.trans hSome)
      simp [Crew.nextWorker, hLength]
  | failed _ _ same _ | repeated _ same _ | refused _ same _ | echoed _ same _
  | abandoned _ same _ => exact hSame (by rw [same.1]) (by rw [same.2])
  | torn _ _ _ _ _ hController hWorkers _ =>
      exact hSame (by rw [hController]; rfl) (by simp [hWorkers, Crew.requestTeardown])
  | absorbed => exact hSame rfl rfl
  | served _ _ kept hWorkers _ _ => exact hSame kept.runner (by rw [hWorkers])
  | closed _ _ _ hController hWorkers _ =>
      refine ⟨by simp [hWorkers], fun id hSome => ?_⟩
      rw [hController] at hSome
      cases hSome

/-- A call on the controller leaves the workers alone, asks one to finish, or spawns one. -/
theorem Shift.crew (shift : r.Shift cause r') :
    r'.workers = r.workers ∨
    (∃ worker, r'.workers = r.workers.map (·.asked worker)) ∨
    ∃ handle, r'.workers = r.workers ++ [{ id := r.nextWorker, session := handle }] := by
  cases shift with
  | opened handle _ _ _ hWorkers _ => exact .inr (.inr ⟨handle, hWorkers⟩)
  | torn _ worker _ _ _ _ hWorkers _ => exact .inr (.inl ⟨worker, hWorkers⟩)
  | failed _ _ same _ | repeated _ same _ | refused _ same _ | echoed _ same _
  | abandoned _ same _ => exact .inl same.2
  | absorbed => exact .inl rfl
  | served _ _ _ hWorkers _ _ | closed _ _ _ _ hWorkers _ => exact .inl hWorkers

theorem Shift.numbered (shift : r.Shift cause r') (h : r.Numbered) : r'.Numbered := by
  rcases shift.crew with hSame | ⟨worker, hAsked⟩ | ⟨handle, hSpawned⟩
  · rw [Crew.Numbered, hSame]
    exact h
  · exact h.map (·.asked worker) hAsked fun w _ => w.asked_id worker
  · rw [Crew.Numbered, hSpawned]
    exact h.spawn handle

/-- No call moves a worker on. -/
theorem Shift.stage (shift : r.Shift cause r') {w : Worker} (hMember : w ∈ r.workers) :
    ∃ w' ∈ r'.workers, w'.id = w.id ∧ w'.stage = w.stage := by
  rcases shift.crew with hSame | ⟨worker, hAsked⟩ | ⟨handle, hSpawned⟩
  · exact ⟨w, by rwa [hSame], rfl, rfl⟩
  · refine ⟨w.asked worker, ?_, w.asked_id worker, w.asked_stage worker⟩
    rw [hAsked]
    exact List.mem_map_of_mem hMember
  · refine ⟨w, ?_, rfl, rfl⟩
    rw [hSpawned]
    exact List.mem_append_left _ hMember

/-- A worker that is there after a call was there before it, at the same stage, or is new. -/
theorem Shift.stage_before (shift : r.Shift cause r') {w : Worker} (hMember : w ∈ r'.workers) :
    (∃ v ∈ r.workers, v.id = w.id ∧ v.stage = w.stage) ∨ w.stage = .spawned := by
  rcases shift.crew with hSame | ⟨worker, hAsked⟩ | ⟨handle, hSpawned⟩
  · exact .inl ⟨w, by rwa [← hSame], rfl, rfl⟩
  · rw [hAsked] at hMember
    obtain ⟨v, hMemberV, rfl⟩ := List.mem_map.mp hMember
    exact .inl ⟨v, hMemberV, (v.asked_id worker).symm, (v.asked_stage worker).symm⟩
  · rw [hSpawned] at hMember
    rcases List.mem_append.mp hMember with hOld | hNew
    · exact .inl ⟨w, hOld, rfl, rfl⟩
    · obtain rfl := List.mem_singleton.mp hNew
      exact .inr rfl

/-- What holds of controller and workers whether or not the control thread goes on. -/
structure Fit (r : Radio σ) : Prop where
  sound : r.controller.Sound
  numbered : r.Numbered
  runner_lt : ∀ id, r.controller.runner = some id → id.number < r.workers.length
  owned : ∀ w ∈ r.workers, w.isOutstanding = true → r.controller.runner = some w.id

theorem Fit.idle (h : r.Fit) (hPhase : r.controller.phase = .stopped) :
    ∀ w ∈ r.workers, w.isOutstanding = false := by
  intro w hMember
  by_contra hOutstanding
  have hRunner := h.owned w hMember (by simpa using hOutstanding)
  exact h.sound.runner_iff.mp (by rw [hRunner]; rfl) hPhase

/-- When the report of a worker is taken, no other worker has still to report. -/
theorem Fit.idle_of_expects {worker : Option WorkerId} {requested : Bool} (h : r.Fit)
    (expects : r.Expects worker requested) : ∀ w ∈ r.workers, w.isOutstanding = false := by
  obtain ⟨v, hMemberV, _, hFinished, hRunnerV, _⟩ := expects
  intro w hMember
  by_contra hOutstanding
  have hRunner := h.owned w hMember (by simpa using hOutstanding)
  have hId : v.id = w.id := Option.some.inj (hRunnerV.symm.trans hRunner)
  obtain rfl := List.inj_on_of_nodup_map h.numbered.nodup hMemberV hMember hId
  simp [Worker.isOutstanding, hFinished] at hOutstanding

/-- Whatever a call on the controller comes to, whoever has still to report is the worker of the
session. -/
theorem Shift.fit (shift : r.Shift cause r')
    (expects : ∀ worker requested, cause = .exitReport worker requested →
      r.Expects worker requested) (h : r.Fit) : r'.Fit := by
  refine ⟨shift.sound h.sound, shift.numbered h.numbered, ?_, ?_⟩
  · obtain ⟨hLength, hRunner⟩ := shift.workers
    intro id hSome
    rcases hRunner id hSome with hBefore | ⟨_, hNew⟩
    · exact Nat.lt_of_lt_of_le (h.runner_lt id hBefore) hLength
    · exact hNew
  · have hSame (hController : r'.controller.runner = r.controller.runner)
        (hWorkers : r'.workers = r.workers) :
        ∀ w ∈ r'.workers, w.isOutstanding = true → r'.controller.runner = some w.id := by
      rw [hController, hWorkers]
      exact h.owned
    cases shift with
    | opened handle _ hPhase hController hWorkers _ =>
        obtain ⟨_, _, hRunner, _⟩ := fields_of_opened hController
        rw [hRunner, hWorkers]
        intro w hMember hOutstanding
        rcases List.mem_append.mp hMember with hOld | hNew
        · simp [h.idle hPhase w hOld] at hOutstanding
        · obtain rfl := List.mem_singleton.mp hNew
          rfl
    | torn _ worker _ _ _ hController hWorkers _ =>
        have hMap : r'.workers = r.workers.map (·.asked worker) := hWorkers
        intro w hMember hOutstanding
        rw [hMap] at hMember
        obtain ⟨v, hMemberV, rfl⟩ := List.mem_map.mp hMember
        have hRunner := h.owned v hMemberV (by simpa [Worker.isOutstanding] using hOutstanding)
        rw [hController]
        exact hRunner.trans (congrArg some (v.asked_id worker).symm)
    | failed _ _ same _ | repeated _ same _ | refused _ same _ | echoed _ same _
    | abandoned _ same _ => exact hSame (by rw [same.1]) same.2
    | absorbed => exact h.owned
    | served _ _ kept hWorkers _ _ => exact hSame kept.runner hWorkers
    -- The session has no worker after this, so there must be none that has still to report.
    | closed _ _ _ _ hWorkers _ =>
        intro w hMember hOutstanding
        rw [hWorkers] at hMember
        simp [h.idle_of_expects (expects _ _ rfl) w hMember] at hOutstanding

theorem Fit.strode {w w' : Worker} {report : Option Bool} (h : r.Fit) (hMember : w ∈ r.workers)
    (stride : w.Stride report w') (hController : r'.controller = r.controller)
    (hWorkers : r'.workers = r.workers.map fun other => if other.id = w.id then w' else other) :
    r'.Fit := by
  refine ⟨?_, ?_, ?_, ?_⟩
  · rw [hController]
    exact h.sound
  · exact h.numbered.replace stride.id hWorkers
  · rw [hController, hWorkers, List.length_map]
    exact h.runner_lt
  · rw [hController, hWorkers]
    intro v hMemberV hOutstanding
    obtain ⟨other, hOther, rfl⟩ := List.mem_map.mp hMemberV
    split at hOutstanding
    · next hId =>
        rw [if_pos hId, stride.id]
        exact h.owned w hMember stride.outstanding
    · next hId =>
        rw [if_neg hId]
        exact h.owned other hOther hOutstanding

theorem Passes.fit (passes : r.Passes deeds r') (orderly : ∀ d ∈ deeds, d.Orderly) (h : r.Fit) :
    r'.Fit := by
  cases passes with
  | rested hController hWorkers _ =>
      refine ⟨?_, ?_, ?_, ?_⟩
      · rw [hController]
        exact h.sound
      · rw [Crew.Numbered, hWorkers]
        exact h.numbered
      · rw [hController, hWorkers]
        exact h.runner_lt
      · rw [hController, hWorkers]
        exact h.owned
  | strode w w' report hMember stride hController hWorkers _ =>
      exact h.strode hMember stride hController hWorkers
  | carried lib respond commands =>
      exact performAll_induction (fun _ h => h.sound) (fun _ _ _ h shift => shift.fit (by simp) h)
        lib respond commands h
  | taken respond worker requested =>
      have hOrderly := orderly _ (List.mem_singleton.mpr rfl)
      exact hOrderly.shift.fit hOrderly.expects h

end Radio

namespace System

variable {s t : System σ} {deeds : List (Deed σ)}

theorem Effect.passes (effect : s.Effect deeds t) : s.context.Passes deeds t.context := by
  cases effect with
  | rested hController hWorkers hAdds _ => exact .rested hController hWorkers hAdds
  | strode w w' report hMember stride hController hWorkers hAdds _ =>
      exact .strode w w' report hMember stride hController hWorkers hAdds
  | carried lib respond commands hContext _ =>
      rw [hContext]
      exact .carried lib respond commands
  | taken respond worker requested hContext _ _ =>
      rw [hContext]
      exact .taken respond worker requested

theorem Turn.passes (turn : Turn s deeds t) : s.context.Passes deeds t.context := by
  have hSame {t : System σ} (hContext : t.context = s.context) : s.context.Passes [] t.context := by
    rw [hContext]
    exact .rested rfl rfl (Surroundings.Adds.refl _)
  cases turn with
  | submit task _ => exact hSame (s.submit_frame task).1
  | begin lib audience h => exact (effect_of_begin lib audience h).passes
  | issue h =>
      obtain ⟨_, _, _, _, _, _, rfl⟩ := ControlThread.issue?_eq_some h
      exact hSame rfl
  | finish h =>
      obtain ⟨_, _, _, rfl⟩ := ControlThread.finish?_eq_some h
      exact hSame (ControlThread.conclude_context _ _)
  | work lib worker h =>
      obtain ⟨⟨report, crew⟩, hAdvance, rfl⟩ := Option.map_eq_some_iff.mp h
      obtain ⟨w, w', hMember, rfl, hStride, hWorkers, hAdds⟩ := Crew.stride_of_advance? hAdvance
      change s.context.Passes [] (s.afterWork w.id report crew).context
      rw [(s.afterWork_frame w.id report crew).1]
      exact .strode w w' report hMember hStride rfl hWorkers hAdds
  | disturb change => exact .rested rfl rfl ⟨[], (List.append_nil _).symm, rfl, rfl, rfl⟩
  | retire h =>
      obtain ⟨_, _, rfl⟩ := ControlThread.retire?_eq_some h
      exact hSame rfl
  | part | release => exact hSame rfl

theorem fit_initial (vendor : σ) (interface : String) :
    (initial vendor interface).context.Fit :=
  ⟨Controller.sound_initial interface, rfl, by simp [initial], by simp [initial]⟩

theorem Run.fit (run : Run s deeds t) (regular : s.Regular) (h : s.context.Fit) : t.context.Fit := by
  induction run with
  | refl => exact h
  | snoc prior last ih => exact last.passes.fit (last.regular (prior.regular regular).1).2 ih

/-- Where nobody has a report to make and none waits, none comes to wait. -/
theorem Turn.waiting_eq_nil (turn : Turn s deeds t) (plain : s.Plain)
    (hNone : s.context.outstanding = []) (hWaiting : s.waiting = []) : t.waiting = [] := by
  cases turn with
  | submit task client => rw [waiting_submit s client, hWaiting]
  | begin lib audience h =>
      obtain ⟨_, _, ticket, task, rest, hQueue, rfl⟩ := ControlThread.begin?_eq_some h
      rw [waiting, hQueue] at hWaiting
      have hAll := List.filterMap_eq_nil_iff.mp hWaiting
      exact List.filterMap_eq_nil_iff.mpr fun entry hEntry =>
        hAll entry (List.mem_cons_of_mem _ hEntry)
  | part h =>
      rw [waiting, h] at hWaiting
      simpa [waiting, Task.report?] using hWaiting
  | issue h =>
      obtain ⟨ticket, reply, task, rest, verdict, hBusy, rfl⟩ := ControlThread.issue?_eq_some h
      have hReport : task.report? = none := plain _ hBusy task (by simp)
      rw [waiting_enqueue, hReport]
      simpa [waiting] using hWaiting
  | finish h =>
      obtain ⟨p, _, _, rfl⟩ := ControlThread.finish?_eq_some h
      rw [ControlThread.conclude]
      split
      · exact hWaiting
      · rfl
      · rfl
  | work lib worker h =>
      obtain ⟨⟨report, crew⟩, hAdvance, _⟩ := Option.map_eq_some_iff.mp h
      rw [Crew.advance?_eq_none hNone] at hAdvance
      cases hAdvance
  | disturb | release => exact hWaiting
  | retire h =>
      obtain ⟨_, _, rfl⟩ := ControlThread.retire?_eq_some h
      rfl

/-- Without a session no report waits, and nothing was fatal. -/
def Idle (s : System σ) : Prop :=
  s.context.controller.phase = .stopped → s.waiting = [] ∧ s.context.journal.fatals = []

/-- A session that has ended leaves nothing behind, whether or not the control thread goes on. -/
theorem Turn.idle (turn : Turn s deeds t) (regular : s.Regular) (fit : s.context.Fit)
    (h : s.Idle) : t.Idle := by
  intro hPhase
  by_cases hGoesOn : s.GoesOn
  · have hBalanced := regular.standing.balanced hGoesOn
    have hCalm : s.context.journal.fatals = [] := by
      cases regular.standing with
      | going _ _ hCalm => exact hCalm
      | ended hStalled | broken hStalled => exact absurd hGoesOn hStalled
    rcases (turn.effect hGoesOn regular.plain).balanced hBalanced hCalm with
      ⟨hNext, hStill⟩ | ⟨_, hThere, _⟩
    · exact ⟨(hNext.idle hPhase).1, hStill⟩
    · exact absurd hPhase hThere
  · obtain ⟨hQuiet, hKept⟩ := turn.quiet_of_not_goesOn hGoesOn
    rw [hQuiet.controller] at hPhase
    obtain ⟨hWaiting, hFatals⟩ := h hPhase
    have hNone : s.context.outstanding = [] :=
      List.filter_eq_nil_iff.mpr fun w hMember => by simp [fit.idle hPhase w hMember]
    exact ⟨turn.waiting_eq_nil regular.plain hNone hWaiting, by rw [(hKept hNone).1, hFatals]⟩

theorem Run.idle (run : Run s deeds t) (regular : s.Regular) (fit : s.context.Fit)
    (h : s.Idle) : t.Idle := by
  induction run with
  | refl => exact h
  | snoc prior last ih =>
      exact last.idle (prior.regular regular).1 (prior.fit regular fit) ih

end System

end RadioLifecycle
