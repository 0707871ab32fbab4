import RadioLifecycle.Proofs.ControlThread.Moves
import RadioLifecycle.Proofs.System.Run
import RadioLifecycle.Proofs.System.Workers

/-!
What a turn comes to. Only three things matter to the controller, the workers and the exit reports
that wait in the queue: the control thread carries commands out, it takes a report, or a worker
makes a step. Once the control thread does not go on, it does nothing any more, and when no worker
is left either, nothing is entered into the journal.
-/

namespace RadioLifecycle

open Vendor (Library WorkerId)

variable {σ : Type}

namespace Radio

/-- What happens to a radio without the control thread. Workers move on and call the vendor
library, but nobody else learns of it. -/
structure Quiet (r r' : Radio σ) : Prop where
  controller : r'.controller = r.controller
  ids : r'.workers.map (·.id) = r.workers.map (·.id)
  adds : ∃ calls, r.Adds r' calls [] []

theorem Quiet.of_same {r r' : Radio σ} (hController : r'.controller = r.controller)
    (hWorkers : r'.workers = r.workers) (hAdds : r.Adds r' [] [] []) : r.Quiet r' :=
  ⟨hController, by rw [hWorkers], [], hAdds⟩

theorem Quiet.refl (r : Radio σ) : r.Quiet r :=
  .of_same rfl rfl (Surroundings.Adds.refl _)

theorem Quiet.trans {r₁ r₂ r₃ : Radio σ} (first : r₁.Quiet r₂) (second : r₂.Quiet r₃) :
    r₁.Quiet r₃ := by
  obtain ⟨calls₁, hAdds₁⟩ := first.adds
  obtain ⟨calls₂, hAdds₂⟩ := second.adds
  exact ⟨second.controller.trans first.controller, second.ids.trans first.ids, _,
    Surroundings.Adds.trans hAdds₁ hAdds₂⟩

/-- A worker's step is quiet. -/
theorem Quiet.of_stride {r r' : Radio σ} {w w' : Worker} {report : Option Bool}
    {calls : List Vendor.Call} (stride : w.Stride report w')
    (hController : r'.controller = r.controller)
    (hWorkers : r'.workers = r.workers.map fun other => if other.id = w.id then w' else other)
    (hAdds : r.Adds r' calls [] []) : r.Quiet r' := by
  refine ⟨hController, ?_, calls, hAdds⟩
  rw [hWorkers, List.map_map]
  refine List.map_congr_left fun other _ => ?_
  simp only [Function.comp_apply]
  split
  · next hId => rw [stride.id, hId]
  · rfl

/-- What every command keeps, any number of commands keep. -/
theorem performAll_induction {P : Radio σ → Prop} (hSound : ∀ r, P r → r.controller.Sound)
    (hCommand : ∀ r r' command, P r → r.Shift (.command command) r' → P r') (lib : Library σ)
    (respond : Response) (commands : List Command) {r : Radio σ} (h : P r) :
    P (r.performAll lib respond commands).2 := by
  induction commands generalizing r with
  | nil => exact h
  | cons command rest ih =>
      have hShift := obey_shift lib respond (hSound r h) (.command command)
      exact ih (hCommand r _ command h hShift)

end Radio

/-- Operations issued on the control thread submit no reports. -/
theorem Operation.report?_of_mem_submissions {operation : Operation} {task : Task}
    (h : task ∈ operation.submissions) : task.report? = none := by
  cases operation with
  | post commands =>
      rw [List.mem_singleton.mp h]
      rfl
  | query commands => simp [submissions] at h
  | shutDown => simp [submissions] at h

/-- Tasks submit no reports. -/
theorem Task.report?_of_mem_submitted {lib : Library σ} {audience : Audience} {task submitted : Task}
    {r : Radio σ} (h : submitted ∈ (task.run lib audience r).submitted) :
    submitted.report? = none := by
  have hOperations {operations : List Operation}
      (hMember : submitted ∈ operations.flatMap (·.submissions)) : submitted.report? = none := by
    obtain ⟨operation, _, hSubmitted⟩ := List.mem_flatMap.mp hMember
    exact Operation.report?_of_mem_submissions hSubmitted
  rcases List.mem_append.mp h with hAct | hHeard
  · cases task with
    | client operations => exact hOperations hAct
    | visitChip requests =>
        simp only [act] at hAct
        split at hAct
        · simp [idle] at hAct
        · exact hOperations hAct
    | perform _ | exitReport _ _ | halt => simp [act] at hAct
  · exact hOperations hHeard

/-- A visit is entered into the journal, and nothing else comes of it at once. -/
theorem Task.context_of_visit (lib : Library σ) (audience : Audience)
    (requests : List Chip.Request) (r : Radio σ) :
    (Task.run lib audience (.visitChip requests) r).context =
      r.within (r.toSurroundings.enter (.visit r.controller.currentChip)) := by
  simp only [run, act]
  split <;> rfl

namespace System

/-- The exit reports that wait to be taken, earliest first. -/
def waiting (s : System σ) : List (Option WorkerId × Bool) :=
  s.queue.filterMap (·.2.report?)

/-- No task under execution has a report to submit. -/
def Plain (s : System σ) : Prop :=
  ∀ p ∈ s.busy, ∀ task ∈ p.remaining, task.report? = none

/-- What a turn comes to for the controller, the workers and the reports that wait, as long as the
control thread goes on. -/
inductive Effect (s : System σ) : List (Deed σ) → System σ → Prop
  | rested {t : System σ} (controller : t.context.controller = s.context.controller)
      (workers : t.context.workers = s.context.workers) (adds : s.context.Adds t.context [] [] [])
      (waiting : t.waiting = s.waiting) : Effect s [] t
  | carried {t : System σ} (lib : Library σ) (respond : Response) (commands : List Command)
      (context : t.context = (s.context.performAll lib respond commands).2)
      (waiting : t.waiting = s.waiting) : Effect s (s.context.deeds lib respond commands) t
  | taken {t : System σ} (respond : Response) (worker : Option WorkerId) (requested : Bool)
      (context : t.context = (s.context.onLoopExited respond requested).2)
      (waiting : s.waiting = (worker, requested) :: t.waiting)
      (goesOn : t.GoesOn ↔ (s.context.onLoopExited respond requested).1 = .proceed) :
      Effect s [⟨.exitReport worker requested, s.context, t.context⟩] t
  | strode {t : System σ} (w w' : Worker) (report : Option Bool)
      (member : w ∈ s.context.workers) (stride : w.Stride report w')
      (controller : t.context.controller = s.context.controller)
      (workers : t.context.workers =
        s.context.workers.map fun other => if other.id = w.id then w' else other)
      (adds : s.context.Adds t.context w.nextCalls [] [])
      (waiting : t.waiting = s.waiting ++ (report.map fun requested => (some w.id, requested)).toList) :
      Effect s [] t

theorem waiting_enqueue (s : System σ) (task : Task) :
    waiting (s.enqueue task) = s.waiting ++ task.report?.toList := by
  rw [waiting, ControlThread.enqueue, List.filterMap_append]
  cases hReport : task.report? <;> simp [waiting, hReport]

/-- A submission that is no report leaves the reports that wait as they are. -/
theorem waiting_submit (s : System σ) {task : Task} (hReport : task.report? = none) :
    waiting (s.submit task).2 = s.waiting := by
  rw [ControlThread.submit]
  split
  · rfl
  · simp [waiting_enqueue, hReport]

/-- The task that is taken decides what the beginning of a task comes to. -/
theorem effect_of_begin {s t : System σ} (lib : Library σ) (audience : Audience)
    (h : s.begin? (Task.run lib audience) = some t) :
    s.Effect (s.nextDeeds lib audience.respond) t := by
  obtain ⟨hRunning, _, ticket, task, rest, hQueue, hBegun⟩ := ControlThread.begin?_eq_some h
  have hContext : t.context = (task.run lib audience s.context).context := by rw [hBegun]
  have hWaiting : s.waiting = task.report?.toList ++ t.waiting := by
    rw [hBegun, waiting, hQueue]
    cases hReport : task.report? <;> simp [waiting, hReport]
  have hRested (h : t.context = s.context) (hReport : task.report? = none) : s.Effect [] t := by
    rw [hReport] at hWaiting
    refine .rested (by rw [h]) (by rw [h]) ?_ hWaiting.symm
    rw [h]
    exact Surroundings.Adds.refl _
  have hDeeds : s.nextDeeds lib audience.respond = task.deeds lib audience.respond s.context := by
    rw [nextDeeds, hQueue]
  rw [hDeeds]
  cases task with
  | perform commands => exact .carried lib audience.respond commands hContext hWaiting.symm
  | client operations => exact hRested hContext rfl
  | halt => exact hRested hContext rfl
  | visitChip requests =>
      have hVisit := hContext.trans (Task.context_of_visit lib audience requests s.context)
      refine .rested (by rw [hVisit]; rfl) (by rw [hVisit]; rfl) ?_ hWaiting.symm
      rw [hVisit]
      exact Surroundings.visit_adds _ _
  | exitReport worker requested =>
      have hDeed : Task.deeds lib audience.respond s.context (.exitReport worker requested) =
          [⟨.exitReport worker requested, s.context, t.context⟩] := by
        rw [hContext]
        rfl
      have hGoesOn : t.GoesOn ↔
          (s.context.onLoopExited audience.respond requested).1 = .proceed := by
        rw [hBegun]
        simp [ControlThread.GoesOn, hRunning, Task.run, Task.act]
      rw [hDeed]
      exact .taken audience.respond worker requested hContext hWaiting hGoesOn

/-- What a worker does touches neither the controller nor the task under execution. -/
theorem afterWork_frame (s : System σ) (worker : WorkerId) (report : Option Bool) (crew : Crew σ) :
    (s.afterWork worker report crew).context = { s.context with toCrew := crew } ∧
    (s.afterWork worker report crew).busy = s.busy ∧
    (s.afterWork worker report crew).condition = s.condition := by
  cases report with
  | none => exact ⟨rfl, rfl, rfl⟩
  | some requested => exact ControlThread.submit_frame _ _

/-- The report of a worker is queued behind the others while the control thread runs. -/
theorem waiting_afterWork {s : System σ} (hRunning : s.condition = .running) (worker : WorkerId)
    (report : Option Bool) (crew : Crew σ) :
    waiting (s.afterWork worker report crew) =
      s.waiting ++ (report.map fun requested => (some worker, requested)).toList := by
  cases report with
  | none => exact (List.append_nil _).symm
  | some requested =>
      rw [afterWork, ControlThread.submit_of_running (by exact hRunning)]
      exact waiting_enqueue _ _

theorem effect_of_work {s t : System σ} {lib : Library σ} {id : WorkerId}
    (hRunning : s.condition = .running) (h : s.work? lib id = some t) : s.Effect [] t := by
  obtain ⟨⟨report, crew⟩, hAdvance, hAfter⟩ := Option.map_eq_some_iff.mp h
  obtain ⟨w, w', hMember, rfl, hStride, hWorkers, hAdds⟩ := Crew.stride_of_advance? hAdvance
  have hContext : t.context = { s.context with toCrew := crew } := by
    rw [← hAfter]
    exact (s.afterWork_frame w.id report crew).1
  have hWaiting : t.waiting =
      s.waiting ++ (report.map fun requested => (some w.id, requested)).toList := by
    rw [← hAfter]
    exact waiting_afterWork hRunning w.id report crew
  refine .strode w w' report hMember hStride (by rw [hContext]) (by rw [hContext, hWorkers])
    ?_ hWaiting
  rw [hContext]
  exact hAdds

theorem Turn.effect {s t : System σ} {deeds : List (Deed σ)} (turn : Turn s deeds t)
    (goesOn : s.GoesOn) (plain : s.Plain) : s.Effect deeds t := by
  have hSame {t : System σ} (hContext : t.context = s.context) (hWaiting : t.waiting = s.waiting) :
      s.Effect [] t := by
    refine .rested (by rw [hContext]) (by rw [hContext]) ?_ hWaiting
    rw [hContext]
    exact Surroundings.Adds.refl _
  cases turn with
  | submit task client => exact hSame (s.submit_frame task).1 (waiting_submit s client)
  | begin lib audience h => exact effect_of_begin lib audience h
  | part h =>
      refine hSame rfl ?_
      simp [waiting, h, Task.report?]
  | issue h =>
      obtain ⟨ticket, reply, task, rest, verdict, hBusy, rfl⟩ := ControlThread.issue?_eq_some h
      have hReport : task.report? = none := plain _ hBusy task (by simp)
      refine hSame rfl ?_
      rw [waiting_enqueue, hReport]
      exact List.append_nil _
  | finish h =>
      obtain ⟨p, hBusy, _, rfl⟩ := ControlThread.finish?_eq_some h
      have hProceed := goesOn.2 p hBusy
      refine hSame (ControlThread.conclude_context _ _) ?_
      rw [ControlThread.conclude, hProceed]
      rfl
  | work lib worker h => exact effect_of_work goesOn.1 h
  | disturb change =>
      exact .rested rfl rfl ⟨[], (List.append_nil _).symm, rfl, rfl, rfl⟩ rfl
  | release => exact hSame rfl rfl
  | retire h =>
      obtain ⟨_, hQueue, rfl⟩ := ControlThread.retire?_eq_some h
      refine hSame rfl ?_
      simp [waiting, ControlThread.close, hQueue]

theorem Turn.plain {s t : System σ} {deeds : List (Deed σ)} (turn : Turn s deeds t)
    (plain : s.Plain) : t.Plain := by
  cases turn with
  | submit task client =>
      rw [Plain, (s.submit_frame task).2.1]
      exact plain
  | begin lib audience h =>
      obtain ⟨_, _, ticket, task, rest, _, rfl⟩ := ControlThread.begin?_eq_some h
      intro p hBusy submitted hSubmitted
      cases hBusy
      exact Task.report?_of_mem_submitted hSubmitted
  | issue h =>
      obtain ⟨ticket, reply, task, rest, verdict, hBusy, rfl⟩ := ControlThread.issue?_eq_some h
      intro p hRest submitted hSubmitted
      cases hRest
      exact plain _ hBusy submitted (List.mem_cons_of_mem _ hSubmitted)
  | finish h =>
      obtain ⟨p, _, _, rfl⟩ := ControlThread.finish?_eq_some h
      rw [Plain, ControlThread.conclude]
      split <;> simp [ControlThread.answer, ControlThread.close]
  | work lib worker h =>
      obtain ⟨⟨report, crew⟩, _, rfl⟩ := Option.map_eq_some_iff.mp h
      change Plain (s.afterWork worker report crew)
      rw [Plain, (s.afterWork_frame worker report crew).2.1]
      exact plain
  | retire h =>
      obtain ⟨hIdle, _, rfl⟩ := ControlThread.retire?_eq_some h
      simp [Plain, ControlThread.close, hIdle]
  | part | disturb | release => exact plain

/-- Nothing makes a control thread go on that does not, and it does nothing with the controller. -/
theorem Turn.stalled {s t : System σ} {deeds : List (Deed σ)} (turn : Turn s deeds t)
    (stalled : ¬s.GoesOn) : ¬t.GoesOn ∧ deeds = [] := by
  have hSame {t : System σ} (hCondition : t.condition = s.condition) (hBusy : t.busy = s.busy) :
      ¬t.GoesOn := by
    rw [ControlThread.GoesOn, hCondition, hBusy]
    exact stalled
  cases turn with
  | submit task client => exact ⟨hSame (s.submit_frame task).2.2 (s.submit_frame task).2.1, rfl⟩
  | begin lib audience h =>
      rw [ControlThread.begin?_of_not_goesOn stalled] at h
      cases h
  | issue h =>
      obtain ⟨ticket, reply, task, rest, verdict, hBusy, rfl⟩ := ControlThread.issue?_eq_some h
      refine ⟨fun goesOn => stalled ⟨goesOn.1, ?_⟩, rfl⟩
      intro p hProgress
      rw [hBusy] at hProgress
      cases hProgress
      exact goesOn.2 ⟨ticket, reply, rest, verdict⟩ rfl
  | finish h =>
      obtain ⟨p, hBusy, _, rfl⟩ := ControlThread.finish?_eq_some h
      exact ⟨ControlThread.conclude_of_not_goesOn stalled hBusy, rfl⟩
  | work lib worker h =>
      obtain ⟨⟨report, crew⟩, _, rfl⟩ := Option.map_eq_some_iff.mp h
      obtain ⟨_, hBusy, hCondition⟩ := s.afterWork_frame worker report crew
      exact ⟨hSame hCondition hBusy, rfl⟩
  | retire h =>
      obtain ⟨_, _, rfl⟩ := ControlThread.retire?_eq_some h
      exact ⟨fun goesOn => by simpa [ControlThread.close] using goesOn.1, rfl⟩
  | part | disturb | release => exact ⟨hSame rfl rfl, rfl⟩

/-- Without the control thread only workers enter anything into the journal. -/
theorem Turn.quiet_of_not_goesOn {s t : System σ} {deeds : List (Deed σ)} (turn : Turn s deeds t)
    (stalled : ¬s.GoesOn) :
    s.context.Quiet t.context ∧ (s.context.outstanding = [] →
      t.context.journal = s.context.journal ∧ t.context.workers = s.context.workers) := by
  have hSame {t : System σ} (hContext : t.context = s.context) :
      s.context.Quiet t.context ∧ (s.context.outstanding = [] →
        t.context.journal = s.context.journal ∧ t.context.workers = s.context.workers) := by
    rw [hContext]
    exact ⟨.refl _, fun _ => ⟨rfl, rfl⟩⟩
  cases turn with
  | submit task client => exact hSame (s.submit_frame task).1
  | begin lib audience h =>
      rw [ControlThread.begin?_of_not_goesOn stalled] at h
      cases h
  | issue h =>
      obtain ⟨ticket, reply, task, rest, verdict, _, rfl⟩ := ControlThread.issue?_eq_some h
      exact hSame rfl
  | finish h =>
      obtain ⟨p, _, _, rfl⟩ := ControlThread.finish?_eq_some h
      exact hSame (ControlThread.conclude_context _ _)
  | work lib worker h =>
      obtain ⟨⟨report, crew⟩, hAdvance, rfl⟩ := Option.map_eq_some_iff.mp h
      obtain ⟨hContext, _⟩ := s.afterWork_frame worker report crew
      obtain ⟨w, w', _, rfl, hStride, hWorkers, hAdds⟩ := Crew.stride_of_advance? hAdvance
      change s.context.Quiet (s.afterWork w.id report crew).context ∧ _
      rw [hContext]
      refine ⟨.of_stride hStride rfl hWorkers hAdds, fun hNone => ?_⟩
      rw [Crew.advance?_eq_none hNone] at hAdvance
      cases hAdvance
  | retire h =>
      obtain ⟨_, _, rfl⟩ := ControlThread.retire?_eq_some h
      exact hSame rfl
  | disturb change =>
      exact ⟨.of_same rfl rfl ⟨[], (List.append_nil _).symm, rfl, rfl, rfl⟩, fun _ => ⟨rfl, rfl⟩⟩
  | part | release => exact hSame rfl

theorem Run.stalled {s t : System σ} {deeds : List (Deed σ)} (run : Run s deeds t)
    (stalled : ¬s.GoesOn) : ¬t.GoesOn ∧ deeds = [] ∧ s.context.Quiet t.context := by
  induction run with
  | refl => exact ⟨stalled, rfl, .refl _⟩
  | snoc prior last ih =>
      obtain ⟨hStalled, rfl, hQuiet⟩ := ih
      obtain ⟨hStill, rfl⟩ := last.stalled hStalled
      exact ⟨hStill, rfl, hQuiet.trans (last.quiet_of_not_goesOn hStalled).1⟩

/-- A control thread that has ended has ended for good. -/
theorem Turn.isClosed {s t : System σ} {deeds : List (Deed σ)} (turn : Turn s deeds t)
    (hClosed : s.isClosed = true) : t.isClosed = true := by
  have hSame {t : System σ} (hCondition : t.condition = s.condition) : t.isClosed = true := by
    rw [ControlThread.isClosed, hCondition]
    exact hClosed
  cases turn with
  | submit task client => exact hSame (s.submit_frame task).2.2
  | begin lib audience h =>
      obtain ⟨hRunning, _⟩ := ControlThread.begin?_eq_some h
      simp [ControlThread.isClosed, hRunning] at hClosed
  | issue h =>
      obtain ⟨ticket, reply, task, rest, verdict, _, rfl⟩ := ControlThread.issue?_eq_some h
      exact hSame rfl
  | finish h =>
      obtain ⟨p, _, _, rfl⟩ := ControlThread.finish?_eq_some h
      rw [ControlThread.conclude]
      split
      · exact hSame rfl
      · rfl
      · rfl
  | work lib worker h =>
      obtain ⟨⟨report, crew⟩, _, rfl⟩ := Option.map_eq_some_iff.mp h
      exact hSame (s.afterWork_frame worker report crew).2.2
  | retire h =>
      obtain ⟨_, _, rfl⟩ := ControlThread.retire?_eq_some h
      rfl
  | part | disturb | release => exact hSame rfl

end System

end RadioLifecycle
