import RadioLifecycle.Proofs.ControlThread.Course
import RadioLifecycle.Proofs.System.Effect

/-!
The control thread of a radio is not alone with it: workers make steps and the vendor library
changes by itself between any two of its moves. Everything that happens in the system is a course of
the control thread in that setting, so what holds of such courses holds of the system.
-/

namespace RadioLifecycle

open ControlThread (Course Step)
open Vendor (Library WorkerId)

variable {σ : Type}

/-- What others than the control thread do to a radio. -/
inductive Radio.Touch : Radio σ → Radio σ → Prop
  | work {r : Radio σ} (lib : Library σ) (worker : WorkerId) {report : Option Bool} {crew : Crew σ}
      (h : r.toCrew.advance? lib worker = some (report, crew)) : Touch r { r with toCrew := crew }
  | disturb {r : Radio σ} (change : σ → σ) : Touch r { r with vendor := change r.vendor }

/-- Tasks execute with some library and some receivers of events, unless one of them breaks down.
What such a task has done and submitted by then is left open. Only a request to halt never breaks
down. -/
def Task.Admissible (run : Task → Radio σ → Execution Task (Radio σ) Reply) : Prop :=
  ∃ lib audience, ∀ task r, run task r = Task.run lib audience task r ∨
    task ≠ .halt ∧ ∃ message, (run task r).verdict = .fault message

theorem Task.admissible_run (lib : Library σ) (audience : Audience) :
    Task.Admissible (Task.run lib audience) :=
  ⟨lib, audience, fun _ _ => .inl rfl⟩

/-- Whatever breaks down, a request to halt is met. -/
theorem Task.Admissible.halt {run : Task → Radio σ → Execution Task (Radio σ) Reply}
    (h : Task.Admissible run) (r : Radio σ) : (run .halt r).verdict = .halt := by
  obtain ⟨lib, audience, hRun⟩ := h
  rcases hRun .halt r with hSame | ⟨hOther, _⟩
  · rw [hSame]
    rfl
  · exact absurd rfl hOther

/-- What the control thread of a radio lives among. The library and those who receive events may act
differently every time, and any task may break down. -/
def System.setting (σ : Type) : Setting Task (Radio σ) Reply where
  runs := Task.Admissible
  touches := Radio.Touch

/-- The vendor calls among these are calls of the event loop, which workers make. -/
def Vendor.Call.ByWorker (call : Vendor.Call) : Prop :=
  ∃ session, call = .eventLoop session

namespace Radio

/-- Others leave the controller alone and tell nobody of anything, and of the vendor library they
use nothing but the event loop. -/
theorem Touch.adds {r r' : Radio σ} (touch : r.Touch r') :
    r'.controller = r.controller ∧
      ∃ calls, r.Adds r' calls [] [] ∧ ∀ call ∈ calls, call.ByWorker := by
  cases touch with
  | work lib worker h =>
      obtain ⟨w, _, _, _, _, _, hAdds⟩ := Crew.stride_of_advance? h
      refine ⟨rfl, w.nextCalls, hAdds, ?_⟩
      intro call hCall
      rw [Worker.nextCalls] at hCall
      split at hCall
      · exact ⟨w.session, List.mem_singleton.mp hCall⟩
      all_goals cases hCall
  | disturb change => exact ⟨rfl, [], ⟨[], (List.append_nil _).symm, rfl, rfl, rfl⟩, by simp⟩

end Radio

namespace System

variable {lib : Library σ} {audience : Audience} {s t : System σ}

/-- A worker makes its step, and what it reports is submitted like anything else. -/
theorem course_of_work? {worker : WorkerId} (h : s.work? lib worker = some t) :
    ∃ story, Course (setting σ) s story t := by
  obtain ⟨⟨report, crew⟩, hAdvance, rfl⟩ := Option.map_eq_some_iff.mp h
  have hTouch : Step (setting σ) s [] { s with context.toCrew := crew } :=
    .touch (Radio.Touch.work lib worker hAdvance)
  cases report with
  | none => exact ⟨[], hTouch.course⟩
  | some requested =>
      exact ⟨_, hTouch.course.trans (ControlThread.course_submit _ _)⟩

theorem course_of_act? {action : Action σ} (h : s.act? lib audience action = some t) :
    ∃ story, Course (setting σ) s story t := by
  cases action with
  | submit task =>
      cases h
      exact ⟨_, ControlThread.course_submit s task⟩
  | execute => exact ControlThread.course_of_step? (Task.admissible_run lib audience) h
  | work worker => exact course_of_work? h
  | disturb change =>
      cases h
      exact ⟨[], (Step.touch (Radio.Touch.disturb change)).course⟩

theorem course_of_replay? {actions : List (Action σ)}
    (h : replay? lib audience actions s = some t) : ∃ story, Course (setting σ) s story t := by
  induction actions generalizing s with
  | nil =>
      cases h
      exact ⟨[], .refl⟩
  | cons action rest ih =>
      obtain ⟨u, hAct, hRest⟩ := Option.bind_eq_some_iff.mp h
      obtain ⟨first, hFirst⟩ := course_of_act? hAct
      obtain ⟨more, hMore⟩ := ih hRest
      exact ⟨first ++ more, hFirst.trans hMore⟩

end System

end RadioLifecycle
