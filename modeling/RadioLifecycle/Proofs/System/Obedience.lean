import RadioLifecycle.Proofs.Controller.ChipShift
import RadioLifecycle.Proofs.System.History

/-!
Deeds are calls that were obeyed. However the threads come between each other, and whatever was
submitted by whom, each deed is one call on a controller whose memory fits together, with the
library and the subscribers of that moment.
-/

namespace RadioLifecycle

open Vendor (Library WorkerId)

variable {σ : Type}

namespace Deed

/-- What was done is what the call makes of the radio, given some library and some subscribers. -/
structure Obeyed (d : Deed σ) : Prop where
  sound : d.before.controller.Sound
  obeyed : ∃ lib respond, d.after = d.before.obey lib respond d.cause

variable {d : Deed σ}

theorem Obeyed.chipChange (h : d.Obeyed) :
    d.before.controller.ChipChange d.after.controller d.cause := by
  obtain ⟨lib, respond, hAfter⟩ := h.obeyed
  rw [hAfter]
  exact Radio.obey_chipChange lib respond h.sound d.cause

theorem Obeyed.tells (h : d.Obeyed) : d.before.controller.Tells d.cause d.told := by
  obtain ⟨lib, respond, hAfter⟩ := h.obeyed
  obtain ⟨_, told, _, hAdds, hTells⟩ := Radio.obey_tells lib respond h.sound d.cause
  rw [← hAfter] at hAdds
  rw [(gained hAdds).2.1]
  exact hTells

/-- The memory fits together afterwards as well. -/
theorem Obeyed.sound_after (h : d.Obeyed) : d.after.controller.Sound := by
  obtain ⟨lib, respond, hAfter⟩ := h.obeyed
  rw [hAfter]
  exact (Radio.obey_shift lib respond h.sound d.cause).sound h.sound

theorem Obeyed.subscribers (h : d.Obeyed) :
    d.after.controller.subscribers = d.before.controller.subscribersAfter d.cause := by
  obtain ⟨lib, respond, hAfter⟩ := h.obeyed
  rw [hAfter]
  exact (Radio.obey_shift lib respond h.sound d.cause).subscribers

end Deed

theorem Radio.obeyed_deeds (lib : Library σ) (respond : Response) (commands : List Command)
    {r : Radio σ} (sound : r.controller.Sound) : ∀ d ∈ r.deeds lib respond commands, d.Obeyed := by
  induction commands generalizing r with
  | nil => simp [deeds]
  | cons command rest ih =>
      have shift := obey_shift lib respond sound (.command command)
      intro d hd
      rcases List.mem_cons.mp hd with rfl | hRest
      · exact ⟨sound, lib, respond, rfl⟩
      · exact ih (shift.sound sound) d hRest

theorem Task.obeyed_deeds (lib : Library σ) (respond : Response) (task : Task) {r : Radio σ}
    (sound : r.controller.Sound) : ∀ d ∈ task.deeds lib respond r, d.Obeyed := by
  cases task with
  | perform commands => exact Radio.obeyed_deeds lib respond commands sound
  | exitReport worker requested =>
      intro d hd
      obtain rfl := List.mem_singleton.mp hd
      exact ⟨sound, lib, respond, rfl⟩
  | client | visitChip | halt => simp [deeds]

/-- A task leaves a memory behind that fits together. -/
theorem Task.sound_run (lib : Library σ) (audience : Audience) (task : Task) {r : Radio σ}
    (sound : r.controller.Sound) : (task.run lib audience r).context.controller.Sound := by
  cases task with
  | perform commands =>
      exact Radio.performAll_induction (P := fun r => r.controller.Sound) (fun _ h => h)
        (fun _ _ _ h shift => shift.sound h) lib audience.respond commands sound
  | visitChip requests =>
      rw [Task.context_of_visit]
      exact sound
  | exitReport worker requested =>
      exact (Radio.onLoopExited_shift audience.respond worker requested sound).sound sound
  | client | halt => exact sound

namespace System

variable {s t : System σ} {deeds : List (Deed σ)} {lib : Library σ} {audience : Audience}

theorem obeyed_nextDeeds (sound : s.context.controller.Sound) (respond : Response) :
    ∀ d ∈ s.nextDeeds lib respond, d.Obeyed := by
  rw [nextDeeds]
  cases s.queue with
  | nil => simp
  | cons first rest => exact first.2.obeyed_deeds lib respond sound

theorem Turn.obeyed (turn : Turn s deeds t) (regular : s.Regular) : ∀ d ∈ deeds, d.Obeyed := by
  cases regular.standing with
  | going _ hBalanced _ =>
      cases turn with
      | begin lib audience h => exact obeyed_nextDeeds hBalanced.sound audience.respond
      | submit | part | issue | finish | work | disturb | release | retire => simp
  | ended stalled _ | broken stalled _ _ => simp [(turn.stalled stalled).2]

theorem Run.obeyed (run : Run s deeds t) (regular : s.Regular) : ∀ d ∈ deeds, d.Obeyed := by
  induction run with
  | refl => simp
  | snoc prior last ih =>
      intro d hd
      rcases List.mem_append.mp hd with hPrior | hLast
      · exact ih d hPrior
      · exact last.obeyed (prior.regular regular).1 d hLast

/-- An action leaves a memory behind that fits together, also when it takes a report that nobody
made. -/
theorem sound_of_act? {action : Action σ} (sound : s.context.controller.Sound)
    (h : s.act? lib audience action = some t) : t.context.controller.Sound := by
  cases action with
  | submit task =>
      cases h
      rw [(s.submit_frame task).1]
      exact sound
  | execute =>
      obtain ⟨begun, hBegin, rfl⟩ := Option.map_eq_some_iff.mp h
      obtain ⟨_, _, _, task, _, _, rfl⟩ := ControlThread.begin?_eq_some hBegin
      rw [ControlThread.complete_context]
      exact task.sound_run lib audience sound
  | work worker =>
      obtain ⟨⟨report, crew⟩, _, rfl⟩ := Option.map_eq_some_iff.mp h
      obtain ⟨hContext, _⟩ := s.afterWork_frame worker report crew
      change (s.afterWork worker report crew).context.controller.Sound
      rw [hContext]
      exact sound
  | disturb change =>
      cases h
      exact sound

theorem obeyed_replayDeeds (lib : Library σ) (audience : Audience) (actions : List (Action σ))
    (sound : s.context.controller.Sound) :
    ∀ d ∈ replayDeeds lib audience actions s, d.Obeyed := by
  induction actions generalizing s with
  | nil => simp [replayDeeds]
  | cons action rest ih =>
      intro d hd
      rcases List.mem_append.mp hd with hFirst | hRest
      · cases action with
        | execute => exact obeyed_nextDeeds sound audience.respond d hFirst
        | submit | work | disturb => simp [actionDeeds] at hFirst
      · cases hAct : s.act? lib audience action with
        | none => simp [hAct] at hRest
        | some u =>
            simp only [hAct, Option.map_some, Option.getD_some] at hRest
            exact ih (sound_of_act? sound hAct) d hRest

end System

end RadioLifecycle
