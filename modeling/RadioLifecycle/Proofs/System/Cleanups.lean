import Mathlib.Data.List.Induction
import RadioLifecycle.Proofs.Simulation.Custody
import RadioLifecycle.Proofs.System.Teardown
import RadioLifecycle.Proofs.System.VendorConduct

/-!
The system over the simulated library. Only the control thread and the workers call the library, and
its exit may be held and released from outside. The library has one place for a completion handler,
so that none gets lost there, runs twice or runs for another session is due to the order in which
the library is called: a session does not end before its handler has run, and none begins before
that.
-/

namespace RadioLifecycle

open Vendor (SessionHandle WorkerId)

/-- The sessions whose teardowns a deed submits. -/
def Deed.cleanups {σ : Type} (d : Deed σ) : List SessionHandle :=
  d.calls.filterMap (·.cleaned?)

namespace Deed

variable {σ : Type} {d : Deed σ}

theorem Orderly.journal_cleanups (orderly : d.Orderly) :
    d.after.journal.cleanups = d.before.journal.cleanups ++ d.cleanups := by
  obtain ⟨calls, told, fatals, hAdds⟩ := orderly.shift.grows
  rw [Surroundings.Adds.cleanups hAdds, cleanups, (gained hAdds).1]

/-- A deed that leaves a teardown behind where there was none has begun it. -/
theorem Orderly.begun (orderly : d.Orderly) (hBefore : d.before.controller.phase ≠ .stopping)
    (hAfter : d.after.controller.phase = .stopping) :
    ∃ command handle worker, d.before.controller.phase = .started ∧
      d.before.controller.session.held = some handle ∧ d.calls = [.cleanup handle] ∧
      d.after.TearsDown command handle worker := by
  obtain ⟨cause, before, after⟩ := d
  have hNot (hSame : after.controller.phase = before.controller.phase) : False :=
    hBefore (hSame.symm.trans hAfter)
  have shift : before.Shift cause after := orderly.shift
  cases shift with
  | opened _ _ _ hController =>
      cases (Radio.fields_of_opened hController).1.symm.trans hAfter
  | failed _ _ same | repeated _ same | refused _ same | echoed _ same | abandoned _ same =>
      exact (hNot (by rw [same.1])).elim
  | torn _ _ hPhase =>
      obtain ⟨handle, worker, hHeld, _, hCalls, _, hTears⟩ := orderly.begins rfl hPhase
      exact ⟨_, handle, worker, hPhase, hHeld, hCalls, hTears⟩
  | absorbed => exact (hNot rfl).elim
  | served _ _ kept => exact (hNot kept.phase).elim
  | closed _ _ _ hController =>
      simp only [hController] at hAfter
      cases hAfter

/-- A deed that ends a session tells so, and the session's worker has reported before. -/
theorem Orderly.ends (orderly : d.Orderly) (hBefore : d.before.controller.phase ≠ .stopped)
    (hAfter : d.after.controller.phase = .stopped) :
    d.before.controller.phase = .stopping ∧
      (∃ command, d.told = d.before.controller.subscribers.deliveries (.stopped command)) ∧
      ∃ worker requested, d.before.Expects worker requested := by
  obtain ⟨cause, before, after⟩ := d
  have hNot (hSame : after.controller.phase = before.controller.phase) : False :=
    hBefore (hSame.symm.trans hAfter)
  have shift : before.Shift cause after := orderly.shift
  cases shift with
  | opened _ _ hPhase => exact absurd hPhase hBefore
  | failed _ _ same | repeated _ same | refused _ same | echoed _ same | abandoned _ same =>
      exact (hNot (by rw [same.1])).elim
  | torn _ _ _ _ _ hController =>
      simp only [hController] at hAfter
      cases hAfter
  | absorbed => exact (hNot rfl).elim
  | served _ _ kept => exact (hNot kept.phase).elim
  | closed command hPhase _ _ _ hAdds =>
      exact ⟨hPhase, ⟨command, (gained (d := ⟨_, before, after⟩) hAdds).2.1⟩, _, _,
        orderly.expects _ _ rfl⟩

end Deed

namespace Radio

/-- Whoever is in a teardown that was not in one before has begun it, and it has gone on since. -/
theorem Leads.begun {σ : Type} {r r' : Radio σ} {deeds : List (Deed σ)} (leads : r.Leads deeds r')
    (hBefore : r.controller.phase ≠ .stopping) (hAfter : r'.controller.phase = .stopping) :
    ∃ first d between, deeds = first ++ d :: between ∧
      d.before.controller.phase ≠ .stopping ∧ d.after.controller.phase = .stopping ∧
      ∀ m ∈ between, m.after.controller.phase = .stopping := by
  induction deeds using List.reverseRecOn generalizing r' with
  | nil =>
      have hQuiet : r.Quiet r' := leads
      rw [hQuiet.controller] at hAfter
      exact absurd hAfter hBefore
  | append_singleton init last ih =>
      obtain ⟨hInit, _, hQuiet⟩ := leads.split
      have hLast : last.after.controller.phase = .stopping := by
        rw [← hAfter, Quiet.controller hQuiet]
      by_cases hPhase : last.before.controller.phase = .stopping
      · obtain ⟨first, d, between, rfl, hD, hDAfter, hBetween⟩ := ih hInit hPhase
        refine ⟨first, d, between ++ [last], by simp, hD, hDAfter, fun m hm => ?_⟩
        rcases List.mem_append.mp hm with hm | hm
        · exact hBetween m hm
        · obtain rfl := List.mem_singleton.mp hm
          exact hLast
      · exact ⟨init, last, [], rfl, hPhase, hLast, by simp⟩

variable {r r' r'' : Radio (Simulation SessionHandle)}
variable {deeds more : List (Deed (Simulation SessionHandle))}

/-- These deeds lead from one radio to another, each is done while the handlers are where they
should be, and no teardown is submitted between them. -/
def Trail (r : Radio (Simulation SessionHandle)) :
    List (Deed (Simulation SessionHandle)) → Radio (Simulation SessionHandle) → Prop
  | [], r' => r'.journal.cleanups = r.journal.cleanups
  | d :: rest, r' => d.before.journal.cleanups = r.journal.cleanups ∧ d.Orderly ∧
    d.before.Custody ∧ d.after.Trail rest r'

theorem Trail.append (first : r.Trail deeds r') (second : r'.Trail more r'') :
    r.Trail (deeds ++ more) r'' := by
  induction deeds generalizing r with
  | nil =>
      have hSame : r'.journal.cleanups = r.journal.cleanups := first
      cases more with
      | nil => exact Eq.trans second hSame
      | cons d rest => exact ⟨second.1.trans hSame, second.2⟩
  | cons d rest ih => exact ⟨first.1, first.2.1, first.2.2.1, ih first.2.2.2⟩

/-- The teardowns submitted in all are those that the deeds submitted. -/
theorem Trail.cleanups (trail : r.Trail deeds r') :
    r'.journal.cleanups = r.journal.cleanups ++ deeds.flatMap (·.cleanups) := by
  induction deeds generalizing r with
  | nil => exact Eq.trans trail (List.append_nil _).symm
  | cons d rest ih =>
      obtain ⟨hBefore, hOrderly, _, hRest⟩ := trail
      rw [ih hRest, hOrderly.journal_cleanups, hBefore, List.flatMap_cons, List.append_assoc]

theorem Trail.split {d : Deed (Simulation SessionHandle)}
    {earlier later : List (Deed (Simulation SessionHandle))}
    (trail : r.Trail (earlier ++ d :: later) r') :
    d.before.journal.cleanups = r.journal.cleanups ++ earlier.flatMap (·.cleanups) ∧
      d.before.Custody := by
  induction earlier generalizing r with
  | nil => exact ⟨trail.1.trans (List.append_nil _).symm, trail.2.2.1⟩
  | cons first rest ih =>
      obtain ⟨hBefore, hOrderly, _, hRest⟩ := trail
      obtain ⟨hCleanups, hCustody⟩ := ih hRest
      refine ⟨?_, hCustody⟩
      rw [hCleanups, hOrderly.journal_cleanups, hBefore, List.flatMap_cons, List.append_assoc]

/-- Each command of a task is carried out while the handlers are where they should be. -/
theorem Custody.performAll (h : r.Custody) (respond : Response) (commands : List Command) :
    (r.performAll Simulation.library respond commands).2.Custody ∧
      r.Trail (r.deeds Simulation.library respond commands)
        (r.performAll Simulation.library respond commands).2 := by
  induction commands generalizing r with
  | nil => exact ⟨h, rfl⟩
  | cons command rest ih =>
      have shift := obey_shift Simulation.library respond h.fit.sound (.command command)
      have hNext := shift.custody (r.obey_served respond _) (by simp) h
      obtain ⟨hLast, hTrail⟩ := ih hNext
      exact ⟨hLast, rfl, ⟨h.fit.sound, shift, by simp⟩, h, hTrail⟩

end Radio

namespace System

variable {s t : System (Simulation SessionHandle)}
variable {deeds more : List (Deed (Simulation SessionHandle))}

/-- One thing that happens in the system over the simulated library. Audiences may be others in
every turn. -/
inductive SimulatedTurn : System (Simulation SessionHandle) →
    List (Deed (Simulation SessionHandle)) → System (Simulation SessionHandle) → Prop
  | begin {s t : System (Simulation SessionHandle)} (audience : Audience)
      (h : s.begin? (Task.run Simulation.library audience) = some t) :
      SimulatedTurn s (s.nextDeeds Simulation.library audience.respond) t
  | work {s t : System (Simulation SessionHandle)} (worker : WorkerId)
      (h : s.work? Simulation.library worker = some t) : SimulatedTurn s [] t
  /-- The event loop is kept from ending. -/
  | hold (s : System (Simulation SessionHandle)) : SimulatedTurn s [] (s.disturb Simulation.hold)
  /-- The event loop is no longer kept from ending. -/
  | allow (s : System (Simulation SessionHandle)) :
      SimulatedTurn s [] (s.disturb Simulation.allowExit)
  /-- The threads that are parked are woken. -/
  | wake (s : System (Simulation SessionHandle)) : SimulatedTurn s [] (s.disturb Simulation.wakeAll)
  /-- A client submits a task, or a task goes on or ends. -/
  | aside {s t : System (Simulation SessionHandle)} (turn : Turn s [] t)
      (untouched : t.context = s.context) : SimulatedTurn s [] t

/-- The system over the simulated library comes from one state to another by these deeds. -/
inductive SimulatedRun : System (Simulation SessionHandle) →
    List (Deed (Simulation SessionHandle)) → System (Simulation SessionHandle) → Prop
  | refl (s : System (Simulation SessionHandle)) : SimulatedRun s [] s
  | snoc {s t u : System (Simulation SessionHandle)}
      {deeds more : List (Deed (Simulation SessionHandle))} (prior : SimulatedRun s deeds t)
      (last : SimulatedTurn t more u) : SimulatedRun s (deeds ++ more) u

theorem SimulatedTurn.turn (turn : SimulatedTurn s deeds t) : Turn s deeds t := by
  cases turn with
  | begin audience h => exact .begin _ audience h
  | work worker h => exact .work _ worker h
  | hold | allow | wake => exact .disturb s _
  | aside turn _ => exact turn

theorem SimulatedRun.run (run : SimulatedRun s deeds t) : Run s deeds t := by
  induction run with
  | refl => exact .refl _
  | snoc prior last ih => exact .snoc ih last.turn

theorem SimulatedRun.trans {u : System (Simulation SessionHandle)} (left : SimulatedRun s deeds t)
    (right : SimulatedRun t more u) : SimulatedRun s (deeds ++ more) u := by
  induction right with
  | refl => simpa using left
  | snoc prior last ih =>
      rw [← List.append_assoc]
      exact .snoc ih last

theorem SimulatedTurn.run (turn : SimulatedTurn s deeds t) : SimulatedRun s deeds t :=
  .snoc (.refl s) turn

theorem SimulatedTurn.custody (turn : SimulatedTurn s deeds t) (regular : s.Regular)
    (h : s.context.Custody) : t.context.Custody ∧ s.context.Trail deeds t.context := by
  have hOrderly := (turn.turn.regular regular).2
  have fit := turn.turn.passes.fit hOrderly h.fit
  cases turn with
  | begin audience hBegin =>
      obtain ⟨_, _, ticket, task, rest, hQueue, rfl⟩ := ControlThread.begin?_eq_some hBegin
      have hDeeds : s.nextDeeds Simulation.library audience.respond =
          task.deeds Simulation.library audience.respond s.context := by
        rw [nextDeeds, hQueue]
      rw [hDeeds] at hOrderly ⊢
      cases task with
      | perform commands => exact h.performAll audience.respond commands
      | client | halt => exact ⟨h, rfl⟩
      | visitChip requests =>
          have hVisit := Task.context_of_visit Simulation.library audience requests s.context
          have hSame : s.context.Trail []
              (Task.run Simulation.library audience (.visitChip requests) s.context).context := by
            rw [hVisit, Radio.Trail]
            exact (Surroundings.Adds.cleanups (Surroundings.visit_adds _ _)).trans (List.append_nil _)
          refine ⟨h.congr fit ?_ ?_ ?_ ⟨s.context.vendor.calls, s.context.vendor.exitHeld, ?_⟩ hSame,
            hSame⟩
          all_goals
            simp only [hVisit]
            rfl
      | exitReport worker requested =>
          have hDeed := hOrderly _ (List.mem_singleton.mpr rfl)
          have hNext := hDeed.shift.custody (s.context.obey_served _ _) hDeed.expects h
          exact ⟨hNext, rfl, hDeed, h, rfl⟩
  | work worker hWork =>
      obtain ⟨⟨report, crew⟩, hAdvance, rfl⟩ := Option.map_eq_some_iff.mp hWork
      have hNext := h.advanced hAdvance
      obtain ⟨w, w', hMember, _, hStride, hWorkers, hAdds⟩ := Crew.stride_of_advance? hAdvance
      change (s.afterWork worker report crew).context.Custody ∧
        s.context.Trail [] (s.afterWork worker report crew).context
      rw [(s.afterWork_frame worker report crew).1]
      refine ⟨hNext, ?_⟩
      rw [Radio.Trail, Surroundings.Adds.cleanups hAdds, Radio.cleaned?_of_nextCalls, List.append_nil]
  | hold => exact ⟨h.congr fit rfl rfl rfl ⟨s.context.vendor.calls, true, rfl⟩ rfl, rfl⟩
  | allow => exact ⟨h.congr fit rfl rfl rfl ⟨s.context.vendor.calls, false, rfl⟩ rfl, rfl⟩
  | wake => exact ⟨h.woken fit rfl rfl rfl rfl, rfl⟩
  | aside _ hSame =>
      rw [hSame]
      exact ⟨h, rfl⟩

theorem SimulatedRun.custody (run : SimulatedRun s deeds t) (regular : s.Regular)
    (h : s.context.Custody) : t.context.Custody ∧ s.context.Trail deeds t.context := by
  induction run with
  | refl => exact ⟨h, rfl⟩
  | snoc prior last ih =>
      obtain ⟨hCustody, hTrail⟩ := ih
      obtain ⟨hNext, hMore⟩ := last.custody (prior.run.regular regular).1 hCustody
      exact ⟨hNext, hTrail.append hMore⟩

end System

end RadioLifecycle
