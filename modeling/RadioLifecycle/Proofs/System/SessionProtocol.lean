import RadioLifecycle.Proofs.Controller.Protocol
import RadioLifecycle.Proofs.System.Effect
import RadioLifecycle.Simulation.Library

/-!
What a control thread executes follows the protocol of sessions, whatever is submitted to it and by
whom, also reports that no worker made. Workers and visits to the chip come between, but what they
enter into the journal belongs to no session's life.
-/

namespace RadioLifecycle

open Vendor (Library Status SessionHandle)

variable {σ : Type}

/-- What the protocol is given to react to: what was asked for, and what the vendor library would
have to say to being brought up then. -/
def Deed.stimulus (lib : Library σ) (d : Deed σ) : Cause × Except Status SessionHandle :=
  (d.cause, (lib.bringUp d.before.vendor).1)

namespace Protocol

variable {cause : Cause} {outcome : Except Status SessionHandle}
  {first second : List (Cause × Except Status SessionHandle)}

theorem follow_nil (state : Option Protocol) : follow [] state = some ([], state) := rfl

/-- The protocol reacts to one thing and follows the rest. -/
theorem follow_cons {p : Protocol} {later : Journal} {last : Option Protocol}
    (h : follow second (p.react outcome cause).2 = some (later, last)) :
    follow ((cause, outcome) :: second) (some p) =
      some ((p.react outcome cause).1 ++ later, last) := by
  simp [follow, h]

theorem follow_append {state middle last : Option Protocol} {shown later : Journal}
    (left : follow first state = some (shown, middle))
    (right : follow second middle = some (later, last)) :
    follow (first ++ second) state = some (shown ++ later, last) := by
  induction first generalizing state shown with
  | nil =>
      cases left
      exact right
  | cons stimulus rest ih =>
      obtain ⟨cause, outcome⟩ := stimulus
      cases state with
      -- A broken protocol takes nothing, so there is no first part to begin with.
      | none => cases left
      | some p =>
          rw [follow] at left
          obtain ⟨⟨shown', _⟩, hRest, hShown⟩ := Option.map_eq_some_iff.mp left
          simp only [Prod.mk.injEq] at hShown
          obtain ⟨rfl, rfl⟩ := hShown
          rw [List.append_assoc]
          exact follow_cons (ih hRest)

theorem follow_performAll {p : Protocol} {r : Radio σ} (lib : Library σ) (respond : Response)
    (commands : List Command) (sound : r.controller.Sound) (h : p.Describes r.controller) :
    ∃ shown q,
      follow ((r.deeds lib respond commands).map (·.stimulus lib)) (some p) =
        some (shown, some q) ∧
      (r.performAll lib respond commands).2.journal.lifecycle = r.journal.lifecycle ++ shown ∧
      (r.performAll lib respond commands).2.controller.Sound ∧
      q.Describes (r.performAll lib respond commands).2.controller := by
  induction commands generalizing r p with
  | nil => exact ⟨[], p, rfl, (List.append_nil _).symm, sound, h⟩
  | cons command rest ih =>
      obtain ⟨hShown, hNext⟩ := answers_obey lib respond (.command command) sound h
      obtain ⟨next, hSome⟩ := Option.isSome_iff_exists.mp
        (p.react_isSome_of_command (lib.bringUp r.vendor).1 command)
      have hSound := (Radio.obey_shift lib respond sound (.command command)).sound sound
      obtain ⟨later, q, hFollow, hLater, hLast⟩ := ih hSound (hNext next hSome)
      rw [← hSome] at hFollow
      refine ⟨_, q, follow_cons hFollow, ?_, hLast⟩
      rw [← List.append_assoc, ← hShown]
      exact hLater

end Protocol

namespace System

/-- A control thread stands where the protocol does, and it has ended if the protocol is broken. -/
structure Follows (s : System σ) (state : Option Protocol) : Prop where
  sound : s.context.controller.Sound
  describes : ∀ p ∈ state, p.Describes s.context.controller
  closed : state = none → s.isClosed = true

variable {s t : System σ} {state : Option Protocol} {lib : Library σ} {audience : Audience}

theorem Follows.frame (h : s.Follows state) (hController : t.context.controller = s.context.controller)
    (hCondition : t.condition = s.condition) : t.Follows state := by
  refine ⟨?_, ?_, fun hNone => ?_⟩
  · rw [hController]
    exact h.sound
  · rw [hController]
    exact h.describes
  · rw [ControlThread.isClosed, hCondition]
    exact h.closed hNone

/-- What the control thread does when it executes a task is what the protocol answers. -/
theorem Follows.execute (h : s.Follows state)
    (hStep : s.step? (Task.run lib audience) = some t) :
    ∃ shown next,
      Protocol.follow ((s.nextDeeds lib audience.respond).map (·.stimulus lib)) state =
        some (shown, next) ∧
      t.context.journal.lifecycle = s.context.journal.lifecycle ++ shown ∧ t.Follows next := by
  obtain ⟨begun, hBegin, rfl⟩ := Option.map_eq_some_iff.mp hStep
  obtain ⟨hRunning, hIdle, ticket, task, rest, hQueue, hBegun⟩ := ControlThread.begin?_eq_some hBegin
  have hContext : begun.complete.context = (task.run lib audience s.context).context := by
    rw [ControlThread.complete_context, hBegun]
  have hDeeds : s.nextDeeds lib audience.respond =
      task.deeds lib audience.respond s.context := by
    rw [nextDeeds, hQueue]
  obtain ⟨p, rfl⟩ : ∃ p, state = some p := by
    cases state with
    | some p => exact ⟨p, rfl⟩
    | none => simpa [ControlThread.isClosed, hRunning] using h.closed rfl
  have hDescribes := h.describes p rfl
  -- Only a report can break the protocol, so after any other task it stands somewhere.
  have hStands {shown : Journal} {q : Protocol}
      (hLifecycle : begun.complete.context.journal.lifecycle = s.context.journal.lifecycle ++ shown)
      (hSound : begun.complete.context.controller.Sound)
      (hNext : q.Describes begun.complete.context.controller) :
      begun.complete.context.journal.lifecycle = s.context.journal.lifecycle ++ shown ∧
        Follows begun.complete (some q) :=
    ⟨hLifecycle, hSound, by rintro _ ⟨⟩; exact hNext, by simp⟩
  rw [hDeeds]
  cases task with
  | perform commands =>
      obtain ⟨shown, q, hFollow, hEnd⟩ :=
        Protocol.follow_performAll lib audience.respond commands h.sound hDescribes
      obtain ⟨hLifecycle, hSound, hNext⟩ := hEnd
      refine ⟨shown, some q, hFollow, hStands ?_ ?_ ?_⟩ <;> rw [hContext]
      · exact hLifecycle
      · exact hSound
      · exact hNext
  | client | halt =>
      refine ⟨[], some p, rfl, hStands ?_ ?_ ?_⟩ <;> rw [hContext]
      · exact (List.append_nil _).symm
      · exact h.sound
      · exact hDescribes
  | visitChip requests =>
      have hVisit := hContext.trans (Task.context_of_visit lib audience requests s.context)
      refine ⟨[], some p, rfl, hStands ?_ ?_ ?_⟩ <;> rw [hVisit]
      · exact Journal.lifecycle_append _ _
      · exact h.sound
      · exact hDescribes
  | exitReport worker requested =>
      have hObey : begun.complete.context =
          s.context.obey lib audience.respond (.exitReport worker requested) := hContext
      obtain ⟨hShown, hNext⟩ :=
        Protocol.answers_obey lib audience.respond (.exitReport worker requested) h.sound hDescribes
      have hSound := (Radio.obey_shift lib audience.respond h.sound
        (.exitReport worker requested)).sound h.sound
      rw [← hObey] at hShown hNext hSound
      have hFollow := Protocol.follow_cons (Protocol.follow_nil
        (p.react (lib.bringUp s.context.vendor).1 (.exitReport worker requested)).2)
      refine ⟨_, _, hFollow, ?_, hSound, hNext, fun hBroken => ?_⟩
      · rw [List.append_nil]
        exact hShown
      · have hHalts := Protocol.halts_of_react audience.respond hDescribes hBroken
        refine ControlThread.isClosed_complete fun hGoesOn => ?_
        rw [hBegun] at hGoesOn
        have hVerdict := hGoesOn.2 _ rfl
        simp [Task.run, Task.act, hHalts] at hVerdict

/-- A worker's step is part of no session's life as the protocol sees it. -/
theorem Follows.work {worker : Vendor.WorkerId} (h : s.Follows state)
    (hWork : s.work? lib worker = some t) :
    t.context.journal.lifecycle = s.context.journal.lifecycle ∧ t.Follows state := by
  obtain ⟨⟨report, crew⟩, hAdvance, rfl⟩ := Option.map_eq_some_iff.mp hWork
  obtain ⟨w, _, _, _, _, _, hAdds⟩ := Crew.stride_of_advance? hAdvance
  obtain ⟨hContext, _, hCondition⟩ := s.afterWork_frame worker report crew
  change (s.afterWork worker report crew).context.journal.lifecycle = _ ∧
    Follows (s.afterWork worker report crew) state
  have hController : (s.afterWork worker report crew).context.controller =
      s.context.controller := by rw [hContext]
  refine ⟨?_, h.frame hController hCondition⟩
  have hCalls : Journal.lifecycle (w.nextCalls.map .call) = [] := by
    rw [Worker.nextCalls]
    cases w.stage <;> rfl
  have hCrew : s.context.Adds { s.context with toCrew := crew } w.nextCalls [] [] := hAdds
  rw [hContext, hCrew.lifecycle_of_calls, hCalls, List.append_nil]

theorem Follows.act {action : Action σ} (h : s.Follows state)
    (hAct : s.act? lib audience action = some t) :
    ∃ shown next,
      Protocol.follow ((s.actionDeeds lib audience action).map (·.stimulus lib)) state =
        some (shown, next) ∧
      t.context.journal.lifecycle = s.context.journal.lifecycle ++ shown ∧ t.Follows next := by
  cases action with
  | execute => exact h.execute hAct
  | submit task =>
      cases hAct
      obtain ⟨hContext, _, hCondition⟩ := s.submit_frame task
      refine ⟨[], state, rfl, ?_, h.frame (by rw [hContext]) hCondition⟩
      rw [hContext]
      exact (List.append_nil _).symm
  | work worker =>
      obtain ⟨hLifecycle, hNext⟩ := h.work hAct
      refine ⟨[], state, rfl, ?_, hNext⟩
      rw [hLifecycle, List.append_nil]
  | disturb change =>
      cases hAct
      exact ⟨[], state, rfl, (List.append_nil _).symm, h.frame rfl rfl⟩

theorem Follows.replay {actions : List (Action σ)} (h : s.Follows state)
    (hReplay : replay? lib audience actions s = some t) :
    ∃ shown next,
      Protocol.follow ((replayDeeds lib audience actions s).map (·.stimulus lib)) state =
        some (shown, next) ∧
      t.context.journal.lifecycle = s.context.journal.lifecycle ++ shown ∧ t.Follows next := by
  induction actions generalizing s state with
  | nil =>
      cases hReplay
      exact ⟨[], state, rfl, (List.append_nil _).symm, h⟩
  | cons action rest ih =>
      obtain ⟨u, hAct, hRest⟩ := Option.bind_eq_some_iff.mp hReplay
      obtain ⟨shown, next, hFollow, hShown, hNext⟩ := h.act hAct
      obtain ⟨later, last, hFollowRest, hLater, hLast⟩ := ih hNext hRest
      refine ⟨shown ++ later, last, ?_, ?_, hLast⟩
      · rw [replayDeeds, hAct, List.map_append]
        exact Protocol.follow_append hFollow hFollowRest
      · rw [hLater, hShown, List.append_assoc]

/-- Whatever tasks a control thread executes, and whatever the vendor library answers, what is
entered of the lives of sessions is what the protocol answers to the same commands and reports. The
controller stands where the protocol does, and once the protocol is broken the control thread has
ended. -/
theorem replay_followsProtocol {vendor : σ} {interface : String} {actions : List (Action σ)}
    (hReplay : replay? lib audience actions (initial vendor interface) = some s) :
    let deeds := replayDeeds lib audience actions (initial vendor interface)
    ∃ state, Protocol.follow (deeds.map (·.stimulus lib)) (some {}) =
        some (s.context.journal.lifecycle, state) ∧
      (∀ p ∈ state, p.Describes s.context.controller) ∧
      (state = none → s.isClosed = true) := by
  have hInitial : Follows (initial vendor interface) (some {}) := by
    refine ⟨Controller.sound_initial interface, ?_, by simp⟩
    rintro _ ⟨⟩
    exact Protocol.Describes.stopped (c := (initial vendor interface).context.controller) rfl
  obtain ⟨shown, state, hFollow, hShown, hLast⟩ := hInitial.replay hReplay
  refine ⟨state, ?_, hLast.describes, hLast.closed⟩
  rw [hShown]
  exact hFollow

/-- A start that fails, a start that does not, a stop, and a report that nobody waits for: the
protocol is broken in the end, and the control thread has ended. -/
theorem replay_followsProtocol_unexpectedReport :
    ∃ s : System (Simulation SessionHandle),
      Protocol.follow
        [(.command (.subscribe ⟨7⟩), .error .busy), (.command (.start ⟨1⟩), .error .busy),
          (.command (.start ⟨2⟩), .ok ⟨1⟩), (.command (.stop ⟨3⟩), .ok ⟨2⟩),
          (.exitReport none false, .ok ⟨2⟩)] (some {}) =
        some (s.context.journal.lifecycle, none) ∧ s.isClosed = true := by
  let start : System (Simulation SessionHandle) :=
    initial { behaviour := { interfaces := [], bringUpError := some .busy } } "wlan0"
  let audience : Audience := { respond := fun _ _ => .accepted }
  let actions : List (Action (Simulation SessionHandle)) :=
    [.submit (.perform [.subscribe ⟨7⟩, .start ⟨1⟩]), .execute,
      .disturb fun vendor => { vendor with behaviour.bringUpError := none },
      .submit (.perform [.start ⟨2⟩, .stop ⟨3⟩]), .submit (.exitReport none false), .execute,
      .execute]
  let deeds := replayDeeds Simulation.library audience actions start
  let s := (replay? Simulation.library audience actions start).get (by decide +kernel)
  have hDeeds : deeds.map (·.stimulus Simulation.library) =
      [(.command (.subscribe ⟨7⟩), .error .busy), (.command (.start ⟨1⟩), .error .busy),
        (.command (.start ⟨2⟩), .ok ⟨1⟩), (.command (.stop ⟨3⟩), .ok ⟨2⟩),
        (.exitReport none false, .ok ⟨2⟩)] := by
    decide +kernel
  obtain ⟨state, hFollow, _, hClosed⟩ :=
    replay_followsProtocol (s := s) (Option.some_get _).symm
  rw [hDeeds] at hFollow
  obtain rfl : state = none := (Prod.mk.inj (Option.some.inj hFollow)).2.symm
  exact ⟨s, hFollow, hClosed rfl⟩

end System

end RadioLifecycle
