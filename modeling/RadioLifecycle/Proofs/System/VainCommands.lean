import RadioLifecycle.Proofs.System.Script
import RadioLifecycle.Proofs.ControlThread.Moves
import RadioLifecycle.Proofs.Simulation.Counts

/-!
Vain commands in runs of the system. What a run does with the radio is a script without anything put
in. So vain commands can be put in anywhere between two calls on the controller, also between two
commands of one task, and the run stays what it was: every answer, every verdict and every step of a
worker is the same, and so are the controller and the workers at the end. All that is added are the
failing calls and the broadcasts of the commands that were put in.
-/

namespace RadioLifecycle

open Vendor (Library SessionHandle)

variable {σ : Type}

namespace Radio

variable {lib : Library σ} {respond : Response}

theorem play?_append (first second : List (Moment σ)) (r : Radio σ) :
    r.play? lib respond (first ++ second) = (r.play? lib respond first).bind fun played =>
      (played.radio.play? lib respond second).map fun more =>
        ⟨played.effects ++ more.effects, played.extras ++ more.extras, more.radio⟩ := by
  induction first generalizing r with
  | nil => simp [play?]
  | cons moment rest ih =>
      cases moment with
      | own occurrence =>
          simp only [List.cons_append, play?, ih]
          cases r.undergo? lib respond occurrence with
          | none => rfl
          | some step =>
              simp only [Option.bind_some]
              cases play? lib respond rest step.2 with
              | none => rfl
              | some played => simp [Function.comp_def]
      | extra lib' respond' command =>
          simp only [List.cons_append, play?, ih]
          generalize play? lib respond rest _ = answer
          cases answer with
          | none => rfl
          | some played => simp [Function.comp_def]

/-- Commands carried out one after another. -/
theorem play?_commands (commands : List Command) (r : Radio σ) :
    r.play? lib respond (commands.map fun command => .own (.call (.command command))) =
      some { effects := (r.performAll lib respond commands).1.map .answered
             radio := (r.performAll lib respond commands).2 } := by
  induction commands generalizing r with
  | nil => rfl
  | cons command rest ih =>
      simp only [List.map_cons, play?, undergo?, Option.bind_some, ih]
      rfl

end Radio

/-- What happens to the radio when a task is executed. -/
def Task.occurrences : Task → List (Occurrence σ)
  | .perform commands => commands.map fun command => .call (.command command)
  | .exitReport worker requested => [.call (.exitReport worker requested)]
  | .visitChip _ => [.visit]
  | .client _ | .halt => []

namespace System

/-- What happens to the radio in an action. -/
def actionOccurrences (s : System σ) : Action σ → List (Occurrence σ)
  | .submit _ => []
  | .execute =>
    match s.queue with
    | [] => []
    | (_, task) :: _ => task.occurrences
  | .work worker => [.work worker]
  | .disturb change => [.disturb change]

/-- What happens to the radio in a replay of actions. -/
def occurrences (lib : Library σ) (audience : Audience) :
    List (Action σ) → System σ → List (Occurrence σ)
  | [], _ => []
  | action :: rest, s =>
    s.actionOccurrences action ++
      ((s.act? lib audience action).map (occurrences lib audience rest)).getD []

variable {lib : Library σ} {audience : Audience} {s t : System σ}

/-- A task does to the radio what its occurrences do. -/
theorem play?_task (task : Task) (r : Radio σ) :
    ∃ effects, r.play? lib audience.respond (task.occurrences.map .own) =
      some { effects, radio := (task.run lib audience r).context } := by
  cases task with
  | perform commands =>
      refine ⟨(r.performAll lib audience.respond commands).1.map .answered, ?_⟩
      rw [Task.occurrences, List.map_map]
      exact Radio.play?_commands commands r
  | exitReport worker requested => exact ⟨_, rfl⟩
  | visitChip requests =>
      have hContext : (Task.run lib audience (.visitChip requests) r).context =
          r.within (r.toSurroundings.enter (.visit r.controller.currentChip)) := by
        simp only [Task.run, Task.act]
        cases r.controller.currentChip <;> rfl
      rw [hContext]
      exact ⟨[.visited r.controller.currentChip], rfl⟩
  | client operations | halt => exact ⟨[], rfl⟩

theorem play?_action {action : Action σ} (h : s.act? lib audience action = some t) :
    ∃ effects, s.context.play? lib audience.respond ((s.actionOccurrences action).map .own) =
      some { effects, radio := t.context } := by
  cases action with
  | submit task =>
      cases h
      exact ⟨[], by rw [(s.submit_frame task).1]; rfl⟩
  | execute =>
      obtain ⟨begun, hBegun, rfl⟩ := Option.map_eq_some_iff.mp h
      obtain ⟨-, -, ticket, task, rest, hQueue, rfl⟩ := ControlThread.begin?_eq_some hBegun
      rw [ControlThread.complete_context, actionOccurrences, hQueue]
      exact play?_task task s.context
  | work worker =>
      obtain ⟨⟨report, crew⟩, hStep, rfl⟩ := Option.map_eq_some_iff.mp h
      refine ⟨[.moved report], ?_⟩
      have hContext : (s.afterWork worker report crew).context =
          { s.context with toCrew := crew } := by
        cases report with
        | none => rfl
        | some requested => exact (ControlThread.submit_frame _ _).1
      simp only [actionOccurrences, List.map_cons, List.map_nil, Radio.play?, Radio.undergo?, hStep,
        hContext]
      rfl
  | disturb change =>
      cases h
      exact ⟨[.disturbed], rfl⟩

/-- A replay does to the radio what its occurrences do, in whatever way its tasks were submitted. -/
theorem play?_of_replay? {actions : List (Action σ)}
    (h : replay? lib audience actions s = some t) :
    ∃ effects, s.context.play? lib audience.respond
        ((occurrences lib audience actions s).map .own) =
      some { effects, radio := t.context } := by
  induction actions generalizing s with
  | nil =>
      cases h
      exact ⟨[], rfl⟩
  | cons action rest ih =>
      obtain ⟨u, hAct, hRest⟩ := Option.bind_eq_some_iff.mp h
      obtain ⟨effects, hPlayed⟩ := play?_action hAct
      obtain ⟨more, hMore⟩ := ih hRest
      refine ⟨effects ++ more, ?_⟩
      rw [occurrences, hAct, List.map_append, Radio.play?_append, hPlayed]
      simp only [Option.map_some, Option.getD_some, Option.bind_some, hMore]
      rfl

/-- Only actions that disturb the library do so in the course of a replay. -/
theorem disturb_mem_of_occurrences {actions : List (Action σ)} {change : σ → σ}
    (h : .disturb change ∈ occurrences lib audience actions s) : .disturb change ∈ actions := by
  induction actions generalizing s with
  | nil => cases h
  | cons action rest ih =>
      rw [occurrences, List.mem_append] at h
      rcases h with hHere | hLater
      · have hAction : action = .disturb change := by
          cases action with
          | submit task => cases hHere
          | execute =>
              rw [actionOccurrences] at hHere
              split at hHere
              · cases hHere
              · next task _ _ => cases task <;> simp [Task.occurrences] at hHere
          | work worker => simp [actionOccurrences] at hHere
          | disturb change' => simpa [actionOccurrences, eq_comm] using hHere
        rw [hAction]
        exact List.mem_cons_self
      · cases hAct : s.act? lib audience action with
        | none => simp [hAct] at hLater
        | some u =>
            rw [hAct] at hLater
            exact List.mem_cons_of_mem _ (ih hLater)

/-- A vain command leaves the controller and the workers as they were, calls the library at most to
see it fail to come up, and tells subscribers of one event at most. So vain commands can be put into
a run of the system in any number and between any two calls on the controller, as long as no answer
of the library depends on its having failed to come up for one of them. Every occurrence of the run
is still possible then and has the same effect, and the controller and the workers are the same at
the end. The journal has its entries in the same order, remarks on endings aside, and in addition
those of the commands that were put in. A run of the system in which they are in the tasks of the
queue, and which comes to the same otherwise, ends with the radio of this script. -/
theorem replay_ignoresVain {same : σ → σ → Prop} (equivalent : Equivalence same)
    (respects : lib.Respects same) {vendor : σ} {interface : String} {actions : List (Action σ)}
    (h : replay? lib audience actions (initial vendor interface) = some t)
    (unseen : ∀ change, .disturb change ∈ actions →
      ∀ s s', same s s' → same (change s) (change s')) :
    let start : Radio σ := (initial vendor interface).context
    let own := (occurrences lib audience actions (initial vendor interface)).map Moment.own
    (∀ (lib' : Library σ) (respond : Response) (r : Radio σ) command calls event,
      r.Vain lib' command calls event →
        r.SameState (r.perform lib' respond command).2 ∧
        r.Adds (r.perform lib' respond command).2 calls
          ((event.map r.controller.subscribers.deliveries).getD []) []) ∧
    ∀ (respond : Response) (script : List (Moment σ)),
      script.filter Moment.isOwn = own → start.Harmless same lib respond script →
      ∃ effects extras r,
        start.play? lib audience.respond own = some { effects, radio := t.context } ∧
        start.play? lib respond script = some { effects, extras, radio := r } ∧
        t.context.SameState r ∧ same t.context.vendor r.vendor ∧
        t.context.journal.unremarked.Sublist r.journal.unremarked ∧
        r.journal.unremarked.Perm
          (t.context.journal ++ extras.flatMap Deed.entries).unremarked ∧
        (∀ d ∈ extras, ∃ lib' command calls event, d.cause = .command command ∧
          d.before.Vain lib' command calls event ∧ d.before.SameState d.after ∧
          d.before.Adds d.after calls
            ((event.map d.before.controller.subscribers.deliveries).getD []) []) ∧
        ∀ operations actions' t',
          replay? lib ⟨respond, operations⟩ actions' (initial vendor interface) = some t' →
          occurrences lib ⟨respond, operations⟩ actions' (initial vendor interface) =
            script.map Moment.occurrence →
          (∀ lib' respond' command, .extra lib' respond' command ∈ script →
            lib' = lib ∧ respond' = respond) →
          t'.context = r := by
  intro start own
  refine ⟨fun lib' respond r command calls event vain => vain.leaves respond, ?_⟩
  intro respond script hOwn harmless
  obtain ⟨effects, hPlayed⟩ := play?_of_replay? h
  have hSame : start.Matches (Surroundings.Exceeds same []) start :=
    ⟨rfl, rfl, equivalent.refl _, .refl _, by simp⟩
  have hUnseen : ∀ change, .own (.disturb change) ∈ script →
      ∀ s s', same s s' → same (change s) (change s') := by
    intro change hMember
    have hFiltered : Moment.own (.disturb change) ∈ script.filter Moment.isOwn :=
      List.mem_filter.mpr ⟨hMember, rfl⟩
    rw [hOwn] at hFiltered
    obtain ⟨occurrence, hOccurs, hSame⟩ := List.mem_map.mp hFiltered
    cases hSame
    exact unseen change (disturb_mem_of_occurrences hOccurs)
  have hBeside := hSame.play? equivalent respects audience.respond respond hUnseen harmless
  rw [hOwn, hPlayed] at hBeside
  generalize hWith : start.play? lib respond script = with? at hBeside
  cases hBeside with
  | @some _ played hBeside =>
      obtain ⟨rfl, hRadio⟩ := hBeside
      refine ⟨_, _, _, hPlayed, rfl, ⟨hRadio.controller.symm, hRadio.workers.symm⟩,
        hRadio.surroundings.vendor, hRadio.surroundings.kept, hRadio.surroundings.gained,
        harmless.extras hWith, ?_⟩
      intro operations actions' t' hReplay hOccurrences hMeet
      obtain ⟨effects', hAll⟩ := play?_of_replay? hReplay
      have hRadios := Radio.play?_occurrences hMeet start
      rw [hWith, ← hOccurrences, hAll] at hRadios
      exact Option.some.inj hRadios

/-- A task starts and stops a session. Before it, between its two commands and after it, one vain
command of each kind is put in. -/
theorem replay_ignoresVain_eachKind :
    let respond : Response := fun _ _ => .accepted
    let refusing : Library (Simulation SessionHandle) :=
      { Simulation.library with
        bringUp := fun s => (.error .busy, [], { s with calls.bringUp := s.calls.bringUp + 1 }) }
    let actions : List (Action (Simulation SessionHandle)) :=
      [.submit (.perform [.start ⟨1⟩, .stop ⟨2⟩]), .execute]
    let script : List (Moment (Simulation SessionHandle)) :=
      [.extra refusing respond (.start ⟨3⟩), .extra Simulation.library respond (.stop ⟨4⟩),
        .own (.call (.command (.start ⟨1⟩))), .extra Simulation.library respond (.start ⟨5⟩),
        .own (.call (.command (.stop ⟨2⟩))), .extra Simulation.library respond (.start ⟨6⟩),
        .extra Simulation.library respond (.stop ⟨7⟩)]
    let start : System (Simulation SessionHandle) := initial { behaviour := {} } "wlan0"
    ∃ t played, replay? Simulation.library ⟨respond, fun _ _ => []⟩ actions start = some t ∧
      start.context.play? Simulation.library respond script = some played ∧
      t.context.SameState played.radio ∧ t.context.vendor.Recounted played.radio.vendor ∧
      played.extras.length = 5 := by
  intro respond refusing actions script start
  obtain ⟨t, h⟩ : ∃ t, replay? Simulation.library ⟨respond, fun _ _ => []⟩ actions start = some t :=
    Option.isSome_iff_exists.mp (by decide +kernel)
  have hOwn : script.filter Moment.isOwn =
      (occurrences Simulation.library ⟨respond, fun _ _ => []⟩ actions start).map .own := by
    simp only [actions, occurrences, act?, Option.map_some, Option.getD_some]
    rfl
  have hHarmless : start.context.Harmless Simulation.Recounted Simulation.library respond script := by
    refine ⟨⟨_, _, .failed ⟨3⟩ .busy rfl rfl, fun _ => ⟨_, rfl⟩⟩,
      ⟨_, _, .echoed ⟨4⟩ rfl, fun h => absurd rfl h⟩, ?_⟩
    rintro _ _ hStart
    obtain ⟨-, rfl⟩ := Prod.mk.inj (Option.some.inj hStart)
    refine ⟨⟨_, _, .repeated ⟨5⟩ (by decide +kernel), fun h => absurd rfl h⟩, ?_⟩
    rintro _ _ hStop
    obtain ⟨-, rfl⟩ := Prod.mk.inj (Option.some.inj hStop)
    exact ⟨⟨_, _, .refused ⟨6⟩ (by decide +kernel), fun h => absurd rfl h⟩,
      ⟨_, _, .absorbed ⟨7⟩ (by decide +kernel), fun h => absurd rfl h⟩, trivial⟩
  obtain ⟨effects, extras, r, -, hPlayed, hSame, hVendor, -⟩ :=
    (replay_ignoresVain Simulation.equivalence_recounted Simulation.library_respects h
      (fun change hMember => by simp [actions] at hMember)).2 respond script hOwn hHarmless
  refine ⟨t, _, h, hPlayed, hSame, hVendor, ?_⟩
  have hFive : (start.context.play? Simulation.library respond script).map (·.extras.length) =
      some 5 := by decide +kernel
  rw [hPlayed] at hFive
  exact Option.some.inj hFive

end System

end RadioLifecycle
