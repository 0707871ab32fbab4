import Mathlib.Logic.Basic
import RadioLifecycle.Controller.Command
import RadioLifecycle.Proofs.Journal.Bisimulation

/-!
Two radios with the same controller and the same workers keep these the same, whatever is asked of
both and whichever worker moves, as long as the libraries around them answer alike. Nothing that the
controller or a worker does depends on anything else: not on the journal, and not on how subscribers
respond.
-/

namespace RadioLifecycle

open Surroundings (Bisimulation)
open Vendor (Library SessionHandle InterfaceHandle WorkerId)

variable {σ₁ σ₂ : Type} {lib₁ : Library σ₁} {lib₂ : Library σ₂}
  {S : Surroundings σ₁ → Surroundings σ₂ → Prop}

namespace Radio

/-- Two radios have the same controller and the same workers, in related surroundings. -/
structure Matches (S : Surroundings σ₁ → Surroundings σ₂ → Prop) (r₁ : Radio σ₁) (r₂ : Radio σ₂) :
    Prop where
  controller : r₁.controller = r₂.controller
  workers : r₁.workers = r₂.workers
  surroundings : S r₁.toSurroundings r₂.toSurroundings

namespace Matches

variable {r₁ : Radio σ₁} {r₂ : Radio σ₂} {w₁ : Surroundings σ₁} {w₂ : Surroundings σ₂}

theorem within (h : r₁.Matches S r₂) (hWithin : S w₁ w₂) :
    (r₁.within w₁).Matches S (r₂.within w₂) :=
  ⟨h.controller, h.workers, hWithin⟩

theorem withController (h : r₁.Matches S r₂) (c : Controller) :
    Matches S { r₁ with controller := c } { r₂ with controller := c } :=
  ⟨rfl, h.workers, h.surroundings⟩

theorem observe (h : r₁.Matches S r₂) (event : TeardownEvent) :
    (r₁.observe event).Matches S (r₂.observe event) := by
  simp only [Radio.observe, h.controller]
  exact h.withController _

theorem note (h : r₁.Matches S r₂) (bisim : Bisimulation lib₁ lib₂ S) (n : Notice) :
    (r₁.note n).Matches S (r₂.note n) :=
  h.within (bisim.note h.surroundings n)

theorem announce (h : r₁.Matches S r₂) (bisim : Bisimulation lib₁ lib₂ S)
    (first second : Response) (event : Event) :
    (r₁.announce first event).Matches S (r₂.announce second event) := by
  simp only [Radio.announce, h.controller]
  exact h.within (Subscribers.broadcast_bisim _ _ event bisim first second h.surroundings)

theorem bindChip (h : r₁.Matches S r₂) (bisim : Bisimulation lib₁ lib₂ S)
    (interface : InterfaceHandle) :
    (r₁.bindChip interface).Matches S (r₂.bindChip interface) := by
  simp only [Radio.bindChip, h.controller]
  exact (h.withController _).note bisim _

theorem bindConfiguredChip (h : r₁.Matches S r₂) (bisim : Bisimulation lib₁ lib₂ S)
    (session : SessionHandle) :
    (r₁.bindConfiguredChip lib₁ session).Matches S (r₂.bindConfiguredChip lib₂ session) := by
  obtain ⟨found, v₁, v₂, hFirst, hSecond, hNext⟩ :=
    (Vendor.findInterface_bisim bisim session r₂.controller.interface h.surroundings).split
  simp only [Radio.bindConfiguredChip, h.controller, hFirst, hSecond]
  cases found with
  | none => exact (h.within hNext).note bisim _
  | some interface => exact (h.within hNext).bindChip bisim interface

theorem adoptSession (h : r₁.Matches S r₂) (bisim : Bisimulation lib₁ lib₂ S) (session : Session)
    (handle : SessionHandle) :
    (r₁.adoptSession lib₁ session handle).Matches S (r₂.adoptSession lib₂ session handle) := by
  have hWorker : r₁.nextWorker = r₂.nextWorker := by simp only [Crew.nextWorker, h.workers]
  simp only [Radio.adoptSession, Crew.spawn, h.controller, h.workers, hWorker]
  refine bindConfiguredChip ?_ bisim handle
  exact ⟨rfl, rfl, h.surroundings⟩

theorem openSession (h : r₁.Matches S r₂) (bisim : Bisimulation lib₁ lib₂ S) :
    (r₁.openSession lib₁).1 = (r₂.openSession lib₂).1 ∧
      (r₁.openSession lib₁).2.Matches S (r₂.openSession lib₂).2 := by
  have hNoted := h.note bisim .bringingUp
  obtain ⟨outcome, v₁, v₂, hFirst, hSecond, hNext⟩ := (bisim.bringUp hNoted.surroundings).split
  simp only [Radio.openSession, Session.acquire, hFirst, hSecond]
  cases outcome with
  | error status => exact ⟨rfl, (hNoted.within hNext).note bisim _⟩
  | ok handle => exact ⟨rfl, (hNoted.within hNext).adoptSession bisim _ handle⟩

theorem start (h : r₁.Matches S r₂) (bisim : Bisimulation lib₁ lib₂ S) (first second : Response)
    (command : CommandId) :
    (r₁.start lib₁ first command).Matches S (r₂.start lib₂ second command) := by
  simp only [Radio.start, h.controller]
  cases r₂.controller.phase with
  | started => exact h.announce bisim first second _
  | stopping => exact (h.note bisim _).announce bisim first second _
  | stopped =>
      have hOpen := h.openSession bisim
      generalize r₁.openSession lib₁ = opened₁ at hOpen ⊢
      generalize r₂.openSession lib₂ = opened₂ at hOpen ⊢
      obtain ⟨outcome, r₁'⟩ := opened₁
      obtain ⟨_, r₂'⟩ := opened₂
      obtain ⟨rfl, hNext⟩ := hOpen
      cases outcome with
      | error failure => exact hNext.announce bisim first second _
      | ok => exact (hNext.note bisim _).announce bisim first second _

theorem beginTeardown (h : r₁.Matches S r₂) (bisim : Bisimulation lib₁ lib₂ S)
    (command : CommandId) :
    (r₁.beginTeardown command).Matches S (r₂.beginTeardown command) := by
  have hTorn {v₁ : Surroundings σ₁} {v₂ : Surroundings σ₂} (hNext : S v₁ v₂) (worker : WorkerId) :
      Matches S
        { toCrew := (r₁.within v₁).toCrew.requestTeardown worker
          controller := r₂.controller.teardownBegun command }
        { toCrew := (r₂.within v₂).toCrew.requestTeardown worker
          controller := r₂.controller.teardownBegun command } := by
    refine ⟨rfl, ?_, hNext⟩
    simp only [Crew.requestTeardown, Radio.within, h.workers]
  simp only [Radio.beginTeardown, h.controller]
  cases r₂.controller.chip with
  | none =>
      split
      · exact hTorn h.surroundings _
      · exact ⟨rfl, h.workers, h.surroundings⟩
  | some chip =>
      have hNext := chip.invalidate_bisim bisim h.surroundings
      split
      · exact hTorn hNext _
      · exact ⟨rfl, h.workers, hNext⟩

theorem finish (h : r₁.Matches S r₂) (bisim : Bisimulation lib₁ lib₂ S)
    (first second : Response) : (r₁.finish first).Matches S (r₂.finish second) := by
  simp only [Radio.finish, h.controller]
  split
  · exact ((h.withController _).note bisim _).announce bisim first second _
  · exact h

theorem stop (h : r₁.Matches S r₂) (bisim : Bisimulation lib₁ lib₂ S) (first second : Response)
    (command : CommandId) :
    (r₁.stop lib₁ first command).Matches S (r₂.stop lib₂ second command) := by
  simp only [Radio.stop, h.controller]
  cases r₂.controller.phase with
  | stopped => exact h.announce bisim first second _
  | stopping => exact h
  | started =>
      cases r₂.controller.session.handle with
      | error _ => exact h.note bisim _
      | ok handle =>
          have hBegun := (h.note bisim (.cleaningUp command)).beginTeardown bisim command
          exact ((hBegun.within (bisim.cleanup hBegun.surroundings handle)).observe _).finish
            bisim first second

theorem onLoopExited (h : r₁.Matches S r₂) (bisim : Bisimulation lib₁ lib₂ S)
    (first second : Response) (requested : Bool) :
    (r₁.onLoopExited first requested).1 = (r₂.onLoopExited second requested).1 ∧
      (r₁.onLoopExited first requested).2.Matches S (r₂.onLoopExited second requested).2 := by
  simp only [Radio.onLoopExited, h.controller]
  split
  · exact ⟨rfl, ((h.withController _).observe _).finish bisim first second⟩
  · refine ⟨rfl, ?_⟩
    simp only [Radio.abandon, h.controller]
    exact (h.note bisim _).within (bisim.enter (h.note bisim _).surroundings _)

theorem onChip (h : r₁.Matches S r₂) (bisim : Bisimulation lib₁ lib₂ S) (first second : Response)
    (id : Option ChipId) (request : Chip.Request) :
    (r₁.onChip lib₁ first id request).1 = (r₂.onChip lib₂ second id request).1 ∧
      (r₁.onChip lib₁ first id request).2.Matches S (r₂.onChip lib₂ second id request).2 := by
  simp only [Radio.onChip, h.controller]
  cases r₂.controller.meantChip? id with
  | none => exact ⟨rfl, h⟩
  | some chip =>
      obtain ⟨hAnswer, hChip, hNext⟩ :=
        chip.perform_bisim bisim first second true request h.surroundings
      simp only [hAnswer, hChip, true_and]
      refine ⟨?_, h.workers, hNext⟩
      simp only [Radio.within, h.controller]

/-- A command has the same answer and does the same. -/
theorem perform (h : r₁.Matches S r₂) (bisim : Bisimulation lib₁ lib₂ S) (first second : Response)
    (command : Command) :
    (r₁.perform lib₁ first command).1 = (r₂.perform lib₂ second command).1 ∧
      (r₁.perform lib₁ first command).2.Matches S (r₂.perform lib₂ second command).2 := by
  cases command with
  | start command => exact ⟨rfl, h.start bisim first second command⟩
  | stop command => exact ⟨rfl, h.stop bisim first second command⟩
  | onChip id request =>
      obtain ⟨hAnswer, hNext⟩ := h.onChip bisim first second id request
      exact ⟨congrArg Answer.ofChip hAnswer, hNext⟩
  | subscribe s | unsubscribe s =>
      simp only [Radio.perform, h.controller, true_and]
      exact h.withController _
  | phase | isStarted | teardown | currentChip | hasChip =>
      simp only [Radio.perform, h.controller, true_and]
      exact h

theorem performAll (h : r₁.Matches S r₂) (bisim : Bisimulation lib₁ lib₂ S)
    (first second : Response) (commands : List Command) :
    (r₁.performAll lib₁ first commands).1 = (r₂.performAll lib₂ second commands).1 ∧
      (r₁.performAll lib₁ first commands).2.Matches S
        (r₂.performAll lib₂ second commands).2 := by
  induction commands generalizing r₁ r₂ with
  | nil => exact ⟨rfl, h⟩
  | cons command rest ih =>
      obtain ⟨hAnswer, hNext⟩ := h.perform bisim first second command
      obtain ⟨hAnswers, hLast⟩ := ih hNext
      exact ⟨congrArg₂ List.cons hAnswer hAnswers, hLast⟩

end Matches

end Radio

/-- A worker can make a step on both sides or on neither, and then it makes the same one. -/
theorem Worker.advance?_bisim (bisim : Bisimulation lib₁ lib₂ S) {w₁ : Surroundings σ₁}
    {w₂ : Surroundings σ₂} (h : S w₁ w₂) (worker : Worker) :
    Option.Rel (fun p q => p.1 = q.1 ∧ Surroundings.Alongside S p.2 q.2)
      (worker.advance? lib₁ w₁) (worker.advance? lib₂ w₂) := by
  rw [advance?, advance?]
  cases worker.stage with
  | spawned => exact .some ⟨rfl, rfl, bisim.enterLoop h worker.id worker.session⟩
  | inLoop =>
      obtain ⟨progress, v₁, v₂, hFirst, hSecond, hNext⟩ := (bisim.runLoop h worker.id).split
      simp only [hFirst, hSecond]
      cases progress with
      | waiting => exact .none
      | running | returned => exact .some ⟨rfl, rfl, hNext⟩
  | returned | sampled => exact .some ⟨rfl, rfl, h⟩
  | finished => exact .none

theorem Crew.advance?_bisim (bisim : Bisimulation lib₁ lib₂ S) {r₁ : Radio σ₁} {r₂ : Radio σ₂}
    (h : r₁.Matches S r₂) (id : WorkerId) :
    Option.Rel (fun p q => p.1 = q.1 ∧
        Radio.Matches S { r₁ with toCrew := p.2 } { r₂ with toCrew := q.2 })
      (r₁.toCrew.advance? lib₁ id) (r₂.toCrew.advance? lib₂ id) := by
  rw [advance?, advance?, h.workers]
  cases r₂.workers.find? (·.id = id) with
  | none => exact .none
  | some worker =>
      have hStep := worker.advance?_bisim bisim h.surroundings
      dsimp only
      generalize worker.advance? lib₁ r₁.toSurroundings = step₁ at hStep ⊢
      generalize worker.advance? lib₂ r₂.toSurroundings = step₂ at hStep ⊢
      cases hStep with
      | none => exact .none
      | @some p q hSame =>
          obtain ⟨report, moved, v₁⟩ := p
          obtain ⟨_, _, v₂⟩ := q
          obtain ⟨rfl, rfl, hNext⟩ := hSame
          exact .some ⟨rfl, ⟨h.controller, rfl, hNext⟩⟩

end RadioLifecycle
