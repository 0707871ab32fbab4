import RadioLifecycle.Proofs.Controller.Bisimulation
import RadioLifecycle.Proofs.Controller.Vain
import RadioLifecycle.Proofs.Journal.Surplus
import RadioLifecycle.Proofs.System.Run

/-!
What happens to a radio, one thing after the other: calls on the controller, looks at its chip,
steps of workers and changes of the vendor library. A script is a list of such occurrences with
commands put in between, each of them carried out with a library and with subscribers of its own. If
the commands that were put in are vain where they stand, everything else comes to the same with and
without them, also when it can happen at all.
-/

namespace RadioLifecycle

open Surroundings (Exceeds)
open Vendor (Library WorkerId)

variable {σ : Type}

/-- One thing that happens to a radio. -/
inductive Occurrence (σ : Type) where
  | call (cause : Cause)
  /-- A client's task looks at the current chip. -/
  | visit
  | work (worker : WorkerId)
  /-- The vendor library changes by itself. -/
  | disturb (change : σ → σ)

/-- What an occurrence comes to, beside what it does to the radio. -/
inductive Effect where
  | answered (answer : Answer)
  | judged (verdict : Verdict)
  | visited (chip : Option ChipId)
  | moved (report : Option Bool)
  | disturbed

/-- One moment of a script. -/
inductive Moment (σ : Type) where
  | own (occurrence : Occurrence σ)
  /-- A command is put in, to be carried out with this library and these responses. -/
  | extra (library : Library σ) (respond : Response) (command : Command)

def Moment.isOwn : Moment σ → Bool
  | .own _ => true
  | .extra _ _ _ => false

/-- What happens to the radio in a moment, be it put in or not. -/
def Moment.occurrence : Moment σ → Occurrence σ
  | .own occurrence => occurrence
  | .extra _ _ command => .call (.command command)

@[simp]
theorem Moment.occurrence_own (occurrence : Occurrence σ) :
    (Moment.own occurrence).occurrence = occurrence :=
  rfl

@[simp]
theorem Moment.occurrence_extra (lib : Library σ) (respond : Response) (command : Command) :
    (Moment.extra lib respond command).occurrence = .call (.command command) :=
  rfl

/-- What came of a script: the effects of its own occurrences, the calls that were put in, and the
radio at its end. -/
structure Played (σ : Type) where
  effects : List Effect := []
  extras : List (Deed σ) := []
  radio : Radio σ

namespace Radio

def undergo? (lib : Library σ) (respond : Response) (r : Radio σ) :
    Occurrence σ → Option (Effect × Radio σ)
  | .call (.command command) =>
    let (answer, r) := r.perform lib respond command
    some (.answered answer, r)
  | .call (.exitReport _ requested) =>
    let (verdict, r) := r.onLoopExited respond requested
    some (.judged verdict, r)
  | .visit =>
    let chip := r.controller.currentChip
    some (.visited chip, r.within (r.toSurroundings.enter (.visit chip)))
  | .work worker =>
    (r.toCrew.advance? lib worker).map fun (report, crew) =>
      (.moved report, { r with toCrew := crew })
  | .disturb change => some (.disturbed, { r with vendor := change r.vendor })

/-- Let a script happen, if every occurrence of it is possible in its turn. -/
def play? (lib : Library σ) (respond : Response) : List (Moment σ) → Radio σ → Option (Played σ)
  | [], r => some { radio := r }
  | .own occurrence :: rest, r =>
    (r.undergo? lib respond occurrence).bind fun (effect, r) =>
      (play? lib respond rest r).map fun played =>
        { played with effects := effect :: played.effects }
  | .extra lib' respond' command :: rest, r =>
    let after := (r.perform lib' respond' command).2
    (play? lib respond rest after).map fun played =>
      { played with extras := ⟨.command command, r, after⟩ :: played.extras }

/-- The commands that are put into a script are vain where they stand, and a library that was asked
to come up for one of them goes on as if it had not. -/
def Harmless (same : σ → σ → Prop) (lib : Library σ) (respond : Response) :
    List (Moment σ) → Radio σ → Prop
  | [], _ => True
  | .own occurrence :: rest, r =>
    ∀ effect r', r.undergo? lib respond occurrence = some (effect, r') →
      Harmless same lib respond rest r'
  | .extra lib' respond' command :: rest, r =>
    let after := (r.perform lib' respond' command).2
    (∃ calls event, r.Vain lib' command calls event ∧
        (calls ≠ [] → same r.vendor after.vendor)) ∧
      Harmless same lib respond rest after

variable {same : σ → σ → Prop} {lib : Library σ} {surplus : Journal} {r₁ r₂ : Radio σ}

/-- An occurrence is possible on both sides or on neither, and has the same effect. -/
theorem Matches.undergo? (h : r₁.Matches (Exceeds same surplus) r₂) (respects : lib.Respects same)
    (first second : Response) {occurrence : Occurrence σ}
    (unseen : ∀ change, occurrence = .disturb change →
      ∀ s s', same s s' → same (change s) (change s')) :
    Option.Rel (fun p q => p.1 = q.1 ∧ p.2.Matches (Exceeds same surplus) q.2)
      (r₁.undergo? lib first occurrence) (r₂.undergo? lib second occurrence) := by
  have bisim := Surroundings.exceeds_bisimulation respects surplus
  cases occurrence with
  | call cause =>
      cases cause with
      | command command =>
          obtain ⟨hAnswer, hNext⟩ := h.perform bisim first second command
          exact .some ⟨congrArg Effect.answered hAnswer, hNext⟩
      | exitReport worker requested =>
          obtain ⟨hVerdict, hNext⟩ := h.onLoopExited bisim first second requested
          exact .some ⟨congrArg Effect.judged hVerdict, hNext⟩
  | visit =>
      simp only [Radio.undergo?, h.controller]
      exact .some ⟨rfl, h.within (bisim.enter h.surroundings _)⟩
  | work worker =>
      have hStep := Crew.advance?_bisim bisim h worker
      simp only [Radio.undergo?]
      generalize r₁.toCrew.advance? lib worker = step₁ at hStep ⊢
      generalize r₂.toCrew.advance? lib worker = step₂ at hStep ⊢
      cases hStep with
      | none => exact .none
      | some hSame => exact .some ⟨congrArg Effect.moved hSame.1, hSame.2⟩
  | disturb change =>
      have hVendor := unseen change rfl _ _ h.surroundings.vendor
      exact .some ⟨rfl, h.controller, h.workers, hVendor, h.surroundings.kept,
        h.surroundings.gained⟩

/-- A vain command that is carried out on the second side alone adds its entries to the surplus. -/
theorem Matches.extra (h : r₁.Matches (Exceeds same surplus) r₂) (equivalent : Equivalence same)
    {lib' : Library σ} {command : Command} {calls : List Vendor.Call} {event : Option Event}
    (vain : r₂.Vain lib' command calls event) (respond' : Response)
    (unseen : calls ≠ [] → same r₂.vendor (r₂.perform lib' respond' command).2.vendor) :
    r₁.Matches (Exceeds same (surplus ++
        Deed.entries ⟨.command command, r₂, (r₂.perform lib' respond' command).2⟩))
      (r₂.perform lib' respond' command).2 := by
  obtain ⟨⟨hController, hWorkers⟩, entries, hJournal, -, -, -⟩ := vain.leaves respond'
  refine ⟨h.controller.trans hController.symm, h.workers.trans hWorkers.symm, ?_⟩
  have hSame : same r₂.vendor (r₂.perform lib' respond' command).2.vendor := by
    by_cases hCalls : calls = []
    · subst hCalls
      rw [vain.vendor respond']
      exact equivalent.refl _
    · exact unseen hCalls
  have hMore := h.surroundings.more (equivalent.trans h.surroundings.vendor hSame) entries
  rw [Deed.entries_of_journal hJournal]
  rwa [← hJournal] at hMore

/-- With and without the vain commands that are put into it, a script comes to the same. -/
theorem Matches.play? (h : r₁.Matches (Exceeds same surplus) r₂) (equivalent : Equivalence same)
    (respects : lib.Respects same) (first second : Response) {script : List (Moment σ)}
    (unseen : ∀ change, .own (.disturb change) ∈ script →
      ∀ s s', same s s' → same (change s) (change s'))
    (harmless : r₂.Harmless same lib second script) :
    Option.Rel (fun p q => p.effects = q.effects ∧
        p.radio.Matches (Exceeds same (surplus ++ q.extras.flatMap Deed.entries)) q.radio)
      (r₁.play? lib first (script.filter Moment.isOwn)) (r₂.play? lib second script) := by
  induction script generalizing r₁ r₂ surplus with
  | nil => exact .some ⟨rfl, by simpa using h⟩
  | cons moment rest ih =>
      have hUnseen : ∀ change, .own (.disturb change) ∈ rest →
          ∀ s s', same s s' → same (change s) (change s') :=
        fun change hMember => unseen change (List.mem_cons_of_mem _ hMember)
      cases moment with
      | own occurrence =>
          have hStep := h.undergo? respects first second
            fun change (hChange : occurrence = .disturb change) =>
              unseen change (by simp [hChange])
          rw [List.filter_cons_of_pos rfl, Radio.play?, Radio.play?]
          generalize r₁.undergo? lib first occurrence = step₁ at hStep ⊢
          generalize hSecond : r₂.undergo? lib second occurrence = step₂ at hStep ⊢
          cases hStep with
          | none => exact .none
          | @some p q hSame =>
              obtain ⟨effect, r₁'⟩ := p
              obtain ⟨_, r₂'⟩ := q
              obtain ⟨rfl, hNext⟩ := hSame
              have hRest := ih hNext hUnseen (harmless effect r₂' hSecond)
              simp only [Option.bind_some]
              generalize r₁'.play? lib first (rest.filter Moment.isOwn) = rest₁ at hRest ⊢
              generalize r₂'.play? lib second rest = rest₂ at hRest ⊢
              cases hRest with
              | none => exact .none
              | some hLast => exact .some ⟨congrArg (effect :: ·) hLast.1, hLast.2⟩
      | extra lib' respond' command =>
          obtain ⟨⟨calls, event, vain, hSame⟩, hHarmless⟩ := harmless
          have hRest := ih (h.extra equivalent vain respond' hSame) hUnseen hHarmless
          rw [List.filter_cons_of_neg (by simp [Moment.isOwn]), Radio.play?]
          generalize r₁.play? lib first (rest.filter Moment.isOwn) = rest₁ at hRest ⊢
          generalize Radio.play? lib second rest _ = rest₂ at hRest ⊢
          cases hRest with
          | none => exact .none
          | some hLast =>
              refine .some ⟨hLast.1, ?_⟩
              rw [List.flatMap_cons, ← List.append_assoc]
              exact hLast.2

/-- Every command that was put into a script was vain where it stood. -/
theorem Harmless.extras {respond : Response} {script : List (Moment σ)} {r : Radio σ}
    (harmless : r.Harmless same lib respond script) {played : Played σ}
    (h : r.play? lib respond script = some played) :
    ∀ d ∈ played.extras, ∃ lib' command calls event, d.cause = .command command ∧
      d.before.Vain lib' command calls event ∧ d.before.SameState d.after ∧
      d.before.Adds d.after calls
        ((event.map d.before.controller.subscribers.deliveries).getD []) [] := by
  induction script generalizing r played with
  | nil =>
      cases h
      simp
  | cons moment rest ih =>
      cases moment with
      | own occurrence =>
          obtain ⟨⟨effect, r'⟩, hStep, hPlayed⟩ := Option.bind_eq_some_iff.mp h
          obtain ⟨played', hRest, rfl⟩ := Option.map_eq_some_iff.mp hPlayed
          have hExtras := ih (harmless effect r' hStep) hRest
          exact hExtras
      | extra lib' respond' command =>
          obtain ⟨⟨calls, event, vain, -⟩, hHarmless⟩ := harmless
          obtain ⟨played', hRest, rfl⟩ := Option.map_eq_some_iff.mp h
          intro d hd
          rcases List.mem_cons.mp hd with rfl | hd
          · exact ⟨lib', command, calls, event, rfl, vain, vain.leaves respond'⟩
          · exact ih hHarmless hRest d hd

/-- Commands that are put in are commands like all others, if they meet the same library and the
same responses. -/
theorem play?_occurrences {respond : Response} {script : List (Moment σ)}
    (h : ∀ lib' respond' command, .extra lib' respond' command ∈ script →
      lib' = lib ∧ respond' = respond) (r : Radio σ) :
    (r.play? lib respond ((script.map Moment.occurrence).map .own)).map (·.radio) =
      (r.play? lib respond script).map (·.radio) := by
  induction script generalizing r with
  | nil => rfl
  | cons moment rest ih =>
      have hRest := ih fun lib' respond' command hMember =>
        h lib' respond' command (List.mem_cons_of_mem _ hMember)
      cases moment with
      | own occurrence =>
          simp only [List.map_cons, Moment.occurrence_own, play?]
          cases r.undergo? lib respond occurrence with
          | none => rfl
          | some step => simpa [Function.comp_def] using hRest step.2
      | extra lib' respond' command =>
          obtain ⟨rfl, rfl⟩ := h _ _ _ List.mem_cons_self
          simpa [play?, undergo?, Function.comp_def] using
            hRest (r.perform lib' respond' command).2

end Radio

end RadioLifecycle
