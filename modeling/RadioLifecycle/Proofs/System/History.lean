import RadioLifecycle.Proofs.System.Balance

/-!
The history of a run, as its deeds tell it. Between two deeds the controller stays as it is and
nobody is told anything, so the deeds account for all that subscribers learn, and what a deed leaves
behind is what the next one finds.
-/

namespace RadioLifecycle

open Vendor (Library)

variable {σ : Type}

namespace Radio

/-- These deeds lead from one radio to another, and what happens between them is quiet. -/
def Leads (r : Radio σ) : List (Deed σ) → Radio σ → Prop
  | [], r' => r.Quiet r'
  | d :: rest, r' => r.Quiet d.before ∧ d.Orderly ∧ d.after.Leads rest r'

variable {r r' r'' : Radio σ} {deeds more : List (Deed σ)}

theorem Quiet.leads (first : r.Quiet r') (second : r'.Leads deeds r'') : r.Leads deeds r'' := by
  cases deeds with
  | nil => exact first.trans second
  | cons d rest => exact ⟨first.trans second.1, second.2⟩

theorem Leads.append (first : r.Leads deeds r') (second : r'.Leads more r'') :
    r.Leads (deeds ++ more) r'' := by
  induction deeds generalizing r with
  | nil => exact Quiet.leads first second
  | cons d rest ih => exact ⟨first.1, first.2.1, ih first.2.2⟩

/-- A history can be cut before any of its deeds. -/
theorem Leads.split {d : Deed σ} {earlier later : List (Deed σ)}
    (h : r.Leads (earlier ++ d :: later) r') :
    r.Leads earlier d.before ∧ d.Orderly ∧ d.after.Leads later r' := by
  induction earlier generalizing r with
  | nil => exact h
  | cons first rest ih =>
      obtain ⟨hRest, hTail⟩ := ih h.2.2
      exact ⟨⟨h.1, h.2.1, hRest⟩, hTail⟩

theorem leads_deeds (lib : Library σ) (respond : Response) (commands : List Command)
    (sound : r.controller.Sound) :
    r.Leads (r.deeds lib respond commands) (r.performAll lib respond commands).2 := by
  induction commands generalizing r with
  | nil => exact .refl r
  | cons command rest ih =>
      have shift := obey_shift lib respond sound (.command command)
      exact ⟨.refl r, ⟨sound, shift, by simp⟩, ih (shift.sound sound)⟩

/-- Whatever a call comes to, the journal grows. -/
theorem Shift.grows {cause : Cause} (shift : r.Shift cause r') :
    ∃ calls told fatals, r.Adds r' calls told fatals := by
  cases shift with
  | opened _ _ _ _ _ adds | failed _ _ _ adds | repeated _ _ adds | refused _ _ adds
  | torn _ _ _ _ _ _ _ adds | echoed _ _ adds | served _ _ _ _ adds _ | closed _ _ _ _ _ adds
  | abandoned _ _ adds => exact ⟨_, _, _, adds⟩
  | absorbed _ => exact ⟨_, _, _, Surroundings.Adds.refl _⟩

/-- Subscribers are told what the deeds tell them, and nothing else. -/
theorem Leads.deliveries (h : r.Leads deeds r') :
    r'.journal.deliveries = r.journal.deliveries ++ deeds.flatMap (·.told) := by
  have hQuiet {r r' : Radio σ} (quiet : r.Quiet r') :
      r'.journal.deliveries = r.journal.deliveries := by
    obtain ⟨_, hAdds⟩ := quiet.adds
    rw [Surroundings.Adds.journal_deliveries hAdds, List.append_nil]
  induction deeds generalizing r with
  | nil => rw [hQuiet h, List.flatMap_nil, List.append_nil]
  | cons d rest ih =>
      obtain ⟨hFirst, hOrderly, hRest⟩ := h
      obtain ⟨calls, told, fatals, hAdds⟩ := hOrderly.shift.grows
      obtain ⟨_, hTold, _⟩ := Deed.gained hAdds
      rw [ih hRest, Surroundings.Adds.journal_deliveries hAdds, hQuiet hFirst, List.flatMap_cons,
        hTold, List.append_assoc]

end Radio

/-- Nobody is told of a session's end. -/
def Deed.TellsNoStop (d : Deed σ) : Prop :=
  ∀ delivery ∈ d.told, ∀ command, delivery.event ≠ .stopped command

/-- A deed that leaves a session behind tells nobody of a session's end. -/
theorem Deed.Orderly.tellsNoStop {d : Deed σ} (orderly : d.Orderly)
    (hPhase : d.after.controller.phase ≠ .stopped) : d.TellsNoStop := by
  obtain ⟨cause, before, after⟩ := d
  have hBroadcast {calls : List Vendor.Call} {fatals : List Phase} {event : Event}
      (adds : before.Adds after calls (before.controller.subscribers.deliveries event) fatals)
      (hEvent : ∀ command, event ≠ .stopped command) : TellsNoStop ⟨cause, before, after⟩ := by
    intro delivery hDelivery
    rw [(Deed.gained (d := ⟨cause, before, after⟩) adds).2.1] at hDelivery
    obtain ⟨_, _, rfl⟩ := List.mem_map.mp hDelivery
    exact hEvent
  have hSilent {calls : List Vendor.Call} {fatals : List Phase}
      (adds : before.Adds after calls [] fatals) : TellsNoStop ⟨cause, before, after⟩ := by
    simp [TellsNoStop, (Deed.gained (d := ⟨cause, before, after⟩) adds).2.1]
  have shift : before.Shift cause after := orderly.shift
  cases shift with
  | opened _ _ _ _ _ adds | repeated _ _ adds | failed _ _ _ adds | refused _ _ adds =>
      exact hBroadcast adds (by simp)
  | torn _ _ _ _ _ _ _ adds | abandoned _ _ adds => exact hSilent adds
  | absorbed => exact hSilent (Surroundings.Adds.refl _)
  | served _ _ _ _ adds reports =>
      intro delivery hDelivery
      rw [(Deed.gained (d := ⟨_, before, after⟩) adds).2.1] at hDelivery
      obtain ⟨report, hReport⟩ := reports delivery hDelivery
      simp [hReport]
  | echoed phase same _ => exact absurd (by simp only [same.1, phase]) hPhase
  | closed _ _ _ hController _ _ => exact absurd (by simp only [hController]; rfl) hPhase

namespace System

variable {s t : System σ} {deeds : List (Deed σ)}

theorem Effect.leads (effect : s.Effect deeds t) (balanced : s.context.Balanced s.waiting) :
    s.context.Leads deeds t.context := by
  have hOrderly := effect.orderly balanced
  cases effect with
  | rested hController hWorkers hAdds _ => exact .of_same hController hWorkers hAdds
  | strode w w' report _ stride hController hWorkers hAdds _ =>
      exact .of_stride stride hController hWorkers hAdds
  | carried lib respond commands hContext _ =>
      rw [hContext]
      exact Radio.leads_deeds lib respond commands balanced.sound
  | taken => exact ⟨.refl _, hOrderly _ (by simp), .refl _⟩

theorem Turn.leads (turn : Turn s deeds t) (regular : s.Regular) :
    s.context.Leads deeds t.context := by
  have hStalled (stalled : ¬s.GoesOn) : s.context.Leads deeds t.context := by
    obtain ⟨_, rfl⟩ := turn.stalled stalled
    exact (turn.quiet_of_not_goesOn stalled).1
  cases regular.standing with
  | going hGoesOn hBalanced _ => exact (turn.effect hGoesOn regular.plain).leads hBalanced
  | ended stalled _ | broken stalled _ _ => exact hStalled stalled

/-- The deeds of a run lead from its first radio to its last. -/
theorem Run.leads (run : Run s deeds t) (regular : s.Regular) :
    s.context.Leads deeds t.context := by
  induction run with
  | refl => exact .refl _
  | snoc prior last ih => exact ih.append (last.leads (prior.regular regular).1)

end System

end RadioLifecycle
