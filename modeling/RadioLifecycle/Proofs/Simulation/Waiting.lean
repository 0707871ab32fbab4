import RadioLifecycle.Proofs.Simulation.Traffic

/-!
No wake-up is lost. A call that changes the conditions for leaving the event loop wakes the parked
threads only afterwards, and other calls and threads come in between. Once every such call has done
so, no thread is parked that could leave.
-/

namespace RadioLifecycle.Simulation.Traffic

variable {τ : Type} {c d : Traffic τ} {history : History τ} {mark : Mark τ}

/-- Once every call has woken the parked threads, those that are parked could not leave. -/
def Attentive (c : Traffic τ) : Prop :=
  c.unsignalled = 0 → ∀ t ∈ c.vendor.threads, t.stage = .parked → c.vendor.mayLeave = false

/-- What lets no thread leave that had to stay, and parks none, keeps the parked threads in order.
-/
theorem Attentive.congr (h : c.Attentive) (unsignalled : d.unsignalled = c.unsignalled)
    (parked : ∀ t ∈ d.vendor.threads, t.stage = .parked → ∃ u ∈ c.vendor.threads, u.stage = .parked)
    (stays : c.vendor.mayLeave = false → d.vendor.mayLeave = false) : d.Attentive := by
  intro hQuiet t hMember hParked
  obtain ⟨u, hBefore, hStage⟩ := parked t hMember hParked
  exact stays (h (unsignalled.symm.trans hQuiet) u hBefore hStage)

theorem Step.attentive (step : Step c mark d) (h : c.Attentive) : d.Attentive := by
  cases step with
  | bringUp =>
      rcases bringUp_cases c.vendor with ⟨_, _, hAfter⟩ | ⟨_, hAfter⟩
      · rw [hAfter]
        exact h
      · rw [hAfter]
        exact fun _ _ _ _ => rfl
  | requestCleanup | allowExit | requestEnd => exact fun hQuiet => absurd hQuiet (by simp)
  | hold =>
      refine h.congr rfl (fun t hMember hParked => ⟨t, hMember, hParked⟩) fun hStays => ?_
      simp_all [mayLeave, Simulation.hold]
  | wake =>
      intro _ t hMember hParked
      obtain ⟨u, _, rfl⟩ := List.mem_map.mp hMember
      exact absurd hParked u.wake_ne_parked
  | enter id session =>
      refine h.congr rfl (fun t hMember hParked => ⟨t, ?_, hParked⟩) fun hStays => hStays
      rcases List.mem_append.mp hMember with hBefore | hNew
      · exact hBefore
      · obtain rfl := List.mem_singleton.mp hNew
        cases hParked
  | park present awake stays =>
      rw [runLoop_of_stays present awake stays]
      exact fun _ _ _ _ => stays
  | @leave t present awake goes =>
      rw [runLoop_of_goes present awake goes]
      refine h.congr rfl (fun u hMember hParked => ?_) fun hStays => hStays
      obtain ⟨v, hBefore, rfl⟩ := List.mem_map.mp hMember
      refine ⟨v, hBefore, ?_⟩
      split at hParked
      · cases hParked
      · exact hParked
  | comeBack present past =>
      rw [runLoop_of_past present past]
      exact h.congr rfl (fun t hMember hParked => ⟨t, List.mem_of_mem_filter hMember, hParked⟩)
        fun hStays => hStays

theorem Run.attentive {behaviour : Behaviour} (run : Run (fresh τ behaviour) history c) :
    c.Attentive := by
  induction run with
  | refl => exact fun _ _ hMember => absurd hMember (List.not_mem_nil)
  | step prior last ih => exact last.attentive ih

/-- A thread leaves the wait loop only by looking at the conditions for leaving when they hold. -/
theorem Step.leaves (step : Step c mark d) {t : LoopThread τ}
    (present : c.vendor.thread? t.id = some t) (inside : t.stage.inside = true)
    (gone : ∀ u, d.vendor.thread? t.id = some u → u.stage.inside = false) :
    mark = .left t.id ∧ t.stage = .awake ∧ c.vendor.mayLeave = true := by
  have hStays (u : LoopThread τ) (hSame : d.vendor.thread? t.id = some u)
      (hInside : u.stage.inside = true) :
      mark = .left t.id ∧ t.stage = .awake ∧ c.vendor.mayLeave = true :=
    absurd hInside (by simp [gone u hSame])
  cases step with
  | bringUp =>
      refine hStays t ?_ inside
      rcases bringUp_cases c.vendor with ⟨_, _, hAfter⟩ | ⟨_, hAfter⟩
      · rw [hAfter]
        exact present
      · rw [hAfter]
        exact present
  | requestCleanup | hold | allowExit | requestEnd => exact hStays t present inside
  | wake => exact hStays t.wake (by simp [thread?_wakeAll, present]) (by simpa using inside)
  | enter => exact hStays t (by simp [thread?_enterLoop, present]) inside
  | @park other known awake stays =>
      rw [runLoop_of_stays known awake stays] at hStays
      by_cases hSame : t.id = other.id
      · refine hStays { t with stage := .parked } ?_ rfl
        rw [← hSame]
        exact thread?_setStage_self present
      · exact hStays t ((thread?_setStage_of_ne hSame).trans present) inside
  | @leave other known awake goes =>
      by_cases hSame : t.id = other.id
      · obtain rfl : t = other := Option.some.inj (present.symm.trans (hSame ▸ known))
        exact ⟨rfl, awake, goes⟩
      · rw [runLoop_of_goes known awake goes] at hStays
        exact hStays t ((thread?_setStage_of_ne hSame).trans present) inside
  | @comeBack other taken known past =>
      by_cases hSame : t.id = other.id
      · obtain rfl : t = other := Option.some.inj (present.symm.trans (hSame ▸ known))
        simp [past, LoopStage.inside] at inside
      · rw [runLoop_of_past known past] at hStays
        exact hStays t ((thread?_filter_of_ne hSame).trans present) inside

/-- No wake-up is lost, whatever is called and whoever enters the event loop. Once every call has
woken the threads that it concerns, a thread is parked only if no end was asked for since the
library last came up and, if a cleanup was, the exit is held. A thread that looks is past the loop
exactly if an end was asked for, or a cleanup was and the exit is not held, and by nothing but such
a look does a thread come past it. -/
theorem Run.no_lost_wakeUp {behaviour : Behaviour} (run : Run (fresh τ behaviour) history c) :
    (c.unsignalled = 0 → ∀ t ∈ c.vendor.threads, t.stage = .parked →
      history.endRequested = false ∧
        (history.cleanupRequested = false ∨ history.isHeld = true)) ∧
    (∀ t, c.vendor.thread? t.id = some t → t.stage = .awake →
      ∃ u, (c.vendor.runLoop t.id).2.thread? t.id = some u ∧
        (u.stage.inside = false ↔ history.endRequested = true ∨
          history.cleanupRequested = true ∧ history.isHeld = false)) ∧
    ∀ mark d t, Step c mark d → c.vendor.thread? t.id = some t → t.stage.inside = true →
      (∀ u, d.vendor.thread? t.id = some u → u.stage.inside = false) →
      mark = .left t.id ∧ t.stage = .awake ∧ (history.endRequested = true ∨
        history.cleanupRequested = true ∧ history.isHeld = false) := by
  have hLeave := run.recorded.mayLeave
  refine ⟨?_, ?_, ?_⟩
  · intro hQuiet t hMember hParked
    have hStays := run.attentive hQuiet t hMember hParked
    rw [hLeave, Bool.or_eq_false_iff, Bool.and_eq_false_iff, Bool.not_eq_false'] at hStays
    exact hStays
  · intro t present awake
    refine ⟨_, thread?_look present awake, ?_⟩
    rw [hLeave]
    split <;> simp_all [LoopStage.inside]
  · intro mark d t step present inside gone
    obtain ⟨hMark, hAwake, hGoes⟩ := step.leaves present inside gone
    refine ⟨hMark, hAwake, ?_⟩
    rw [hLeave] at hGoes
    simpa using hGoes

/-- A thread that waits although a cleanup was asked for does so since the exit is held. It has been
woken by the cleanup and has parked again. -/
theorem no_lost_wakeUp_held :
    ∃ (history : History Nat) (c : Traffic Nat), Run (fresh Nat {}) history c ∧
      c.unsignalled = 0 ∧ (∃ t ∈ c.vendor.threads, t.stage = .parked) ∧
      history.cleanupRequested = true ∧ history.endRequested = false ∧ history.isHeld = true := by
  let awake : LoopThread Nat := { id := ⟨0⟩, session := ⟨1⟩ }
  have entered := Run.refl.step (Step.bringUp (c := fresh Nat {})) |>.step (.enter ⟨0⟩ ⟨1⟩ rfl)
  have parked := (entered.step (.park (t := awake) rfl rfl rfl)).step .hold
  have woken := (parked.step (.requestCleanup 5)).step (.wake rfl)
  have run := woken.step (.park (t := awake) rfl rfl rfl)
  refine ⟨_, _, run, rfl, ⟨{ awake with stage := .parked }, List.mem_singleton.mpr rfl, rfl⟩, rfl, ?_⟩
  obtain ⟨hWaits, _, _⟩ := run.no_lost_wakeUp
  obtain ⟨hNoEnd, hNoCleanup | hHeld⟩ := hWaits rfl _ (List.mem_singleton.mpr rfl) rfl
  · cases hNoCleanup
  · exact ⟨hNoEnd, hHeld⟩

end RadioLifecycle.Simulation.Traffic
