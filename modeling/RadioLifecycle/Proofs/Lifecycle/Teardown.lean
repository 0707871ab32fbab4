import RadioLifecycle.Lifecycle.Teardown

/-!
What a teardown waits for, after any history. Arming makes it wait for everything again, and being
told of an event makes it no longer wait for that event. So it waits for the events that it was not
told of since it was last armed, and for nothing before it was armed at all.
-/

namespace RadioLifecycle.Teardown

/-- What can happen to a teardown. -/
inductive Step where
  | arm
  | observe (event : TeardownEvent)
  deriving DecidableEq, Repr

def after (t : Teardown) : Step → Teardown
  | .arm => t.arm
  | .observe event => t.observe event

def afterAll (t : Teardown) (history : List Step) : Teardown :=
  history.foldl after t

/-- How often a teardown that was not resolved becomes so. -/
def resolutions (t : Teardown) : List Step → Nat
  | [] => 0
  | step :: rest =>
    (if !t.isResolved && (t.after step).isResolved then 1 else 0) + resolutions (t.after step) rest

/-- Whether the condition that an event clears is still to be met. -/
def awaits (t : Teardown) : TeardownEvent → Bool
  | .cleanupReturned => t.cleanupPending
  | .loopEnded => t.loopRunning

theorem isResolved_iff (t : Teardown) :
    t.isResolved = true ↔ ∀ event, t.awaits event = false := by
  rw [isResolved, Bool.and_eq_true, Bool.not_eq_true', Bool.not_eq_true']
  constructor
  · rintro ⟨hCleanup, hLoop⟩ (_ | _)
    · exact hCleanup
    · exact hLoop
  · intro h
    exact ⟨h .cleanupReturned, h .loopEnded⟩

/-- A teardown is told by what it waits for. -/
theorem eq_of_awaits {t t' : Teardown} (h : ∀ event, t.awaits event = t'.awaits event) :
    t = t' := by
  obtain ⟨cleanup, loop⟩ := t
  obtain ⟨cleanup', loop'⟩ := t'
  have hCleanup : cleanup = cleanup' := h .cleanupReturned
  have hLoop : loop = loop' := h .loopEnded
  rw [hCleanup, hLoop]

theorem awaits_arm (t : Teardown) (event : TeardownEvent) : t.arm.awaits event = true := by
  cases event <;> rfl

theorem awaits_observe (t : Teardown) (told event : TeardownEvent) :
    (t.observe told).awaits event = true ↔ t.awaits event = true ∧ event ≠ told := by
  cases told <;> cases event <;> simp [observe, awaits]

theorem afterAll_cons (t : Teardown) (step : Step) (rest : List Step) :
    t.afterAll (step :: rest) = (t.after step).afterAll rest :=
  rfl

theorem afterAll_arm (t : Teardown) (earlier since : List Step) :
    t.afterAll (earlier ++ .arm :: since) = (t.afterAll earlier).arm.afterAll since :=
  List.foldl_append

/-- Without another arming, a teardown waits for what it waited for and was not told of. -/
theorem awaits_afterAll {since : List Step} (hArm : .arm ∉ since) (t : Teardown)
    (event : TeardownEvent) :
    (t.afterAll since).awaits event = true ↔
      t.awaits event = true ∧ .observe event ∉ since := by
  induction since generalizing t with
  | nil => simp [afterAll]
  | cons step rest ih =>
      obtain ⟨hFirst, hRest⟩ := not_or.mp (mt List.mem_cons.mpr hArm)
      cases step with
      | arm => exact absurd rfl hFirst
      | observe told =>
          rw [afterAll_cons, ih hRest, after, awaits_observe, and_assoc, List.mem_cons, not_or]
          simp

/-- A teardown that was armed is resolved once it has been told of every event. -/
theorem isResolved_armed_iff {since : List Step} (hArm : .arm ∉ since) (t : Teardown) :
    (t.arm.afterAll since).isResolved = true ↔ ∀ event, .observe event ∈ since := by
  rw [isResolved_iff]
  refine forall_congr' fun event => ?_
  rw [Bool.eq_false_iff, ne_eq, awaits_afterAll hArm, awaits_arm]
  simp

theorem isResolved_unarmed {history : List Step} (hArm : .arm ∉ history) :
    (afterAll {} history).isResolved = true := by
  rw [isResolved_iff]
  intro event
  rw [Bool.eq_false_iff, ne_eq, awaits_afterAll hArm]
  cases event <;> simp [awaits]

/-- A history in which a teardown is armed is cut where this happens last. -/
theorem exists_lastArm {history : List Step} (h : .arm ∈ history) :
    ∃ earlier since, history = earlier ++ .arm :: since ∧ .arm ∉ since := by
  induction history with
  | nil => cases h
  | cons step rest ih =>
      by_cases hRest : .arm ∈ rest
      · obtain ⟨earlier, since, rfl, hSince⟩ := ih hRest
        exact ⟨step :: earlier, since, rfl, hSince⟩
      · rcases List.mem_cons.mp h with rfl | hLater
        · exact ⟨[], rest, rfl, hRest⟩
        · exact absurd hLater hRest

/-- What is resolved stays so until it is armed again. -/
theorem isResolved_afterAll {since : List Step} (hArm : .arm ∉ since) {t : Teardown}
    (h : t.isResolved = true) : (t.afterAll since).isResolved = true := by
  rw [isResolved_iff] at h ⊢
  intro event
  rw [Bool.eq_false_iff, ne_eq, awaits_afterAll hArm, h event]
  simp

/-- Without another arming, a teardown that is not resolved becomes so once if it is in the end, and
otherwise never. -/
theorem resolutions_eq {since : List Step} (hArm : .arm ∉ since) (t : Teardown) :
    t.resolutions since = if !t.isResolved && (t.afterAll since).isResolved then 1 else 0 := by
  induction since generalizing t with
  | nil => cases h : t.isResolved <;> simp [resolutions, afterAll, h]
  | cons step rest ih =>
      obtain ⟨hFirst, hRest⟩ := not_or.mp (mt List.mem_cons.mpr hArm)
      have hSingle : Step.arm ∉ [step] := by simpa using hFirst
      rw [resolutions, ih hRest, afterAll_cons]
      -- Once it is resolved it stays so, hence at most one step of all counts.
      cases hBefore : t.isResolved with
      | true =>
          have hAfter : (t.after step).isResolved = true := isResolved_afterAll hSingle hBefore
          simp [hAfter]
      | false =>
          cases hAfter : (t.after step).isResolved with
          | true => simp [isResolved_afterAll hRest hAfter]
          | false => simp

/-- A teardown over any history, from one that was never armed. It is resolved if it has not been
armed yet, or has been told of every event since it was armed last. After an arming it becomes
resolved at most once until the next, namely if it is told of every event, however often and in
whatever order. Which events these are is all that matters of a history. -/
theorem afterAll_sinceArmed :
    (∀ history, (afterAll {} history).isResolved = true ↔
      .arm ∉ history ∨ ∃ earlier since, history = earlier ++ .arm :: since ∧ .arm ∉ since ∧
        ∀ event, .observe event ∈ since) ∧
    (∀ earlier since, .arm ∉ since →
      resolutions (afterAll {} (earlier ++ [.arm])) since ≤ 1 ∧
      (resolutions (afterAll {} (earlier ++ [.arm])) since = 1 ↔
        ∀ event, .observe event ∈ since)) ∧
    ∀ earlier since earlier' since', .arm ∉ since → .arm ∉ since' →
      (∀ event, .observe event ∈ since ↔ .observe event ∈ since') →
      afterAll {} (earlier ++ .arm :: since) = afterAll {} (earlier' ++ .arm :: since') := by
  refine ⟨fun history => ?_, fun earlier since hArm => ?_, ?_⟩
  · constructor
    · intro hResolved
      by_cases hArmed : .arm ∈ history
      · obtain ⟨earlier, since, rfl, hArm⟩ := exists_lastArm hArmed
        rw [afterAll_arm, isResolved_armed_iff hArm] at hResolved
        exact .inr ⟨earlier, since, rfl, hArm, hResolved⟩
      · exact .inl hArmed
    · rintro (hArm | ⟨earlier, since, rfl, hArm, hTold⟩)
      · exact isResolved_unarmed hArm
      · rw [afterAll_arm, isResolved_armed_iff hArm]
        exact hTold
  · have hBegun : afterAll {} (earlier ++ [.arm]) = (afterAll {} earlier).arm :=
      afterAll_arm {} earlier []
    have hPending : (afterAll {} earlier).arm.isResolved = false := rfl
    rw [hBegun, resolutions_eq hArm, hPending, ← isResolved_armed_iff hArm (afterAll {} earlier)]
    constructor
    · split <;> decide
    · simp
  · intro earlier since earlier' since' hArm hArm' hSame
    rw [afterAll_arm, afterAll_arm]
    apply eq_of_awaits
    intro event
    rw [Bool.eq_iff_iff, awaits_afterAll hArm, awaits_afterAll hArm', awaits_arm, awaits_arm,
      hSame event]

/-- An early event and a teardown that is armed anew while it waits: only what follows counts, which
resolves it with its last event. -/
theorem afterAll_sinceArmed_armedAnew :
    let earlier : List Step := [.observe .loopEnded, .arm, .observe .cleanupReturned]
    let since : List Step :=
      [.observe .loopEnded, .observe .loopEnded, .observe .cleanupReturned]
    (afterAll {} (earlier ++ .arm :: since)).isResolved = true ∧
      resolutions (afterAll {} (earlier ++ [.arm])) since = 1 ∧
      afterAll {} (earlier ++ .arm :: since) =
        afterAll {} [.arm, .observe .cleanupReturned, .observe .loopEnded] := by
  intro earlier since
  have hArm : .arm ∉ since := by decide
  have hTold : ∀ event, .observe event ∈ since := by
    rintro (_ | _) <;> decide
  obtain ⟨hResolved, hOnce, hSame⟩ := afterAll_sinceArmed
  refine ⟨?_, ?_, ?_⟩
  · exact (hResolved _).mpr (.inr ⟨earlier, since, rfl, hArm, hTold⟩)
  · exact (hOnce earlier since hArm).2.mpr hTold
  · refine hSame earlier since [] _ hArm (by decide) fun event => ?_
    cases event <;> decide

end RadioLifecycle.Teardown
