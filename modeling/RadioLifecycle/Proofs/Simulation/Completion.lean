import Mathlib.Algebra.Order.Group.Multiset
import Mathlib.Tactic.Abel
import RadioLifecycle.Proofs.Simulation.Traffic

/-!
Completion handlers. There is one place for the handler of a cleanup, whoever asks for it, and the
next thread that leaves the wait loop takes what it finds there. What handlers have run can be told
from the history, and none runs more often than it was passed to a cleanup.
-/

namespace RadioLifecycle.Simulation

open Vendor (Status SessionHandle WorkerId)

variable {τ : Type}

/-- The handler that a thread past the wait loop is to run. -/
def LoopThread.taken? (t : LoopThread τ) : Option τ :=
  match t.stage with
  | .awake | .parked => none
  | .leaving handler => handler

@[simp] theorem LoopThread.taken?_leaving (id : WorkerId) (session : SessionHandle)
    (handler : Option τ) : LoopThread.taken? ⟨id, session, .leaving handler⟩ = handler :=
  rfl

theorem LoopThread.taken?_of_inside {t : LoopThread τ} (h : t.stage.inside = true) :
    t.taken? = none := by
  rw [taken?]
  cases hStage : t.stage with
  | awake | parked => rfl
  | leaving => simp [hStage, LoopStage.inside] at h

/-- The handlers that can still run: those that threads took, and the one that no thread took yet.
-/
def owed (s : Simulation τ) : List τ :=
  s.threads.filterMap LoopThread.taken? ++ s.handler.toList

/-- The handlers that have run or can still run. -/
def accounted (s : Simulation τ) : Multiset τ :=
  s.completions.map (·.1) + s.owed

@[simp] theorem LoopThread.taken?_wake (t : LoopThread τ) : t.wake.taken? = t.taken? := by
  rw [LoopThread.wake]
  split <;> simp_all [taken?]

theorem owed_wakeAll (s : Simulation τ) : s.wakeAll.owed = s.owed := by
  simp [owed, wakeAll, List.filterMap_map]

theorem ids_setStage (s : Simulation τ) (id : WorkerId) (stage : LoopStage τ) :
    (s.setStage id stage).threads.map (·.id) = s.threads.map (·.id) := by
  rw [setStage, List.map_map]
  apply List.map_congr_left
  intro t _
  by_cases h : t.id = id <;> simp [h]

/-- A thread is in one place, and what is done to it is done there. -/
theorem threads_of_thread? {s : Simulation τ} {t : LoopThread τ}
    (present : s.thread? t.id = some t) (distinct : (s.threads.map (·.id)).Nodup) :
    ∃ front back, s.threads = front ++ t :: back ∧
      (∀ stage, (s.setStage t.id stage).threads = front ++ { t with stage } :: back) ∧
      s.threads.filter (·.id ≠ t.id) = front ++ back := by
  obtain ⟨_, front, back, hThreads, _⟩ := List.find?_eq_some_iff_append.mp present
  rw [hThreads, List.map_append, List.map_cons, List.nodup_middle, List.nodup_cons] at distinct
  have hOthers : ∀ u ∈ front ++ back, u.id ≠ t.id := by
    intro u hMember hSame
    apply distinct.1
    rw [← hSame, ← List.map_append]
    exact List.mem_map_of_mem hMember
  refine ⟨front, back, hThreads, fun stage => ?_, ?_⟩
  · have hKeep (part : List (LoopThread τ)) (hPart : ∀ u ∈ part, u.id ≠ t.id) :
        part.map (fun u => if u.id = t.id then { u with stage } else u) = part := by
      apply (List.map_congr_left fun u hMember => if_neg (hPart u hMember)).trans
      exact List.map_id _
    simp only [setStage, hThreads, List.map_append, List.map_cons, if_true]
    rw [hKeep front fun u hMember => hOthers u (List.mem_append_left _ hMember),
      hKeep back fun u hMember => hOthers u (List.mem_append_right _ hMember)]
  · rw [hThreads, List.filter_append, List.filter_cons_of_neg (by simp), ← List.filter_append,
      List.filter_eq_self]
    intro u hMember
    simpa using hOthers u hMember

/-- A thread's share of the handlers that have run or can still run. -/
theorem accounted_of_threads {s : Simulation τ} {front back : List (LoopThread τ)} {t : LoopThread τ}
    (h : s.threads = front ++ t :: back) :
    s.accounted = s.completions.map (·.1) + (t.taken?.toList : Multiset τ) +
      ((front ++ back).filterMap LoopThread.taken? + s.handler.toList) := by
  have hShare : ((front ++ t :: back).filterMap LoopThread.taken? : Multiset τ) =
      t.taken?.toList + (front ++ back).filterMap LoopThread.taken? := by
    cases hTaken : t.taken? with
    | none => simp [hTaken]
    | some handler => simp [hTaken]
  rw [accounted, owed, h, ← Multiset.coe_add, hShare]
  abel

/-- A thread that runs on loses no handler. It takes one out of the common place, and what it took
it runs. -/
theorem accounted_runLoop {s : Simulation τ} (distinct : (s.threads.map (·.id)).Nodup)
    (id : WorkerId) : (s.runLoop id).2.accounted = s.accounted := by
  cases hKnown : s.thread? id with
  | none =>
      rw [thread?] at hKnown
      simp [runLoop, hKnown]
  | some t =>
      obtain rfl := id_of_thread? hKnown
      obtain ⟨front, back, hThreads, hStage, hReturned⟩ := threads_of_thread? hKnown distinct
      have hBefore := accounted_of_threads hThreads
      cases hAt : t.stage with
      | parked => rw [runLoop_of_parked hKnown hAt]
      | awake =>
          have hNone : t.taken? = none := by rw [LoopThread.taken?, hAt]
          cases hLeave : s.mayLeave with
          | false =>
              rw [runLoop_of_stays hKnown hAt hLeave, accounted_of_threads (hStage .parked), hBefore,
                hNone]
              rfl
          | true =>
              let left := { s with inLoop := false, handler := none }
              have hAfter : (left.setStage t.id (.leaving s.handler)).accounted = _ :=
                accounted_of_threads (hStage (.leaving s.handler))
              rw [runLoop_of_goes hKnown hAt hLeave, hAfter, hBefore, hNone]
              change s.completions.map (·.1) + (s.handler.toList : Multiset τ) +
                  ((front ++ back).filterMap LoopThread.taken? + (([] : List τ) : Multiset τ)) =
                s.completions.map (·.1) + (([] : List τ) : Multiset τ) +
                  ((front ++ back).filterMap LoopThread.taken? + s.handler.toList)
              simp only [Multiset.coe_nil]
              abel
      | leaving taken =>
          have hTaken : t.taken? = taken := by rw [LoopThread.taken?, hAt]
          have hRan : (s.completions ++ (taken.map fun handler => (handler, t.session)).toList).map
              (·.1) = s.completions.map (·.1) ++ taken.toList := by
            cases taken <;> simp
          rw [runLoop_of_past hKnown hAt, hBefore, hTaken, accounted, owed, hReturned, hRan]
          simp only [← Multiset.coe_add]

namespace Traffic

variable {c d : Traffic τ} {history : History τ} {mark : Mark τ}

/-- The history tells for which session a thread called the event loop and, once it is past the wait
loop, what it took. -/
structure Knows (history : History τ) (t : LoopThread τ) : Prop where
  session : history.session? t.id = some t.session
  taken : ∀ handler, t.stage = .leaving handler → history.taken? t.id = handler

theorem Knows.wake {t : LoopThread τ} (h : Knows history t) : Knows (.woken :: history) t.wake where
  session := by
    rw [t.id_wake, t.session_wake]
    exact h.session
  taken := by
    intro handler hPast
    rw [t.id_wake]
    apply h.taken handler
    rw [LoopThread.wake] at hPast
    split at hPast
    · cases hPast
    · exact hPast
    · exact hPast

/-- A thread that calls the event loop has not been in it. -/
theorem Step.distinct (step : Step c mark d) (h : (c.vendor.threads.map (·.id)).Nodup) :
    (d.vendor.threads.map (·.id)).Nodup := by
  cases step with
  | bringUp =>
      rcases bringUp_cases c.vendor with ⟨_, _, hAfter⟩ | ⟨_, hAfter⟩ <;> rwa [hAfter]
  | requestCleanup | hold | allowExit | requestEnd => exact h
  | wake => simpa [wakeAll, Function.comp_def] using h
  | enter id session absent =>
      rw [thread?_eq_none] at absent
      simp only [enterLoop, List.map_append, List.map_singleton, List.nodup_append_comm,
        List.singleton_append, List.nodup_cons]
      exact ⟨by simpa using absent, h⟩
  | park present awake stays =>
      rw [runLoop_of_stays present awake stays]
      rwa [ids_setStage]
  | leave present awake goes =>
      rw [runLoop_of_goes present awake goes]
      rwa [ids_setStage]
  | comeBack present past =>
      rw [runLoop_of_past present past]
      exact h.sublist (List.filter_sublist.map _)

theorem Run.distinct (run : Run c history d) (h : (c.vendor.threads.map (·.id)).Nodup) :
    (d.vendor.threads.map (·.id)).Nodup := by
  induction run with
  | refl => exact h
  | step prior last ih => exact last.distinct ih

/-- The threads are known to the history, and so are the handlers that have run. -/
structure Tracked (c : Traffic τ) (history : History τ) : Prop where
  known : ∀ t ∈ c.vendor.threads, Knows history t
  completions : c.vendor.completions = history.completions

theorem Step.tracked (step : Step c mark d) (recorded : c.Recorded history)
    (h : c.Tracked history) : d.Tracked (mark :: history) := by
  obtain ⟨hKnown, hCompletions⟩ := h
  cases step with
  | bringUp =>
      have hSame : ∀ t ∈ c.vendor.threads, Knows (.broughtUp c.vendor.bringUp.1 :: history) t :=
        fun t hMember => ⟨(hKnown t hMember).session, (hKnown t hMember).taken⟩
      rcases bringUp_cases c.vendor with ⟨_, _, hAfter⟩ | ⟨_, hAfter⟩
      · rw [hAfter]
        exact ⟨hSame, hCompletions⟩
      · rw [hAfter]
        exact ⟨hSame, hCompletions⟩
  | requestCleanup | hold | allowExit | requestEnd =>
      exact ⟨fun t hMember => ⟨(hKnown t hMember).session, (hKnown t hMember).taken⟩, hCompletions⟩
  | wake =>
      refine ⟨?_, hCompletions⟩
      intro t hMember
      obtain ⟨u, hBefore, rfl⟩ := List.mem_map.mp hMember
      exact (hKnown u hBefore).wake
  | enter id session absent =>
      rw [thread?_eq_none] at absent
      refine ⟨?_, hCompletions⟩
      intro t hMember
      rcases List.mem_append.mp hMember with hBefore | hNew
      · have hOther : id ≠ t.id := fun hSame => absent t hBefore hSame.symm
        refine ⟨?_, (hKnown t hBefore).taken⟩
        simpa [History.session?, Mark.session?, hOther] using (hKnown t hBefore).session
      · obtain rfl := List.mem_singleton.mp hNew
        exact ⟨by simp [History.session?, Mark.session?], by simp⟩
  | @park t present awake stays =>
      rw [runLoop_of_stays present awake stays]
      refine ⟨?_, hCompletions⟩
      intro u hMember
      obtain ⟨v, hBefore, rfl⟩ := List.mem_map.mp hMember
      have hSame : Knows (.parked t.id :: history) v :=
        ⟨(hKnown v hBefore).session, (hKnown v hBefore).taken⟩
      split
      · exact ⟨hSame.session, by simp⟩
      · exact hSame
  | @leave t present awake goes =>
      rw [runLoop_of_goes present awake goes]
      refine ⟨?_, hCompletions⟩
      intro u hMember
      obtain ⟨v, hBefore, rfl⟩ := List.mem_map.mp hMember
      split
      · refine ⟨(hKnown v hBefore).session, fun handler hTaken => ?_⟩
        cases hTaken
        simp_all [History.taken?, recorded.handler]
      · refine ⟨(hKnown v hBefore).session, fun handler hTaken => ?_⟩
        have hOther : t.id ≠ v.id := by grind
        simp [History.taken?, hOther, (hKnown v hBefore).taken handler hTaken]
  | @comeBack t taken present past =>
      rw [runLoop_of_past present past]
      obtain ⟨hSession, hTaken⟩ := hKnown t (mem_of_thread? present)
      refine ⟨?_, ?_⟩
      · intro u hMember
        have hBefore := hKnown u (List.mem_of_mem_filter hMember)
        exact ⟨hBefore.session, hBefore.taken⟩
      · simp only [History.completions, hCompletions, hSession, hTaken taken past]
        cases taken <;> rfl

theorem Run.tracked {behaviour : Behaviour} (run : Run (fresh τ behaviour) history c) :
    c.Tracked history := by
  induction run with
  | refl => exact ⟨by simp [fresh], rfl⟩
  | step prior last ih => exact last.tracked prior.recorded ih

/-- What a step does to the handlers that have run or can still run. It adds the handler that comes
with a cleanup, and one that no thread has taken is lost if it is overtaken. -/
theorem Step.accounted (step : Step c mark d) (distinct : (c.vendor.threads.map (·.id)).Nodup) :
    d.vendor.accounted +
        ((if mark.overtakes then c.vendor.handler.toList else [] : List τ) : Multiset τ) =
      c.vendor.accounted + mark.handler?.toList := by
  cases step with
  | bringUp =>
      rcases bringUp_cases c.vendor with ⟨_, hOutcome, hAfter⟩ | ⟨hOutcome, hAfter⟩
      · rw [hOutcome, hAfter]
        rfl
      · rw [hOutcome, hAfter]
        simp [Simulation.accounted, owed, Mark.overtakes, Mark.handler?]
  | requestCleanup handler =>
      simp only [Simulation.accounted, owed, Simulation.requestCleanup, ← Multiset.coe_add, Mark.overtakes,
        Mark.handler?, if_true]
      abel
  | hold | allowExit | requestEnd => rfl
  | wake =>
      rw [Simulation.accounted, owed_wakeAll]
      rfl
  | enter id session =>
      have hNew : LoopThread.taken? { id, session : LoopThread τ } = none := rfl
      simp [Simulation.accounted, owed, Mark.overtakes, Mark.handler?, enterLoop, hNew]
  | park | leave | comeBack =>
      rw [accounted_runLoop distinct]
      rfl

/-- Only a thread that leaves takes a handler, and only what overtakes a handler replaces it. -/
theorem Step.handler (step : Step c mark d) (kept : mark.overtakes = false)
    (stay : ∀ id, mark ≠ .left id) : d.vendor.handler = c.vendor.handler := by
  cases step with
  | bringUp =>
      rcases bringUp_cases c.vendor with ⟨_, _, hAfter⟩ | ⟨hOutcome, _⟩
      · rw [hAfter]
      · rw [hOutcome] at kept
        cases kept
  | requestCleanup => cases kept
  | hold | allowExit | requestEnd | wake | enter => rfl
  | @park t present awake stays => rw [runLoop_of_stays present awake stays, setStage]
  | @leave t => exact absurd rfl (stay t.id)
  | @comeBack t _ present past => rw [runLoop_of_past present past]

theorem handlers_append (later earlier : History τ) :
    (History.handlers (later ++ earlier) : Multiset τ) = later.handlers + earlier.handlers := by
  rw [History.handlers, List.filterMap_append, Multiset.coe_add]
  rfl

theorem handlers_cons (mark : Mark τ) (earlier : History τ) :
    (History.handlers (mark :: earlier) : Multiset τ) = mark.handler?.toList + earlier.handlers := by
  rw [History.handlers, List.filterMap_cons]
  cases mark.handler? <;> rfl

theorem Step.accounted_le (step : Step c mark d) (distinct : (c.vendor.threads.map (·.id)).Nodup) :
    d.vendor.accounted ≤ c.vendor.accounted + mark.handler?.toList := by
  rw [← step.accounted distinct]
  exact Multiset.le_add_right _ _

theorem Run.accounted_le (run : Run c history d) (distinct : (c.vendor.threads.map (·.id)).Nodup) :
    d.vendor.accounted ≤ c.vendor.accounted + history.handlers := by
  induction run with
  | refl => simp [History.handlers]
  | @step d e history mark prior last ih =>
      calc e.vendor.accounted
        _ ≤ d.vendor.accounted + mark.handler?.toList := last.accounted_le (prior.distinct distinct)
        _ ≤ c.vendor.accounted + history.handlers + mark.handler?.toList := by gcongr
        _ = c.vendor.accounted + History.handlers (mark :: history) := by
          rw [handlers_cons]
          abel

theorem Run.split {later earlier : History τ} (run : Run c (later ++ earlier) d) :
    ∃ e, Run c earlier e ∧ Run e later d := by
  induction later generalizing d with
  | nil => exact ⟨d, run, .refl⟩
  | cons mark rest ih =>
      cases run with
      | step prior last =>
          obtain ⟨e, hEarlier, hLater⟩ := ih prior
          exact ⟨e, hEarlier, hLater.step last⟩

/-- A handler that no thread took is lost by what overtakes it, and stays lost. -/
theorem Step.loses (step : Step c mark d) (handler : τ) (bound : Multiset τ)
    (distinct : (c.vendor.threads.map (·.id)).Nodup)
    (h : mark.overtakes = true ∧ c.vendor.handler = some handler ∧ c.vendor.accounted ≤ bound ∨
      c.vendor.accounted + {handler} ≤ bound) :
    d.vendor.accounted + {handler} ≤ bound + mark.handler?.toList := by
  rcases h with ⟨hOvertakes, hWaits, hBound⟩ | hBound
  · have hStep : d.vendor.accounted + {handler} = c.vendor.accounted + mark.handler?.toList := by
      simpa [hOvertakes, hWaits] using step.accounted distinct
    rw [hStep]
    gcongr
  · calc d.vendor.accounted + {handler}
      _ ≤ c.vendor.accounted + mark.handler?.toList + {handler} := by
        gcongr
        exact step.accounted_le distinct
      _ = c.vendor.accounted + {handler} + mark.handler?.toList := by abel
      _ ≤ bound + mark.handler?.toList := by gcongr

/-- As long as no thread leaves the loop, a handler waits to be taken unless it has been lost. -/
theorem Run.untaken {handler : τ} (run : Run c history d) (waits : c.vendor.handler = some handler)
    (distinct : (c.vendor.threads.map (·.id)).Nodup) (stay : ∀ id, .left id ∉ history) :
    d.vendor.handler = some handler ∨
      d.vendor.accounted + {handler} ≤ c.vendor.accounted + history.handlers := by
  induction run with
  | refl => exact .inl waits
  | @step d e history mark prior last ih =>
      have hDistinct := prior.distinct distinct
      have hBefore := ih fun id hMember => stay id (List.mem_cons_of_mem _ hMember)
      by_cases hKept : d.vendor.handler = some handler ∧ mark.overtakes = false
      · refine .inl ((last.handler hKept.2 ?_).trans hKept.1)
        exact fun id hMark => stay id (hMark ▸ List.mem_cons_self)
      · have hLost := last.loses handler (c.vendor.accounted + history.handlers) hDistinct ?_
        · refine .inr ?_
          rw [handlers_cons, add_comm (mark.handler?.toList : Multiset τ), ← add_assoc]
          exact hLost
        · rcases hBefore with hWaits | hLost
          · exact .inl ⟨by simpa [hWaits] using hKept, hWaits, prior.accounted_le distinct⟩
          · exact .inr hLost

/-- A handler that is overtaken before a thread has left the loop never runs. What runs are some of
the other handlers. -/
theorem Run.overtaken {behaviour : Behaviour} {later between earlier : History τ}
    {overtaking : Mark τ} {handler : τ}
    (run : Run (fresh τ behaviour)
      (later ++ overtaking :: (between ++ .cleanupRequested handler :: earlier)) c)
    (overtakes : overtaking.overtakes = true) (stay : ∀ id, .left id ∉ between) :
    c.vendor.accounted ≤ History.handlers (later ++ overtaking :: (between ++ earlier)) := by
  have hNodup : ((fresh τ behaviour).vendor.threads.map (·.id)).Nodup := List.nodup_nil
  obtain ⟨d₃, hBefore, hLater⟩ := run.split
  cases hBefore with | @step d₂ _ _ _ hBefore hOvertaking
  obtain ⟨d₁, hBefore, hBetween⟩ := hBefore.split
  cases hBefore with | @step d₀ _ _ _ hEarlier hCleanup
  have h₀ : d₀.vendor.accounted ≤ earlier.handlers := by
    simpa [fresh, Simulation.accounted, owed] using hEarlier.accounted_le hNodup
  have hNodup₀ := hEarlier.distinct hNodup
  have hNodup₁ := hCleanup.distinct hNodup₀
  have h₁ : d₁.vendor.accounted ≤ earlier.handlers + {handler} :=
    (hCleanup.accounted_le hNodup₀).trans (by gcongr; exact le_refl _)
  have hWaits : d₁.vendor.handler = some handler := by
    cases hCleanup
    rfl
  have h₂ : d₂.vendor.accounted ≤ d₁.vendor.accounted + between.handlers :=
    hBetween.accounted_le hNodup₁
  have h₃ := hOvertaking.loses handler (d₁.vendor.accounted + between.handlers)
    (hBetween.distinct hNodup₁) ((hBetween.untaken hWaits hNodup₁ stay).imp
      (fun hWaits => ⟨overtakes, hWaits, h₂⟩) id)
  have hCancelled : d₃.vendor.accounted ≤
      earlier.handlers + between.handlers + overtaking.handler?.toList := by
    refine le_of_add_le_add_right (h₃.trans ?_ : _ ≤ _ + ({handler} : Multiset τ))
    calc d₁.vendor.accounted + between.handlers + overtaking.handler?.toList
      _ ≤ earlier.handlers + {handler} + between.handlers + overtaking.handler?.toList := by gcongr
      _ = earlier.handlers + between.handlers + overtaking.handler?.toList + {handler} := by abel
  calc c.vendor.accounted
    _ ≤ d₃.vendor.accounted + later.handlers :=
      hLater.accounted_le (hOvertaking.distinct (hBetween.distinct hNodup₁))
    _ ≤ earlier.handlers + between.handlers + overtaking.handler?.toList + later.handlers := by
      gcongr
    _ = History.handlers (later ++ overtaking :: (between ++ earlier)) := by
      rw [handlers_append, handlers_cons, handlers_append]
      abel

theorem Step.of_failure {status : Status} (step : Step c mark d)
    (failed : mark = .broughtUp (.error status)) :
    d = { c with vendor.calls.bringUp := c.vendor.calls.bringUp + 1 } := by
  cases step with
  | bringUp =>
      rcases bringUp_cases c.vendor with ⟨_, _, hAfter⟩ | ⟨hOutcome, _⟩
      · rw [hAfter]
      · rw [hOutcome] at failed
        cases failed
  | _ => cases failed

/-- What becomes of the completion handlers, whatever is called and whoever enters the event loop.
The handlers that have run are those that threads ran as they returned: each ran what it found when
it left, for the session that it had called the event loop for. No handler runs more often than it
was passed to a cleanup, and one that a later cleanup or a new session overtakes before a thread
leaves does not run. An attempt to bring the library up that fails only counts. -/
theorem Run.handlers_once {behaviour : Behaviour} (run : Run (fresh τ behaviour) history c) :
    c.vendor.completions = history.completions ∧
    (∀ t ∈ c.vendor.threads, history.session? t.id = some t.session ∧
      ∀ handler, t.stage = .leaving handler → handler = history.taken? t.id) ∧
    (c.vendor.completions.map (·.1)).Subperm history.handlers ∧
    (∀ later overtaking between handler earlier,
      history = later ++ overtaking :: (between ++ .cleanupRequested handler :: earlier) →
      overtaking.overtakes = true → (∀ id, .left id ∉ between) →
      (c.vendor.completions.map (·.1)).Subperm
        (History.handlers (later ++ overtaking :: (between ++ earlier)))) ∧
    ∀ status d, Step c (.broughtUp (.error status)) d →
      d = { c with vendor.calls.bringUp := c.vendor.calls.bringUp + 1 } := by
  have hRan : (c.vendor.completions.map (·.1) : Multiset τ) ≤ c.vendor.accounted :=
    Multiset.le_add_right _ _
  refine ⟨run.tracked.completions, ?_, ?_, ?_, ?_⟩
  · intro t hMember
    obtain ⟨hSession, hTaken⟩ := run.tracked.known t hMember
    exact ⟨hSession, fun handler hPast => (hTaken handler hPast).symm⟩
  · refine Multiset.coe_le.mp (hRan.trans ?_)
    simpa [fresh, Simulation.accounted, owed] using run.accounted_le List.nodup_nil
  · rintro later overtaking between handler earlier rfl overtakes stay
    exact Multiset.coe_le.mp (hRan.trans (run.overtaken overtakes stay))
  · exact fun status d step => step.of_failure rfl

/-- Of two cleanups before a thread leaves the loop the handler of the second runs, once. -/
theorem handlers_once_overtaken :
    ∃ (history : History Nat) (c : Traffic Nat), Run (fresh Nat {}) history c ∧
      history.handlers = [6, 5] ∧ c.vendor.completions = [(6, ⟨1⟩)] ∧
      (c.vendor.completions.map (·.1)).Subperm [6] := by
  let awake : LoopThread Nat := { id := ⟨0⟩, session := ⟨1⟩ }
  have entered := Run.refl.step (Step.bringUp (c := fresh Nat {})) |>.step (.enter ⟨0⟩ ⟨1⟩ rfl)
  have asked := (entered.step (.requestCleanup 5)).step (.requestCleanup 6)
  have left := asked.step (.leave (t := awake) rfl rfl rfl)
  have run := left.step (.comeBack (t := { awake with stage := .leaving (some 6) }) rfl rfl)
  obtain ⟨hCompletions, _, _, hOvertaken, _⟩ := run.handlers_once
  refine ⟨_, _, run, rfl, hCompletions, ?_⟩
  exact hOvertaken [.returned ⟨0⟩, .left ⟨0⟩] (.cleanupRequested 6) [] 5 _ rfl rfl (by simp)

end Traffic

end RadioLifecycle.Simulation
