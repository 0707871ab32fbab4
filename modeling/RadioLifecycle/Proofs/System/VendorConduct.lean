import RadioLifecycle.Proofs.System.Passage
import RadioLifecycle.Proofs.Vendor.Conduct
import RadioLifecycle.Simulation.Library

/-!
How the system calls the vendor library. Calls come from the control thread and from the workers,
and still they come in the order in which the library wants them: the latest tenure of the library
is the session's while there is one, and it is complete when there is none. The worker of a session
may be late in calling the event loop, but the session does not end before that worker is done.
-/

namespace RadioLifecycle

open Vendor (Library SessionHandle InterfaceHandle WorkerId Tenure latest)
open Vendor.Tenure (after Admits Conduct)

variable {σ : Type}

/-- The workers that have still to call the event loop. -/
def Crew.unentered (c : Crew σ) : List Worker :=
  c.workers.filter fun w => decide (w.stage = .spawned)

namespace Radio

/-- The session has come up in this tenure of the library. -/
structure Holds (r : Radio σ) (t : Tenure) : Prop where
  phase : r.controller.phase ≠ .stopped
  held : r.controller.session.held = some t.handle
  listings : t.listings = 1
  cleanups : t.cleanups = if r.controller.phase = .stopping then 1 else 0

/-- How the latest tenure of the library stands to the session and its worker. -/
inductive Stands (r : Radio σ) : Option Tenure → Prop
  | between {tenure : Option Tenure} (phase : r.controller.phase = .stopped)
      (complete : ∀ t ∈ tenure, t.Complete) (none : r.unentered = []) : Stands r tenure
  | entering {t : Tenure} (w : Worker) (holds : r.Holds t) (loops : t.loops = 0)
      (only : r.unentered = [w]) (session : w.session = t.handle) : Stands r (some t)
  | entered {t : Tenure} (holds : r.Holds t) (loops : t.loops = 1) (none : r.unentered = []) :
      Stands r (some t)

/-- The library has been called as it wants to be, and the session knows where it stands. -/
structure Accounts (r : Radio σ) : Prop where
  fit : r.Fit
  conduct : Conduct none r.journal.calls
  stands : r.Stands (latest r.journal.calls)

variable {r r' : Radio σ} {tenure : Option Tenure} {t : Tenure}

theorem unentered_of_workers (hWorkers : r'.workers = r.workers) : r'.unentered = r.unentered := by
  rw [Crew.unentered, hWorkers]
  rfl

theorem unentered_requestTeardown {worker : WorkerId}
    (hWorkers : r'.workers = (r.toCrew.requestTeardown worker).workers) :
    r'.unentered = r.unentered.map (·.asked worker) := by
  have hMap : r'.workers = r.workers.map (·.asked worker) := hWorkers
  rw [Crew.unentered, hMap, List.filter_map, Crew.unentered]
  congr 2
  funext w
  simp

theorem Holds.congr (h : r.Holds t) (kept : r.controller.KeepsSession r'.controller) :
    r'.Holds t where
  phase := by rw [kept.phase]; exact h.phase
  held := by rw [kept.session, h.held]
  listings := h.listings
  cleanups := by rw [kept.phase, h.cleanups]

theorem Stands.congr (h : r.Stands tenure) (kept : r.controller.KeepsSession r'.controller)
    (hUnentered : r'.unentered = r.unentered) : r'.Stands tenure := by
  cases h with
  | between hPhase hComplete hNone =>
      exact .between (kept.phase.trans hPhase) hComplete (hUnentered.trans hNone)
  | entering w holds hLoops hOnly hSession =>
      exact .entering w (holds.congr kept) hLoops (hUnentered.trans hOnly) hSession
  | entered holds hLoops hNone =>
      exact .entered (holds.congr kept) hLoops (hUnentered.trans hNone)

theorem Stands.holds (h : r.Stands tenure) (hPhase : r.controller.phase ≠ .stopped) :
    ∃ t, tenure = some t ∧ r.Holds t := by
  cases h with
  | between hStopped => exact absurd hStopped hPhase
  | entering _ holds | entered holds => exact ⟨_, rfl, holds⟩

theorem Stands.complete (h : r.Stands tenure) (hPhase : r.controller.phase = .stopped) :
    (∀ t ∈ tenure, t.Complete) ∧ r.unentered = [] := by
  cases h with
  | between _ hComplete hNone => exact ⟨hComplete, hNone⟩
  | entering _ holds | entered holds => exact absurd hPhase holds.phase

theorem Stands.loops_le (h : r.Stands (some t)) : t.loops ≤ 1 := by
  cases h with
  | between _ hComplete => exact Nat.le_of_eq (hComplete t rfl).2.1
  | entering _ _ hLoops => omega
  | entered _ hLoops => omega

/-- All that the latest tenure can lack is the teardown of a session that runs. -/
theorem Stands.lacks (h : r.Stands tenure) :
    Vendor.Tenure.unlisted tenure = 0 ∧
    Vendor.Tenure.undone tenure = if r.controller.phase = .started then 1 else 0 := by
  by_cases hPhase : r.controller.phase = .stopped
  · obtain ⟨hComplete, _⟩ := h.complete hPhase
    cases tenure with
    | none => simp [Vendor.Tenure.unlisted, Vendor.Tenure.undone, hPhase]
    | some t =>
        obtain ⟨hListings, _, hCleanups⟩ := hComplete t rfl
        simp [Vendor.Tenure.unlisted, Vendor.Tenure.undone, hPhase, hListings, hCleanups]
  · obtain ⟨t, rfl, holds⟩ := h.holds hPhase
    simp only [Vendor.Tenure.unlisted, Vendor.Tenure.undone, Option.map_some, Option.getD_some,
      holds.listings, holds.cleanups]
    cases hCase : r.controller.phase with
    | stopped => exact absurd hCase hPhase
    | started | stopping => simp

/-- What remains to be shown after calls that may be made. -/
theorem Accounts.grown {calls : List Vendor.Call} {told : List Delivery} {fatals : List Phase}
    (h : r.Accounts) (adds : r.Adds r' calls told fatals) (fit : r'.Fit)
    (hConduct : Conduct (latest r.journal.calls) calls)
    (hStands : r'.Stands (calls.foldl after (latest r.journal.calls))) : r'.Accounts := by
  have hCalls := Surroundings.Adds.journal_calls adds
  refine ⟨fit, ?_, ?_⟩
  · rw [hCalls, Vendor.Tenure.conduct_append]
    exact ⟨h.conduct, hConduct⟩
  · rw [hCalls, latest, List.foldl_append]
    exact hStands

theorem Accounts.silent {told : List Delivery} {fatals : List Phase} (h : r.Accounts)
    (same : r.SameState r') (adds : r.Adds r' [] told fatals) (fit : r'.Fit) : r'.Accounts := by
  refine h.grown adds fit trivial (h.stands.congr ?_ (unentered_of_workers same.2))
  rw [same.1]
  exact .refl _

theorem conduct_opened (hComplete : ∀ t ∈ tenure, t.Complete) (handle : SessionHandle)
    (asked : List InterfaceHandle) :
    let calls := .bringUp (.ok handle) :: .interfaces handle :: asked.map Vendor.Call.interfaceName
    Conduct tenure calls ∧ calls.foldl after tenure = some { handle, listings := 1 } := by
  have hAsks : ∀ call ∈ asked.map Vendor.Call.interfaceName, call.asks := by
    simp [Vendor.Call.asks]
  obtain ⟨hRest, hSame⟩ :=
    Vendor.Tenure.conduct_of_asks (t := { handle, listings := 1 }) rfl rfl hAsks
  refine ⟨⟨?_, ⟨rfl, rfl, rfl⟩, hRest⟩, hSame⟩
  cases tenure with
  | none => trivial
  | some t => exact hComplete t rfl

/-- The worker of a report that is taken has called the event loop before. -/
theorem Stands.complete_of_idle (h : r.Stands tenure) (hPhase : r.controller.phase = .stopping)
    (hIdle : ∀ w ∈ r.workers, w.isOutstanding = false) :
    (∀ t ∈ tenure, t.Complete) ∧ r.unentered = [] := by
  cases h with
  | between hStopped => simp [hPhase] at hStopped
  | entered holds hLoops hNone =>
      refine ⟨?_, hNone⟩
      rintro _ ⟨⟩
      exact ⟨holds.listings, hLoops, by rw [holds.cleanups, if_pos hPhase]⟩
  | entering w _ _ hOnly =>
      obtain ⟨hMember, hSpawned⟩ := List.mem_filter.mp (show w ∈ r.unentered by simp [hOnly])
      have hDone := hIdle w hMember
      simp_all [Worker.isOutstanding]

/-- Whatever a call on the controller comes to, the accounts are kept. -/
theorem Shift.accounts {cause : Cause} (shift : r.Shift cause r')
    (expects : ∀ worker requested, cause = .exitReport worker requested →
      r.Expects worker requested) (h : r.Accounts) : r'.Accounts := by
  have fit := shift.fit expects h.fit
  cases shift with
  | opened handle asked hPhase hController hWorkers adds =>
      obtain ⟨hComplete, hNone⟩ := h.stands.complete hPhase
      obtain ⟨hConduct, hLatest⟩ := conduct_opened hComplete handle asked
      refine h.grown adds fit hConduct ?_
      rw [hLatest]
      obtain ⟨hStarted, hSession, _, _⟩ := fields_of_opened hController
      refine .entering { id := r.nextWorker, session := handle } ⟨?_, ?_, rfl, ?_⟩ rfl ?_ rfl
      · simp [hStarted]
      · rw [hSession]
      · simp [hStarted]
      · rw [Crew.unentered] at hNone
        rw [Crew.unentered, hWorkers, List.filter_append, hNone]
        rfl
  | failed status hPhase same adds =>
      obtain ⟨hComplete, hNone⟩ := h.stands.complete hPhase
      refine h.grown adds fit ⟨?_, trivial⟩ (h.stands.congr ?_ (unentered_of_workers same.2))
      · generalize latest r.journal.calls = tenure at hComplete
        cases tenure with
        | none => trivial
        | some t => exact hComplete t rfl
      · rw [same.1]
        exact .refl _
  | repeated _ same adds | refused _ same adds | echoed _ same adds | abandoned _ same adds =>
      exact h.silent same adds fit
  | torn handle worker hPhase hHeld hRunner hController hWorkers adds =>
      obtain ⟨t, hLatest, holds⟩ := h.stands.holds (by simp [hPhase])
      obtain rfl : handle = t.handle := Option.some.inj (hHeld.symm.trans holds.held)
      have hThere : t.cleanups = 0 := by simp [holds.cleanups, hPhase]
      have hUnentered := unentered_requestTeardown hWorkers
      have stands := h.stands
      refine h.grown adds fit ⟨?_, trivial⟩ ?_
      · rw [hLatest]
        exact ⟨rfl, holds.listings, hThere⟩
      · rw [hLatest] at stands ⊢
        have holds' : r'.Holds { t with cleanups := t.cleanups + 1 } := by
          refine ⟨?_, ?_, holds.listings, ?_⟩ <;> rw [hController]
          · simp [Controller.observed, Controller.teardownBegun]
          · exact holds.held
          · simp [Controller.observed, Controller.teardownBegun, hThere]
        cases stands with
        | between hStopped => simp [hPhase] at hStopped
        | entering w _ hLoops hOnly hSession =>
            refine .entering (w.asked worker) holds' hLoops (by simp [hUnentered, hOnly]) ?_
            rw [Worker.asked_session, hSession]
        | entered _ hLoops hNone => exact .entered holds' hLoops (by simp [hUnentered, hNone])
  | absorbed => exact h
  | @served _ _ calls _ _ _ kept hWorkers adds _ asks _ =>
      have stands := h.stands.congr kept (unentered_of_workers hWorkers)
      by_cases hNone : calls = []
      · subst hNone
        exact h.grown adds fit trivial stands
      -- Only a chip asks for versions, and there is a chip only while the session runs.
      · obtain ⟨call, hCall⟩ := List.exists_mem_of_ne_nil calls hNone
        have hPhase := h.fit.sound.chip_started (asks call hCall).2
        obtain ⟨t, hLatest, holds⟩ := h.stands.holds (by simp [hPhase])
        obtain ⟨hConduct, hSame⟩ := Vendor.Tenure.conduct_of_asks holds.listings
          (by simp [holds.cleanups, hPhase]) fun call hCall => .inl (asks call hCall).1
        refine h.grown adds fit ?_ ?_
        · rw [hLatest]
          exact hConduct
        · rw [hLatest] at stands ⊢
          rw [hSame]
          exact stands
  | closed command hPhase _ hController hWorkers adds =>
      obtain ⟨hComplete, hNone⟩ := h.stands.complete_of_idle hPhase
        (h.fit.idle_of_expects (expects _ _ rfl))
      refine h.grown adds fit trivial (.between ?_ hComplete ?_)
      · rw [hController]
        rfl
      · rw [unentered_of_workers hWorkers, hNone]

/-- A worker calls the event loop in the tenure that its session came up in. -/
theorem Accounts.strode {w w' : Worker} {report : Option Bool} (h : r.Accounts)
    (hMember : w ∈ r.workers) (stride : w.Stride report w')
    (hController : r'.controller = r.controller)
    (hWorkers : r'.workers = r.workers.map fun other => if other.id = w.id then w' else other)
    (adds : r.Adds r' w.nextCalls [] []) : r'.Accounts := by
  have fit := h.fit.strode hMember stride hController hWorkers
  have kept : r.controller.KeepsSession r'.controller := by
    rw [hController]
    exact .refl _
  have hEntered : w'.stage ≠ .spawned := by
    cases stride <;> simp_all
  by_cases hStage : w.stage = .spawned
  · have hUnentered : w ∈ r.unentered := List.mem_filter.mpr ⟨hMember, by simp [hStage]⟩
    have hCalls : w.nextCalls = [.eventLoop w.session] := by rw [Worker.nextCalls, hStage]
    rw [hCalls] at adds
    have stands := h.stands
    generalize hLatest : latest r.journal.calls = tenure at stands
    cases stands with
    | between _ _ hNone | entered _ _ hNone => simp [hNone] at hUnentered
    | entering v holds hLoops hOnly hSession =>
        obtain rfl : w = v := by simpa [hOnly] using hUnentered
        have hNone : r'.unentered = [] := by
          rw [Crew.unentered, hWorkers, Crew.filter_replace w' hOnly h.fit.numbered.nodup]
          simp [hEntered]
        have holds' := holds.congr kept
        refine h.grown adds fit ⟨?_, trivial⟩ ?_
        · rw [hLatest]
          exact ⟨hSession, hLoops⟩
        · rw [hLatest]
          exact .entered ⟨holds'.phase, holds'.held, holds'.listings, holds'.cleanups⟩
            (by simp [hLoops]) hNone
  · have hCalls : w.nextCalls = [] := by
      rw [Worker.nextCalls]
      cases hCase : w.stage with
      | spawned => exact absurd hCase hStage
      | inLoop | returned | sampled | finished => rfl
    have hSame : r'.unentered = r.unentered := by
      rw [Crew.unentered, hWorkers]
      exact Crew.filter_replace_of_not hMember h.fit.numbered.nodup (by simp [hStage])
        (by simp [hEntered])
    rw [hCalls] at adds
    exact h.grown adds fit trivial (h.stands.congr kept hSame)

theorem Accounts.performAll (h : r.Accounts) (lib : Library σ) (respond : Response)
    (commands : List Command) : (r.performAll lib respond commands).2.Accounts :=
  performAll_induction (fun _ h => h.fit.sound) (fun _ _ _ h shift => shift.accounts (by simp) h)
    lib respond commands h

theorem Passes.accounts {deeds : List (Deed σ)} (passes : r.Passes deeds r')
    (orderly : ∀ d ∈ deeds, d.Orderly) (h : r.Accounts) : r'.Accounts := by
  have fit := passes.fit orderly h.fit
  cases passes with
  | rested hController hWorkers adds => exact h.silent ⟨hController, hWorkers⟩ adds fit
  | strode w w' report hMember stride hController hWorkers adds =>
      exact h.strode hMember stride hController hWorkers adds
  | carried lib respond commands => exact h.performAll lib respond commands
  | taken respond worker requested =>
      have hOrderly := orderly _ (List.mem_singleton.mpr rfl)
      exact hOrderly.shift.accounts hOrderly.expects h

theorem balanced_of_mem_deeds {waiting : List (Option WorkerId × Bool)} (lib : Library σ)
    (respond : Response) (commands : List Command) (h : r.Balanced waiting) :
    ∀ d ∈ r.deeds lib respond commands, d.before.Balanced waiting := by
  induction commands generalizing r with
  | nil => simp [deeds]
  | cons command rest ih =>
      intro d hd
      rcases List.mem_cons.mp hd with rfl | hRest
      · exact h
      · exact ih ((obey_shift lib respond h.sound (.command command)).balanced h) d hRest

end Radio

/-- What the controller knows when a deed makes this call. -/
def Deed.Warrants (d : Deed σ) : Vendor.Call → Prop
  | .bringUp _ => d.before.controller.phase = .stopped
  | .interfaces handle =>
    d.after.controller.phase = .started ∧ d.after.controller.session.held = some handle
  | .interfaceName _ => d.after.controller.phase = .started
  | .driverVersion _ | .firmwareVersion _ => d.before.controller.phase = .started
  | .cleanup handle =>
    d.before.controller.phase = .started ∧ d.before.controller.session.held = some handle
  | .eventLoop _ => False

theorem Deed.Orderly.warrants {d : Deed σ} (orderly : d.Orderly) :
    ∀ call ∈ d.calls, d.Warrants call := by
  obtain ⟨cause, before, after⟩ := d
  have hCalls {calls : List Vendor.Call} {told : List Delivery} {fatals : List Phase}
      (adds : before.Adds after calls told fatals) :
      Deed.calls ⟨cause, before, after⟩ = calls :=
    (Deed.gained (d := ⟨cause, before, after⟩) adds).1
  have shift : before.Shift cause after := orderly.shift
  intro call hCall
  cases shift with
  | opened handle asked hPhase hController _ adds =>
      obtain ⟨hStarted, hSession, _⟩ := Radio.fields_of_opened hController
      rw [hCalls adds] at hCall
      rcases List.mem_cons.mp hCall with rfl | hCall
      · exact hPhase
      rcases List.mem_cons.mp hCall with rfl | hCall
      · exact ⟨hStarted, congrArg Session.held hSession⟩
      · obtain ⟨interface, _, rfl⟩ := List.mem_map.mp hCall
        exact hStarted
  | failed status hPhase _ adds =>
      rw [hCalls adds] at hCall
      obtain rfl := List.mem_singleton.mp hCall
      exact hPhase
  | torn handle _ hPhase hHeld _ _ _ adds =>
      rw [hCalls adds] at hCall
      obtain rfl := List.mem_singleton.mp hCall
      exact ⟨hPhase, hHeld⟩
  | served _ _ _ _ adds _ asks =>
      rw [hCalls adds] at hCall
      obtain ⟨hVersion, hChip⟩ := asks call hCall
      have hPhase := orderly.sound.chip_started hChip
      cases call with
      | driverVersion | firmwareVersion => exact hPhase
      | bringUp | cleanup | eventLoop | interfaces | interfaceName =>
          simp [Vendor.Call.asksVersion] at hVersion
  | repeated _ _ adds | refused _ _ adds | echoed _ _ adds | closed _ _ _ _ _ adds
  | abandoned _ _ adds => simp [hCalls adds] at hCall
  | absorbed => simp [hCalls (Surroundings.Adds.refl _)] at hCall

namespace System

variable {s t : System σ} {deeds : List (Deed σ)}

theorem Turn.accounts (turn : Turn s deeds t) (regular : s.Regular) (h : s.context.Accounts) :
    t.context.Accounts :=
  turn.passes.accounts (turn.regular regular).2 h

theorem Run.accounts (run : Run s deeds t) (regular : s.Regular) (h : s.context.Accounts) :
    t.context.Accounts := by
  induction run with
  | refl => exact h
  | snoc prior last ih => exact last.accounts (prior.regular regular).1 ih

/-- Whenever the control thread turns to the controller, the books are balanced. -/
theorem Turn.balanced_before (turn : Turn s deeds t) (regular : s.Regular) :
    ∀ d ∈ deeds, d.before.Balanced s.waiting := by
  by_cases hGoesOn : s.GoesOn
  · have hBalanced := regular.standing.balanced hGoesOn
    cases turn.effect hGoesOn regular.plain with
    | rested | strode => simp
    | carried lib respond commands _ _ =>
        exact Radio.balanced_of_mem_deeds lib respond commands hBalanced
    | taken respond worker requested _ _ _ => simpa using hBalanced
  · simp [(turn.stalled hGoesOn).2]

theorem accounts_initial (vendor : σ) (interface : String) :
    (initial vendor interface).context.Accounts :=
  ⟨fit_initial vendor interface, trivial,
    .between rfl (by simp [latest, initial, Journal.calls]) rfl⟩

/-- The vendor library is called as it wants to be. Every call is admitted by the calls before it.
While there is no session the latest tenure of the library is complete, and a session that is there
holds the handle of that tenure. Each call that a deed makes is warranted by what the controller
knows. As many teardowns have been submitted, and as many listings made, as the library was brought
up, but for the teardown of a session that runs. When the library is brought up, no worker is left
and no report waits. -/
theorem run_vendorConduct {vendor : σ} {interface : String}
    (run : Run (initial vendor interface) deeds s) :
    (∀ earlier call later, s.context.journal.calls = earlier ++ call :: later →
      Admits (latest earlier) call) ∧
    (s.context.controller.phase = .stopped →
      ∀ t ∈ latest s.context.journal.calls, t.Complete) ∧
    (s.context.controller.phase ≠ .stopped →
      ∃ t, latest s.context.journal.calls = some t ∧ s.context.Holds t ∧ t.loops ≤ 1) ∧
    (∀ d ∈ deeds, ∀ call ∈ d.calls, d.Warrants call) ∧
    s.context.journal.calls.countP Vendor.Call.tearsDown +
        (if s.context.controller.phase = .started then 1 else 0) =
      s.context.journal.calls.countP Vendor.Call.opens ∧
    s.context.journal.calls.countP Vendor.Call.opens =
      s.context.journal.calls.countP Vendor.Call.lists ∧
    ∀ more t, Turn s more t → ∀ d ∈ more, ∀ outcome, .bringUp outcome ∈ d.calls →
      d.before.outstanding = [] ∧ s.waiting = [] := by
  have hInitial := regular_initial vendor interface
  have hAccounts := run.accounts hInitial (accounts_initial vendor interface)
  obtain ⟨hRegular, hOrderly⟩ := run.regular hInitial
  have hStands := hAccounts.stands
  obtain ⟨hUnlisted, hUndone⟩ := hStands.lacks
  obtain ⟨hLists, hTearsDown⟩ := hAccounts.conduct.balance_latest
  refine ⟨?_, fun hPhase => (hStands.complete hPhase).1, ?_, fun d hd => (hOrderly d hd).warrants,
    ?_, ?_, ?_⟩
  · intro earlier call later hCalls
    have hConduct := hAccounts.conduct
    rw [hCalls, Vendor.Tenure.conduct_append] at hConduct
    exact hConduct.2.1
  · intro hPhase
    obtain ⟨t, hLatest, holds⟩ := hStands.holds hPhase
    rw [hLatest] at hStands
    exact ⟨t, hLatest, holds, hStands.loops_le⟩
  · rw [hUndone] at hTearsDown
    exact hTearsDown.symm
  · rw [hUnlisted] at hLists
    exact hLists
  · intro more t turn d hd outcome hCall
    have hPhase := ((turn.regular hRegular).2 d hd).warrants _ hCall
    obtain ⟨hWaiting, hNone⟩ := (turn.balanced_before hRegular d hd).idle hPhase
    exact ⟨hNone, hWaiting⟩

/-- A simulated library is brought up once more after its first session. -/
theorem run_vendorConduct_secondSession :
    ∃ (s : System (Simulation SessionHandle)) (deeds : List (Deed (Simulation SessionHandle))),
      Run (initial { behaviour := { interfaces := [] } } "wlan0") deeds s ∧
      s.context.journal.calls.countP Vendor.Call.opens = 2 ∧
      s.context.journal.calls.countP Vendor.Call.lists = 2 ∧
      s.context.journal.calls.countP Vendor.Call.tearsDown = 1 ∧
      ∃ t, latest s.context.journal.calls = some t ∧
        s.context.controller.session.held = some t.handle := by
  let start : System (Simulation SessionHandle) :=
    initial { behaviour := { interfaces := [] } } "wlan0"
  let audience : Audience := { respond := fun _ _ => .accepted }
  let actions : List (Action (Simulation SessionHandle)) :=
    [.submit (.perform [.start ⟨1⟩]), .execute, .work ⟨0⟩, .submit (.perform [.stop ⟨2⟩]), .execute,
      .work ⟨0⟩, .work ⟨0⟩, .work ⟨0⟩, .work ⟨0⟩, .execute,
      .submit (.perform [.start ⟨3⟩]), .execute]
  let s := (replay? Simulation.library audience actions start).get (by decide +kernel)
  have run := run_of_replay? (t := s) (Option.some_get _).symm (by simp [actions, Task.report?])
  have hPhase : s.context.controller.phase = .started := by decide +kernel
  have hOpens : s.context.journal.calls.countP Vendor.Call.opens = 2 := by decide +kernel
  obtain ⟨_, _, hThere, _, hTearsDown, hLists, _⟩ := run_vendorConduct run
  rw [hOpens, if_pos hPhase] at hTearsDown
  obtain ⟨t, hLatest, holds, _⟩ := hThere (by simp [hPhase])
  exact ⟨s, _, run, hOpens, by omega, by omega, t, hLatest, holds.held⟩

end System

end RadioLifecycle
