import Mathlib.Data.List.Induction
import RadioLifecycle.Proofs.Service.Handle
import RadioLifecycle.Proofs.System.ChipHistory
import RadioLifecycle.Simulation.Library

/-!
The handles of chips. A handle holds nothing but the number of its chip, and numbers are given out
in ascending order, so a handle is good while its chip is that of the running session and never
again. Whatever is asked for through a handle that is no longer good changes nothing, and whoever
waits for an answer is given the default.
-/

namespace RadioLifecycle

open Vendor (Library SessionHandle)

variable {σ : Type} {k : ChipId} {d : Deed σ} {deeds more : List (Deed σ)} {r r' : Radio σ}

namespace Radio

/-- The session runs, and the chip is its chip. -/
def Honours (r : Radio σ) (k : ChipId) : Prop :=
  r.controller.phase = .started ∧ r.controller.currentChip = some k

/-- A handle is good while its chip has been bound and its session not been stopped since. -/
theorem Records.honours_iff (h : r.Records deeds) :
    r.Honours k ↔ ∃ since, BoundSince k deeds since := by
  constructor
  · rintro ⟨_, hCurrent⟩
    obtain ⟨chip, hChip, rfl⟩ := Option.map_eq_some_iff.mp hCurrent
    exact h.bound chip hChip
  · rintro ⟨since, hSince⟩
    obtain ⟨chip, hChip, rfl, _⟩ := h.current k since hSince
    exact ⟨h.sound.chip_started (by simp [hChip]), by simp [Controller.currentChip, hChip]⟩

/-- The chip of the session is always valid, so whoever names it reaches it. -/
theorem Records.isSome_liveChip?_iff (h : r.Records deeds) :
    (r.controller.liveChip? k).isSome = true ↔ ∃ since, BoundSince k deeds since := by
  constructor
  · intro hLive
    obtain ⟨chip, hLive⟩ := Option.isSome_iff_exists.mp hLive
    have hMeant : r.controller.meantChip? (some k) = some chip := hLive
    obtain ⟨hChip, _, hNamed⟩ := Controller.meantChip?_eq_some hMeant
    obtain rfl : chip.id = k := hNamed k rfl
    exact h.bound chip hChip
  · rintro ⟨since, hSince⟩
    obtain ⟨chip, hChip, rfl, hLinked, _⟩ := h.current k since hSince
    simp [Controller.liveChip?, hChip, Chip.isValid, hLinked]

/-- Through a handle that is not good nothing happens. -/
theorem Records.onChip_unhonoured (h : r.Records deeds) (hBad : ¬r.Honours k) (lib : Library σ)
    (respond : Response) (request : Chip.Request) :
    r.onChip lib respond (some k) request = (none, r) := by
  rw [h.honours_iff, ← h.isSome_liveChip?_iff, Option.not_isSome_iff_eq_none] at hBad
  have hUnmeant : r.controller.meantChip? (some k) = none := hBad
  simp only [onChip, hUnmeant]

/-- A handle says of itself that it is good exactly when it is. -/
theorem Records.isValid_iff (h : r.Records deeds) (lib : Library σ) (respond : Response) :
    (r.onChip lib respond (some k) .isValid).1 = some (.flag true) ↔ r.Honours k := by
  constructor
  · intro hValid
    by_contra hBad
    rw [h.onChip_unhonoured hBad] at hValid
    cases hValid
  · intro hGood
    rw [h.honours_iff, ← h.isSome_liveChip?_iff] at hGood
    obtain ⟨chip, hLive⟩ := Option.isSome_iff_exists.mp hGood
    have hMeant : r.controller.meantChip? (some k) = some chip := hLive
    have hLinked := (Controller.meantChip?_eq_some hMeant).2.1
    simp [onChip, hMeant, Chip.perform, Chip.isValid, hLinked]

/-- A task that is nothing but a request through a handle that is not good does nothing. -/
theorem Records.run_unhonoured (h : r.Records deeds) (hBad : ¬r.Honours k) (lib : Library σ)
    (audience : Audience) (request : Chip.Request) :
    Task.run lib audience (.perform [.onChip (some k) request]) r =
      { context := r, reply := .answers [.ofChip none] } := by
  have hIdle := h.onChip_unhonoured hBad lib audience.respond request
  simp [Task.run, Task.act, performAll, perform, hIdle, Audience.operationsDuring]

/-- As long as the numbers do not run out, they ascend. -/
theorem Records.ascending (h : r.Records deeds)
    (few : (boundChips deeds).length < UInt64.size - 1) :
    (boundChips deeds).Pairwise (·.number < ·.number) := by
  have hNumber {n : Nat} (hn : n ∈ List.range (boundChips deeds).length) :
      (UInt64.ofNat (n + 1)).toNat = n + 1 := by
    have := List.mem_range.mp hn
    exact UInt64.toNat_ofNat_of_lt' (by omega)
  rw [h.numbered, List.pairwise_map]
  refine List.pairwise_lt_range.imp_of_mem fun hm hn hLess => ?_
  rw [UInt64.lt_iff_toNat_lt, hNumber hm, hNumber hn]
  omega

end Radio

/-- As long as the numbers do not run out, none is given out twice. -/
theorem Radio.Records.nodup (h : r.Records deeds)
    (few : (boundChips deeds).length < UInt64.size - 1) : (boundChips deeds).Nodup :=
  (h.ascending few).imp fun hLess hSame => by simp [hSame] at hLess

/-- The deed that binds a chip is a start from rest. -/
theorem Deed.Obeyed.starts_of_bound (h : d.Obeyed) (hBound : d.bound? = some k) :
    d.before.controller.phase = .stopped ∧ ∃ command, d.cause = .command (.start command) := by
  have change := h.chipChange
  have hNone : d.before.controller.chip = none := by
    rw [Deed.bound?] at hBound
    cases hChip : d.before.controller.chip with
    | none => rfl
    | some chip => simp [hChip] at hBound
  simp only [Deed.bound?, hNone, Option.isSome_none, Bool.false_eq_true, ↓reduceIte] at hBound
  have hSome : d.after.controller.chip ≠ none := fun hChip => by
    simp [Controller.currentChip, hChip] at hBound
  generalize d.cause = cause at change
  cases change with
  | @bound command _ hPhase _ _ => exact ⟨hPhase, command, rfl⟩
  | dropped _ hChip _ => exact absurd hChip hSome
  | asked _ hMeant _ _ => cases hNone.symm.trans (Controller.meantChip?_eq_some hMeant).1
  | kept hChip _ _ _ => exact absurd (hChip.trans hNone) hSome

/-- A chip that is gone does not come back, since its number is never given out again. -/
theorem not_boundSince_append (hBound : k ∈ boundChips deeds)
    (hNodup : (boundChips (deeds ++ more)).Nodup) (hGone : ¬∃ since, BoundSince k deeds since) :
    ¬∃ since, BoundSince k (deeds ++ more) since := by
  induction more using List.reverseRecOn with
  | nil =>
      rw [List.append_nil]
      exact hGone
  | append_singleton more d ih =>
      rw [← List.append_assoc] at hNodup ⊢
      simp only [boundChips, List.filterMap_append (l := deeds ++ more)] at hNodup
      have hPrior := ih (List.nodup_append.mp hNodup).1
      rintro ⟨since, hSince⟩
      rcases boundSince_snoc.mp hSince with ⟨_, hAgain⟩ | ⟨prior, _, hBefore, _⟩
      · refine (List.nodup_append.mp hNodup).2.2 k ?_ k (by simp [hAgain]) rfl
        rw [List.filterMap_append]
        exact List.mem_append_left _ hBound
      · exact hPrior ⟨prior, hBefore⟩

namespace System

/-- The numbers of the chips that are bound ascend, as long as they do not run out. A handle is good
from the start that bound its chip until the stop of that session, which is while that session runs
with that chip. What nobody waits for is submitted through any handle, unless the control thread has
ended; questions are refused on the control thread and when it has ended, and else whoever asks
whether the handle is good is told so. Once it is not, nothing that is asked for through it has an
effect, or an answer other than the default, whatever chips are bound later. -/
theorem run_chipHandles {vendor : σ} {interface : String} {s t : System σ}
    {earlier more : List (Deed σ)} (prior : Run (initial vendor interface) earlier s)
    (later : Run s more t) (offered : ∀ d ∈ earlier ++ more, d.cause.isOffered = true)
    (few : (boundChips (earlier ++ more)).length < UInt64.size - 1) :
    (boundChips (earlier ++ more)).Pairwise (·.number < ·.number) ∧
    (∀ d ∈ earlier ++ more, ∀ k, d.bound? = some k →
      d.before.controller.phase = .stopped ∧ ∃ command, d.cause = .command (.start command)) ∧
    (∀ k, (s.context.Honours k ↔ ∃ since, BoundSince k earlier since) ∧
      ∀ lib respond, (s.context.onChip lib respond (some k) .isValid).1 = some (.flag true) ↔
        s.context.Honours k) ∧
    (∀ k lib audience (service : Service σ),
      (∀ origin request, request.waits = false → request ≠ .id →
        service.onChip lib audience origin k request =
          if service.system.isClosed then (.error .controlThreadGone, service)
          else (.ok .done,
            { service with
              system := service.system.enqueue (.perform [.onChip (some k) request]) })) ∧
      (∀ request, request.waits = true →
        service.onChip lib audience .controlThread k request = (.error .reentrantCall, service)) ∧
      (service.ComesTo vendor interface lib audience s →
        (s.isClosed = true → ∀ request, request.waits = true →
          (service.onChip lib audience .elsewhere k request).1 = .error .controlThreadGone ∧
          (service.onChip lib audience .elsewhere k request).2.system.context = s.context) ∧
        (s.isClosed = false →
          ∃ valid, (service.onChip lib audience .elsewhere k .isValid).1 = .ok (.flag valid) ∧
            (valid = true ↔ s.context.Honours k)))) ∧
    ∀ k ∈ boundChips earlier, ¬s.context.Honours k →
      (∀ lib audience request,
        Task.run lib audience (.perform [.onChip (some k) request]) t.context =
          { context := t.context, reply := .answers [.ofChip none] }) ∧
      (∀ lib audience (service : Service σ), service.ComesTo vendor interface lib audience t →
        t.isClosed = false → ∀ request, request.waits = true →
          (service.onChip lib audience .elsewhere k request).1 =
            .ok (Service.defaultAnswer request) ∧
          (service.onChip lib audience .elsewhere k request).2.system.context = t.context) ∧
      ∀ d ∈ more, ∀ request, d.cause = .command (.onChip (some k) request) →
        d.after = d.before := by
  have run := prior.trans later
  have hProper := run.proper offered
  have hMiddle := prior.records fun d hd => offered d (List.mem_append_left _ hd)
  have hEnd := run.records offered
  refine ⟨hEnd.ascending few, fun d hd k => (hProper d hd).obeyed.starts_of_bound,
    fun k => ⟨hMiddle.honours_iff, hMiddle.isValid_iff⟩, ?_, fun k hBound hBad => ?_⟩
  · intro k lib audience service
    refine ⟨fun origin request => service.onChip_of_posted lib audience origin k,
      fun request => service.onChip_of_reentrant lib audience k, fun comes => ⟨?_, ?_⟩⟩
    · intro hClosed request hWaits
      exact (comes.onChip k hWaits).1 hClosed
    · intro hOpen
      have hWaits : Chip.Request.isValid.waits = true := rfl
      have hAnswer := ((comes.onChip k hWaits).2 hOpen).1
      have hValid := hMiddle.isValid_iff (k := k) lib audience.respond
      by_cases hGood : s.context.Honours k
      · refine ⟨true, ?_, by simp [hGood]⟩
        rw [hAnswer, hValid.mpr hGood]
        rfl
      · refine ⟨false, ?_, by simp [hGood]⟩
        rw [hAnswer, hMiddle.onChip_unhonoured hGood]
        rfl
  rw [hMiddle.honours_iff] at hBad
  have hGone {first second : List (Deed σ)} (hMore : more = first ++ second) :
      ¬∃ since, BoundSince k (earlier ++ first) since := by
    have hNodup := hEnd.nodup few
    rw [hMore, ← List.append_assoc, boundChips, List.filterMap_append] at hNodup
    exact not_boundSince_append hBound (List.nodup_append.mp hNodup).1 hBad
  have hUnhonoured : ¬t.context.Honours k := by
    rw [hEnd.honours_iff]
    exact hGone (List.append_nil more).symm
  refine ⟨hEnd.run_unhonoured hUnhonoured, ?_, ?_⟩
  · intro lib audience service comes hOpen request hWaits
    obtain ⟨hAnswer, hContext⟩ := (comes.onChip k hWaits).2 hOpen
    rw [hEnd.onChip_unhonoured hUnhonoured] at hAnswer hContext
    exact ⟨hAnswer, hContext⟩
  · intro d hd request hCause
    obtain ⟨first, second, rfl⟩ := List.append_of_mem hd
    obtain ⟨hHere, proper⟩ := run.onRecord offered (earlier ++ first) d second (by simp)
    have hSpent : ¬d.before.Honours k := by
      rw [hHere.honours_iff]
      exact hGone rfl
    obtain ⟨lib, respond, hAfter⟩ := proper.obeyed.obeyed
    rw [hAfter, hCause]
    exact congrArg Prod.snd (hHere.onChip_unhonoured hSpent lib respond request)

/-- To execute as many tasks as there are is to catch up. -/
theorem advance_of_replay? {lib : Library σ} {audience : Audience} {s t : System σ} {n : Nat}
    (h : replay? lib audience (List.replicate n .execute) s = some t) :
    s.advance (Task.run lib audience) n = t := by
  induction n generalizing s with
  | zero =>
      cases h
      rfl
  | succ n ih =>
      obtain ⟨u, hExecute, hRest⟩ := Option.bind_eq_some_iff.mp h
      rw [ControlThread.advance_of_step? hExecute]
      exact ih hRest

/-- Two sessions on one interface. The handle of the first chip is used while the start of the
second session is still queued, and only the handle of the second chip is good by then. -/
theorem run_chipHandles_secondSession :
    let audience : Audience := { respond := fun _ _ => .accepted }
    let library := Simulation.library
    ∃ (s t : System (Simulation SessionHandle)) (service : Service (Simulation SessionHandle))
      (earlier more : List (Deed (Simulation SessionHandle))),
      Run (initial { behaviour := { interfaces := [{ name := "wlan0" }] } } "wlan0") earlier s ∧
      Run s more t ∧ boundChips (earlier ++ more) = [⟨1⟩, ⟨2⟩] ∧
      more.map (·.cause) = [.exitReport (some ⟨0⟩) true, .command (.start ⟨3⟩),
        .command (.onChip (some ⟨1⟩) (.register ⟨7⟩))] ∧
      (∀ d ∈ more, ∀ request, d.cause = .command (.onChip (some ⟨1⟩) request) →
        d.after = d.before) ∧
      service.system.queue.map (·.2) = [.exitReport (some ⟨0⟩) true, .perform [.start ⟨3⟩],
        .perform [.onChip (some ⟨1⟩) (.register ⟨7⟩)]] ∧
      (service.onChip library audience .elsewhere ⟨1⟩ .modes).1 = .ok (.modes []) ∧
      (service.onChip library audience .elsewhere ⟨1⟩ .modes).2.system.context = t.context ∧
      (service.onChip library audience .elsewhere ⟨2⟩ .isValid).1 = .ok (.flag true) := by
  intro audience library
  let start : System (Simulation SessionHandle) :=
    initial { behaviour := { interfaces := [{ name := "wlan0" }] } } "wlan0"
  let first : List (Action (Simulation SessionHandle)) :=
    [.submit (.perform [.start ⟨1⟩]), .execute, .work ⟨0⟩, .submit (.perform [.stop ⟨2⟩]), .execute]
  let second : List (Action (Simulation SessionHandle)) :=
    [.work ⟨0⟩, .work ⟨0⟩, .work ⟨0⟩, .work ⟨0⟩, .submit (.perform [.start ⟨3⟩]),
      .submit (.perform [.onChip (some ⟨1⟩) (.register ⟨7⟩)])]
  let s := (replay? library audience first start).get (by decide +kernel)
  let waiting := (replay? library audience second s).get (by decide +kernel)
  let t := (replay? library audience (List.replicate 3 .execute) waiting).get (by decide +kernel)
  let earlier := replayDeeds library audience first start
  let more := replayDeeds library audience second s ++
    replayDeeds library audience (List.replicate 3 .execute) waiting
  have hFirst : replay? library audience first start = some s := (Option.some_get _).symm
  have hSecond : replay? library audience second s = some waiting := (Option.some_get _).symm
  have hThird : replay? library audience (List.replicate 3 .execute) waiting = some t :=
    (Option.some_get _).symm
  have prior : Run start earlier s := run_of_replay? hFirst (by simp [first, Task.report?])
  have asking : Run s (replayDeeds library audience second s) waiting :=
    run_of_replay? hSecond (by simp [second, Task.report?])
  have later : Run s more t := asking.trans (run_of_replay? hThird (by simp))
  have hCauses : more.map (·.cause) = [.exitReport (some ⟨0⟩) true, .command (.start ⟨3⟩),
      .command (.onChip (some ⟨1⟩) (.register ⟨7⟩))] := by decide +kernel
  have hOffered : ∀ d ∈ earlier ++ more, d.cause.isOffered = true :=
    List.all_eq_true.mp (by decide +kernel)
  have hBound : boundChips earlier = [⟨1⟩] := by decide +kernel
  have hBoth : boundChips (earlier ++ more) = [⟨1⟩, ⟨2⟩] := by decide +kernel
  have hFew : (boundChips (earlier ++ more)).length < UInt64.size - 1 := by
    simp [hBoth, UInt64.size]
  have hStopping : s.context.controller.phase = .stopping := by decide +kernel
  have hGood : t.context.Honours ⟨2⟩ := ⟨by decide +kernel, by decide +kernel⟩
  have hOpen : t.isClosed = false := by decide +kernel
  have hQueue : waiting.queue.map (·.2) = [.exitReport (some ⟨0⟩) true, .perform [.start ⟨3⟩],
      .perform [.onChip (some ⟨1⟩) (.register ⟨7⟩)]] := by decide +kernel
  have hFree : waiting.busy.isNone = true := by decide +kernel
  clear_value t more waiting earlier s
  have comes : Service.ComesTo { behaviour := { interfaces := [{ name := "wlan0" }] } } "wlan0"
      library audience { system := waiting } t := by
    obtain ⟨before, hBefore⟩ := course_of_replay? hFirst
    obtain ⟨after, hAfter⟩ := course_of_replay? hSecond
    have hThree : waiting.queue.length = 3 := by
      rw [← List.length_map, hQueue]
      rfl
    refine ⟨⟨before ++ after, hBefore.trans hAfter⟩, Option.isNone_iff_eq_none.mp hFree, ?_⟩
    rw [ControlThread.catchUp, hThree]
    exact advance_of_replay? hThird
  obtain ⟨_, _, _, _, hGone⟩ := run_chipHandles prior later hOffered hFew
  obtain ⟨_, hDefaults, hDeeds⟩ :=
    hGone ⟨1⟩ (by simp [hBound]) fun h => by cases hStopping.symm.trans h.1
  obtain ⟨hAnswer, hContext⟩ := hDefaults library audience _ comes hOpen .modes rfl
  rw [← List.append_nil (earlier ++ more)] at hOffered hFew
  obtain ⟨_, _, _, hHandles, _⟩ := run_chipHandles (prior.trans later) (.refl t) hOffered hFew
  obtain ⟨valid, hValid, hTrue⟩ := ((hHandles ⟨2⟩ library audience _).2.2 comes).2 hOpen
  rw [hTrue.mpr hGood] at hValid
  exact ⟨s, t, { system := waiting }, earlier, more, prior, later, hBoth, hCauses, hDeeds, hQueue,
    hAnswer, hContext, hValid⟩

end System

end RadioLifecycle
