import Mathlib.Data.List.Nodup
import RadioLifecycle.LoopWorker
import RadioLifecycle.Proofs.Journal.Growth

/-!
The workers of all sessions. A worker goes through its stages one by one and reports once, at the
end; until then it is outstanding. Workers are told apart by their numbers, so a step of one of them
leaves all others as they are.
-/

namespace RadioLifecycle

open Vendor (Library SessionHandle WorkerId)

namespace Worker

/-- What one step of a worker does to it, and what it reports. -/
inductive Stride (w : Worker) : Option Bool → Worker → Prop
  | called (stage : w.stage = .spawned) : Stride w none { w with stage := .inLoop }
  | stayed (stage : w.stage = .inLoop) : Stride w none w
  | returned (stage : w.stage = .inLoop) : Stride w none { w with stage := .returned }
  | sampled (stage : w.stage = .returned) :
      Stride w none { w with stage := .sampled w.teardownRequested }
  | reported (requested : Bool) (stage : w.stage = .sampled requested) :
      Stride w (some requested) { w with stage := .finished }

/-- The vendor calls of a worker's next step. -/
def nextCalls (w : Worker) : List Vendor.Call :=
  match w.stage with
  | .spawned => [.eventLoop w.session]
  | .inLoop | .returned | .sampled _ | .finished => []

/-- What becomes of a worker when a teardown is announced to the one of this number. -/
def asked (id : WorkerId) (w : Worker) : Worker :=
  if w.id = id then { w with teardownRequested := true } else w

@[simp]
theorem asked_id (id : WorkerId) (w : Worker) : (w.asked id).id = w.id := by
  rw [asked]
  split <;> rfl

@[simp]
theorem asked_stage (id : WorkerId) (w : Worker) : (w.asked id).stage = w.stage := by
  rw [asked]
  split <;> rfl

@[simp]
theorem asked_session (id : WorkerId) (w : Worker) : (w.asked id).session = w.session := by
  rw [asked]
  split <;> rfl

theorem asked_teardownRequested (id : WorkerId) (w : Worker) :
    (w.asked id).teardownRequested = true ↔ w.teardownRequested = true ∨ w.id = id := by
  rw [asked]
  split <;> simp_all

variable {σ : Type}

/-- A worker's step is one of the five, and nobody but the vendor library learns of it. -/
theorem stride_of_advance? {lib : Library σ} {w w' : Worker} {report : Option Bool}
    {s s' : Surroundings σ} (h : w.advance? lib s = some (report, w', s')) :
    w.Stride report w' ∧ s.Adds s' w.nextCalls [] [] := by
  rw [advance?] at h
  cases hStage : w.stage with
  | spawned =>
      simp only [hStage, Option.some.injEq, Prod.mk.injEq] at h
      obtain ⟨rfl, rfl, rfl⟩ := h
      rw [nextCalls, hStage]
      exact ⟨.called hStage, s.enterLoop_adds lib w.id w.session⟩
  | inLoop =>
      have hRun : s.Adds (s.runLoop lib w.id).2 [] [] [] := ⟨[], by simp [Surroundings.runLoop], rfl, rfl, rfl⟩
      simp only [hStage] at h
      rw [nextCalls, hStage]
      generalize s.runLoop lib w.id = progress at h hRun
      obtain ⟨progress, s''⟩ := progress
      cases progress with
      | waiting => simp at h
      | running =>
          simp only [Option.some.injEq, Prod.mk.injEq] at h
          obtain ⟨rfl, rfl, rfl⟩ := h
          exact ⟨.stayed hStage, hRun⟩
      | returned =>
          simp only [Option.some.injEq, Prod.mk.injEq] at h
          obtain ⟨rfl, rfl, rfl⟩ := h
          exact ⟨.returned hStage, hRun⟩
  | returned =>
      simp only [hStage, Option.some.injEq, Prod.mk.injEq] at h
      obtain ⟨rfl, rfl, rfl⟩ := h
      rw [nextCalls, hStage]
      exact ⟨.sampled hStage, Surroundings.Adds.refl s⟩
  | sampled requested =>
      simp only [hStage, Option.some.injEq, Prod.mk.injEq] at h
      obtain ⟨rfl, rfl, rfl⟩ := h
      rw [nextCalls, hStage]
      exact ⟨.reported requested hStage, Surroundings.Adds.refl s⟩
  | finished => simp [hStage] at h

theorem Stride.id {w w' : Worker} {report : Option Bool} (h : w.Stride report w') :
    w'.id = w.id := by
  cases h <;> rfl

theorem Stride.session {w w' : Worker} {report : Option Bool} (h : w.Stride report w') :
    w'.session = w.session := by
  cases h <;> rfl

theorem Stride.teardownRequested {w w' : Worker} {report : Option Bool} (h : w.Stride report w') :
    w'.teardownRequested = w.teardownRequested := by
  cases h <;> rfl

theorem Stride.outstanding {w w' : Worker} {report : Option Bool} (h : w.Stride report w') :
    w.isOutstanding = true := by
  cases h <;> simp_all [isOutstanding]

/-- A worker that reports is done, and one that does not report is not. -/
theorem Stride.outstanding_iff {w w' : Worker} {report : Option Bool} (h : w.Stride report w') :
    w'.isOutstanding = true ↔ report = none := by
  cases h <;> simp_all [isOutstanding]

end Worker

namespace Crew

variable {σ : Type}

/-- The workers that have still to report. -/
def outstanding (c : Crew σ) : List Worker :=
  c.workers.filter (·.isOutstanding)

/-- Workers are numbered in the order in which they were spawned. -/
def Numbered (c : Crew σ) : Prop :=
  c.workers.map (·.id) = (List.range c.workers.length).map WorkerId.mk

theorem Numbered.nodup {c : Crew σ} (h : c.Numbered) : (c.workers.map (·.id)).Nodup := by
  rw [h]
  exact List.Nodup.map (fun _ _ hEq => congrArg WorkerId.number hEq) List.nodup_range

theorem Numbered.spawn {c : Crew σ} (h : c.Numbered) (session : SessionHandle) :
    (c.spawn session).Numbered := by
  unfold Numbered at h
  simp [Numbered, Crew.spawn, List.range_succ, h, nextWorker]

/-- Workers that are changed one by one keep their numbers. -/
theorem Numbered.map {c c' : Crew σ} (h : c.Numbered) (f : Worker → Worker)
    (hWorkers : c'.workers = c.workers.map f) (hId : ∀ w ∈ c.workers, (f w).id = w.id) :
    c'.Numbered := by
  have hIds : c'.workers.map (·.id) = c.workers.map (·.id) := by
    rw [hWorkers, List.map_map]
    exact List.map_congr_left hId
  rw [Numbered, hIds, hWorkers, List.length_map]
  exact h

/-- A worker may be put in its own place under the number that it had. -/
theorem Numbered.replace {c c' : Crew σ} {w w' : Worker} (h : c.Numbered) (hId : w'.id = w.id)
    (hWorkers : c'.workers = c.workers.map fun other => if other.id = w.id then w' else other) :
    c'.Numbered := by
  refine h.map _ hWorkers fun other _ => ?_
  split
  · next hSame => rw [hId, hSame]
  · rfl

/-- A worker that neither leaves a kind nor joins it leaves those of the kind as they are. -/
theorem filter_replace_of_not {kind : Worker → Bool} {workers : List Worker}
    {worker replacement : Worker} (hMember : worker ∈ workers)
    (hNodup : (workers.map (·.id)).Nodup) (hWorker : kind worker = false)
    (hReplacement : kind replacement = false) :
    (workers.map fun other => if other.id = worker.id then replacement else other).filter kind =
      workers.filter kind := by
  have hSame {other : Worker} (hOther : other ∈ workers) (hId : other.id = worker.id) :
      other = worker :=
    List.inj_on_of_nodup_map hNodup hOther hMember hId
  rw [← List.filterMap_eq_filter, List.filterMap_map]
  refine List.filterMap_congr fun other hOther => ?_
  by_cases hId : other.id = worker.id
  · simp [Option.guard, hSame hOther hId, hWorker, hReplacement]
  · simp [hId]

/-- If one worker alone is of a kind, and its place is taken by another, then at most that other one
is of that kind. -/
theorem filter_replace {kind : Worker → Bool} {workers : List Worker} {worker : Worker}
    (replacement : Worker) (hOnly : workers.filter kind = [worker])
    (hNodup : (workers.map (·.id)).Nodup) :
    (workers.map fun other => if other.id = worker.id then replacement else other).filter kind =
      if kind replacement then [replacement] else [] := by
  induction workers with
  | nil => simp at hOnly
  | cons first rest ih =>
      simp only [List.map_cons, List.nodup_cons, List.mem_map, not_exists, not_and] at hNodup
      cases hFirst : kind first with
      | true =>
          simp only [List.filter_cons, hFirst, ↓reduceIte, List.cons.injEq] at hOnly
          obtain ⟨rfl, hRest⟩ := hOnly
          have hSame : rest.map (fun other => if other.id = first.id then replacement else other) =
              rest := by
            conv_rhs => rw [← List.map_id rest]
            refine List.map_congr_left fun other hOther => ?_
            simp [hNodup.1 other hOther]
          rw [List.map_cons, if_pos rfl, hSame, List.filter_cons, hRest]
      | false =>
          have hTail : rest.filter kind = [worker] := by
            simpa [List.filter_cons, hFirst] using hOnly
          have hMem : worker ∈ rest := List.mem_of_mem_filter (by rw [hTail]; simp)
          have hNe : first.id ≠ worker.id := fun hEq => hNodup.1 worker hMem hEq.symm
          simp only [List.map_cons, if_neg hNe, List.filter_cons, hFirst, Bool.false_eq_true,
            ↓reduceIte]
          exact ih hTail hNodup.2

/-- A worker may be put in its own place as it is. -/
theorem replace_self {workers : List Worker} {worker : Worker} (hMember : worker ∈ workers)
    (hNodup : (workers.map (·.id)).Nodup) :
    (workers.map fun other => if other.id = worker.id then worker else other) = workers := by
  conv_rhs => rw [← List.map_id workers]
  refine List.map_congr_left fun other hOther => ?_
  by_cases hId : other.id = worker.id
  · rw [if_pos hId, List.inj_on_of_nodup_map hNodup hOther hMember hId, id]
  · rw [if_neg hId, id]

variable {c c' : Crew σ} {lib : Library σ} {id : WorkerId} {report : Option Bool}

/-- When a worker makes a step, it is put in its own place. -/
theorem advance?_eq_some (h : c.advance? lib id = some (report, c')) :
    ∃ w w' s', w ∈ c.workers ∧ w.id = id ∧
      w.advance? lib c.toSurroundings = some (report, w', s') ∧
      c' = { s' with
        workers := c.workers.map fun other => if other.id = id then w' else other } := by
  rw [advance?] at h
  cases hFind : c.workers.find? (·.id = id) with
  | none => simp [hFind] at h
  | some w =>
      cases hStep : w.advance? lib c.toSurroundings with
      | none => simp [hFind, hStep] at h
      | some result =>
          obtain ⟨report', w', s'⟩ := result
          simp only [hFind, hStep, Option.some.injEq, Prod.mk.injEq] at h
          obtain ⟨rfl, rfl⟩ := h
          have hId : w.id = id := by simpa using List.find?_some hFind
          exact ⟨w, w', s', List.mem_of_find?_eq_some hFind, hId, hStep, rfl⟩

theorem stride_of_advance? (h : c.advance? lib id = some (report, c')) :
    ∃ w w', w ∈ c.workers ∧ w.id = id ∧ w.Stride report w' ∧
      c'.workers = c.workers.map (fun other => if other.id = id then w' else other) ∧
      c.toSurroundings.Adds c'.toSurroundings w.nextCalls [] [] := by
  obtain ⟨w, w', s', hMember, hId, hStep, rfl⟩ := advance?_eq_some h
  obtain ⟨hStride, hAdds⟩ := Worker.stride_of_advance? hStep
  exact ⟨w, w', hMember, hId, hStride, rfl, hAdds⟩

/-- A worker can make a step only while it is outstanding. -/
theorem advance?_eq_none (hNone : c.outstanding = []) : c.advance? lib id = none := by
  cases hStep : c.advance? lib id with
  | none => rfl
  | some result =>
      obtain ⟨w, w', hMember, _, hStride, _⟩ := stride_of_advance? hStep
      have hOut : w ∈ c.outstanding := List.mem_filter.mpr ⟨hMember, hStride.outstanding⟩
      simp [hNone] at hOut

end Crew

end RadioLifecycle
