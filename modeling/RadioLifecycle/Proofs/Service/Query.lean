import RadioLifecycle.Proofs.ControlThread.Call
import RadioLifecycle.Proofs.System.Course
import RadioLifecycle.Service
import RadioLifecycle.Simulation.Library

/-!
Queries of the service. A query is a call of the control thread, so whoever asks is told what became
of the question: that the control thread cannot wait for itself, the answer given on the control
thread behind everything submitted before, or that the control thread is gone.
-/

namespace RadioLifecycle

open ControlThread (Completed Course Faithful Lost Move Returns contextAfter moves?)
open Vendor (Library SessionHandle)

namespace Service

variable {σ α : Type}

/-- What is read off the reply to a task of one command. -/
def reading (read : Answer → Option α) (otherwise : α) : Reply → α
  | .answers [answer] => (read answer).getD otherwise
  | _ => otherwise

/-- To ask is to call the control thread, and to read what it replies. -/
theorem ask_eq (lib : Library σ) (audience : Audience) (s : Service σ) (origin : Origin)
    (c : Command) (read : Answer → Option α) (otherwise : α) :
    s.ask lib audience origin c read otherwise =
      ((s.system.call (Task.run lib audience) origin (.perform [c])).1.map (reading read otherwise),
        { s with system := (s.system.call (Task.run lib audience) origin (.perform [c])).2 }) :=
  rfl

/-- A request of a chip that has to be waited for is a question, and what client code on the control
thread is told of it is what any caller there would be told. -/
theorem onChip_eq_ask (lib : Library σ) (audience : Audience) (s : Service σ) (origin : Origin)
    (chip : ChipId) {r : Chip.Request} (hWaits : r.waits = true) :
    s.onChip lib audience origin chip r = s.ask lib audience origin (.onChip (some chip) r)
      (fun | .ofChip answer => answer | _ => none) (defaultAnswer r) ∧
    r.outcomeInside chip = (s.onChip lib audience .controlThread chip r).1 ∧
    (r.operations chip).flatMap (·.submissions) = [] := by
  rw [onChip, if_pos hWaits, onChip, if_pos hWaits, Chip.Request.outcomeInside, if_pos hWaits,
    Chip.Request.operations, if_pos hWaits]
  exact ⟨rfl, rfl, rfl⟩

/-- A call of a control thread that is shared with anybody comes to one of three ends. It is refused
as reentrant exactly when it is made on the control thread itself, and then nothing is queued and
nothing changes. Else the caller is given a reply exactly if the task was executed to completion,
which happened once, with this reply, on the context that everything accepted before had left behind
and nothing accepted later; and an error exactly if it was not and never will be, because it was
refused, because a task ahead of it ended the thread, or because it broke down itself. One of the
ends comes as soon as the thread has executed what is queued. The queries of the service and of its
chip handles are such calls. -/
theorem call_faithful :
    (∀ {τ γ ρ : Type} (setting : Setting τ γ ρ) (x : γ) (earlier : Incidents τ γ ρ)
      (b : ControlThread τ γ ρ), Course setting { context := x } earlier b →
      ∀ (origin : Origin) (task : τ),
        (∀ story result c, Returns setting b origin task story result c →
          Faithful setting x earlier b origin task story result c) ∧
        (∀ run story reply c, setting = .alone run →
          Returns setting b origin task story (.ok reply) c →
          reply = (run task (contextAfter run x earlier.accepted)).reply) ∧
        (∀ ticket d, b.request origin task = (.ok ticket, d) →
          ∀ later c, Course setting d later c → ∀ run, setting.runs run →
            ∃ more result, Course setting c more (c.complete.catchUp run) ∧
              (c.complete.catchUp run).outcome? ticket = some result)) ∧
    (∀ {σ : Type} (vendor : σ) (interface : String) (history : Incidents Task (Radio σ) Reply)
      (s : Service σ),
      Course (System.setting σ) (System.initial vendor interface) history s.system →
      s.system.busy = none →
      ∀ (lib : Library σ) (audience : Audience),
        (∀ {α : Type} (origin : Origin) (c : Command) (read : Answer → Option α) (otherwise : α),
          ∃ story result,
            Faithful (System.setting σ) (System.initial vendor interface).context history s.system
              origin (.perform [c]) story result (s.ask lib audience origin c read otherwise).2.system ∧
            (s.ask lib audience origin c read otherwise).1 = result.map (reading read otherwise)) ∧
        (∀ (origin : Origin) (chip : ChipId) (r : Chip.Request), r.waits = true →
          s.onChip lib audience origin chip r = s.ask lib audience origin (.onChip (some chip) r)
            (fun | .ofChip answer => answer | _ => none) (defaultAnswer r) ∧
          r.outcomeInside chip = (s.onChip lib audience .controlThread chip r).1 ∧
          (r.operations chip).flatMap (·.submissions) = [])) := by
  constructor
  · intro τ γ ρ setting x earlier b reached origin task
    have account := reached.account
    refine ⟨?_, ?_, ?_⟩
    · intro story result c returns
      exact returns.faithful account
    · intro run story reply c hAlone returns
      cases hAlone
      exact (((returns.faithful account).ok_iff reply).mp rfl).reply_eq
    · intro ticket d hRequest later c hCourse run lawful
      obtain ⟨_, hRunning, rfl, rfl⟩ := ControlThread.request_eq_ok hRequest
      have hLater := (account.enqueue hRunning task).course hCourse
      have hAccepted : (⟨b.accepted⟩, task) ∈
          Incidents.accepted (earlier ++ [.accepted (⟨b.accepted⟩, task)] ++ later) := by
        rw [Incidents.accepted_append, (earlier.snoc_accepted _).1]
        simp
      obtain ⟨result, hTold⟩ := Option.isSome_iff_exists.mp (hLater.told lawful hAccepted)
      obtain ⟨more, hMore⟩ := ControlThread.course_catchUp lawful c
      exact ⟨more, result, hMore, hTold⟩
  · intro σ vendor interface history s reached idle lib audience
    constructor
    · intro α origin c read otherwise
      have account := reached.account
      obtain ⟨story, returns⟩ :=
        ControlThread.returns_call account (Task.admissible_run lib audience) idle origin
          (.perform [c])
      exact ⟨story, _, returns.faithful account, rfl⟩
    · intro origin chip r hWaits
      exact onChip_eq_ask lib audience s origin chip hWaits

/-- One task is executed while another is submitted, and then somebody calls. If the one that waits
lets the thread proceed, the caller is given the length of the log that both left behind; if it
halts the thread, the caller is told that the thread is gone; and on the control thread itself the
call is refused. A service with a session whose worker is in the event loop says that it is started.
-/
theorem call_faithful_oneAhead :
    let run : Nat → List Nat → Execution Nat (List Nat) Nat := fun task log =>
      { context := log ++ [task], reply := log.length,
        verdict := if task = 0 then .halt else .proceed }
    let moves (task : Nat) : List (Move Nat) := [.submit 5, .begin, .submit task, .finish]
    let waiting := (moves? run (moves 6) { context := [] }).get rfl
    let doomed := (moves? run (moves 0) { context := [] }).get rfl
    let vendor : Simulation SessionHandle := { behaviour := { interfaces := [{ name := "wlan0" }] } }
    let audience : Audience := { respond := fun _ _ => .accepted }
    let actions : List (Action (Simulation SessionHandle)) :=
      [.submit (.perform [.start ⟨1⟩]), .execute, .work ⟨0⟩]
    let system := (System.replay? Simulation.library audience actions
      (System.initial vendor "wlan0")).get (by decide +kernel)
    let service : Service (Simulation SessionHandle) := { system }
    (waiting.call run .elsewhere 7).1 = .ok 2 ∧
    (∃ story, Completed (.alone run) [] [(⟨0⟩, 5), (⟨1⟩, 6)] ⟨2⟩ 7 story 2) ∧
    (doomed.call run .elsewhere 7).1 = .error .controlThreadGone ∧
    (∃ story : Incidents Nat (List Nat) Nat,
      Lost [(⟨0⟩, 5), (⟨1⟩, 0)] ⟨2⟩ story ∧ story.completions ⟨2⟩ = []) ∧
    waiting.call run .controlThread 7 = (.error .reentrantCall, waiting) ∧
    (service.isStarted Simulation.library audience .elsewhere).1 = .ok true ∧
    ∃ ahead story reply, Completed (System.setting (Simulation SessionHandle))
      (System.initial vendor "wlan0").context ahead ⟨1⟩ (.perform [.isStarted]) story reply := by
  intro run moves waiting doomed vendor audience actions system service
  obtain ⟨calm, hWaiting, hCalm, _⟩ := ControlThread.course_of_moves?
    (show moves? run (moves 6) { context := [] } = some waiting from (Option.some_get _).symm)
  obtain ⟨grim, hDoomed, hGrim, _⟩ := ControlThread.course_of_moves?
    (show moves? run (moves 0) { context := [] } = some doomed from (Option.some_get _).symm)
  have hReply : (waiting.call run .elsewhere 7).1 = .ok 2 := rfl
  have hGone : (doomed.call run .elsewhere 7).1 = .error .controlThreadGone := rfl
  refine ⟨hReply, ?_, hGone, ?_, ?_, ?_⟩
  · obtain ⟨story, returns⟩ := ControlThread.returns_call hWaiting.account rfl rfl .elsewhere 7
    have faithful := (call_faithful.1 _ _ _ _ hWaiting .elsewhere 7).1 _ _ _ returns
    have hCompleted := (faithful.ok_iff 2).mp hReply
    rw [hCalm] at hCompleted
    exact ⟨calm ++ story, hCompleted⟩
  · obtain ⟨story, returns⟩ := ControlThread.returns_call hDoomed.account rfl rfl .elsewhere 7
    have faithful := (call_faithful.1 _ _ _ _ hDoomed .elsewhere 7).1 _ _ _ returns
    have hWhy := faithful.why_gone hGone
    rw [hGrim] at hWhy
    refine ⟨grim ++ story, ?_, (faithful.gone_iff.mp hGone).2⟩
    rcases hWhy with hClosed | hLost
    · cases hClosed
    · exact hLost
  · have returns : Returns (.alone run) waiting .controlThread 7 []
        (waiting.call run .controlThread 7).1 (waiting.call run .controlThread 7).2 := .refused rfl
    have faithful := (call_faithful.1 _ _ _ _ hWaiting .controlThread 7).1 _ _ _ returns
    exact Prod.ext (faithful.reentrant_iff.mpr rfl) (faithful.untouched rfl).2
  · have hAnswer : (service.isStarted Simulation.library audience .elsewhere).1 = .ok true := by
      decide +kernel
    have hNext : system.accepted = 1 := by decide +kernel
    have hIdle : system.busy.isNone = true := by decide +kernel
    obtain ⟨history, reached⟩ := System.course_of_replay? (t := system) (Option.some_get _).symm
    clear_value system
    have hIsStarted : ∃ story result,
        Faithful (System.setting (Simulation SessionHandle)) (System.initial vendor "wlan0").context
          history system .elsewhere (.perform [.isStarted]) story result
          (service.isStarted Simulation.library audience .elsewhere).2.system ∧
        (service.isStarted Simulation.library audience .elsewhere).1 = result.map (reading _ _) :=
      (call_faithful.2 vendor "wlan0" history service reached (Option.isNone_iff_eq_none.mp hIdle)
        Simulation.library audience).1 .elsewhere .isStarted _ _
    obtain ⟨story, result, faithful, hReading⟩ := hIsStarted
    refine ⟨hAnswer, history.accepted, history ++ story, ?_⟩
    cases result with
    | error e => cases hAnswer.symm.trans hReading
    | ok reply =>
        have hCompleted := (faithful.ok_iff reply).mp rfl
        rw [hNext] at hCompleted
        exact ⟨reply, hCompleted⟩

end Service

end RadioLifecycle
