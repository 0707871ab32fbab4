import RadioLifecycle.Proofs.Journal.Growth

/-!
How a vendor library is to be called. It counts what is asked of it from one success in bringing it
up to the next. Such a tenure has one handle, and under it the interfaces are listed once, the event
loop is called once and one teardown is submitted, after which the library tells nothing more. Only
when all this has been done may the library be brought up again.
-/

namespace RadioLifecycle.Vendor

/-- What has been asked of the library since it issued this handle. -/
structure Tenure where
  handle : SessionHandle
  listings : Nat := 0
  loops : Nat := 0
  cleanups : Nat := 0
  deriving DecidableEq, Repr

namespace Tenure

/-- Everything that belongs to a tenure has been asked for once. -/
def Complete (t : Tenure) : Prop :=
  t.listings = 1 ∧ t.loops = 1 ∧ t.cleanups = 1

/-- The latest tenure once one more call has been made. -/
def after (tenure : Option Tenure) : Call → Option Tenure
  | .bringUp (.ok handle) => some { handle }
  | .interfaces _ => tenure.map fun t => { t with listings := t.listings + 1 }
  | .eventLoop _ => tenure.map fun t => { t with loops := t.loops + 1 }
  | .cleanup _ => tenure.map fun t => { t with cleanups := t.cleanups + 1 }
  | .bringUp (.error _) | .interfaceName _ | .driverVersion _ | .firmwareVersion _ => tenure

/-- Whether a call may be made in the latest tenure. -/
def Admits : Option Tenure → Call → Prop
  | none, .bringUp _ => True
  | none, _ => False
  | some t, .bringUp _ => t.Complete
  | some t, .interfaces handle => handle = t.handle ∧ t.listings = 0 ∧ t.cleanups = 0
  | some t, .eventLoop handle => handle = t.handle ∧ t.loops = 0
  | some t, .cleanup handle => handle = t.handle ∧ t.listings = 1 ∧ t.cleanups = 0
  | some t, .interfaceName _ | some t, .driverVersion _ | some t, .firmwareVersion _ =>
    t.listings = 1 ∧ t.cleanups = 0

/-- Each of these calls may be made when its turn comes. -/
def Conduct : Option Tenure → List Call → Prop
  | _, [] => True
  | tenure, call :: rest => Admits tenure call ∧ Conduct (after tenure call) rest

end Tenure

open Tenure

/-- The latest tenure once these calls have been made. -/
def latest (calls : List Call) : Option Tenure :=
  calls.foldl after none

namespace Call

/-- Whether the call brought the library up. -/
def opens : Call → Bool
  | .bringUp (.ok _) => true
  | .bringUp (.error _) | .cleanup _ | .eventLoop _ | .interfaces _ | .interfaceName _
  | .driverVersion _ | .firmwareVersion _ => false

/-- Whether the call lists the interfaces. -/
def lists : Call → Bool
  | .interfaces _ => true
  | .bringUp _ | .cleanup _ | .eventLoop _ | .interfaceName _ | .driverVersion _
  | .firmwareVersion _ => false

/-- Whether the call submits a teardown. -/
def tearsDown : Call → Bool
  | .cleanup _ => true
  | .bringUp _ | .eventLoop _ | .interfaces _ | .interfaceName _ | .driverVersion _
  | .firmwareVersion _ => false

/-- Whether the call asks for the name or a version of an interface. -/
def asks (call : Call) : Prop :=
  call.asksVersion = true ∨ ∃ interface, call = .interfaceName interface

end Call

namespace Tenure

variable {tenure : Option Tenure} {t : Tenure} {calls more : List Call}

theorem conduct_append : Conduct tenure (calls ++ more) ↔
    Conduct tenure calls ∧ Conduct (calls.foldl after tenure) more := by
  induction calls generalizing tenure with
  | nil => simp [Conduct]
  | cons call rest ih => simp only [List.cons_append, Conduct, ih, List.foldl_cons, and_assoc]

/-- Names and versions may be asked for between the listing and the teardown, as often as one likes,
and nothing is counted. -/
theorem conduct_of_asks (hListed : t.listings = 1) (hThere : t.cleanups = 0)
    (hAsks : ∀ call ∈ calls, call.asks) :
    Conduct (some t) calls ∧ calls.foldl after (some t) = some t := by
  induction calls with
  | nil => exact ⟨trivial, rfl⟩
  | cons call rest ih =>
      have hCall : Admits (some t) call ∧ after (some t) call = some t := by
        rcases hAsks call (by simp) with hVersion | ⟨interface, rfl⟩
        · cases call with
          | driverVersion | firmwareVersion => exact ⟨⟨hListed, hThere⟩, rfl⟩
          | bringUp | cleanup | eventLoop | interfaces | interfaceName =>
              simp [Call.asksVersion] at hVersion
        · exact ⟨⟨hListed, hThere⟩, rfl⟩
      obtain ⟨hRest, hSame⟩ := ih fun call hCall => hAsks call (List.mem_cons_of_mem _ hCall)
      rw [Conduct, List.foldl_cons, hCall.2]
      exact ⟨⟨hCall.1, hRest⟩, hSame⟩

/-- The listings that a tenure still lacks. -/
def unlisted (tenure : Option Tenure) : Nat :=
  (tenure.map fun t => 1 - t.listings).getD 0

/-- The teardowns that a tenure still lacks. -/
def undone (tenure : Option Tenure) : Nat :=
  (tenure.map fun t => 1 - t.cleanups).getD 0

/-- What a tenure lacks can only be made up for by doing it, and a new one lacks everything. -/
theorem Admits.balance {call : Call} (admits : Admits tenure call) :
    (if call.opens then 1 else 0) + unlisted tenure =
      (if call.lists then 1 else 0) + unlisted (after tenure call) ∧
    (if call.opens then 1 else 0) + undone tenure =
      (if call.tearsDown then 1 else 0) + undone (after tenure call) := by
  cases tenure with
  | none =>
      cases call with
      | bringUp outcome =>
          cases outcome <;>
            simp [after, unlisted, undone, Call.opens, Call.lists, Call.tearsDown]
      | _ => cases admits
  | some t =>
      cases call with
      | bringUp outcome =>
          obtain ⟨hListed, _, hDone⟩ := admits
          cases outcome <;>
            simp [after, unlisted, undone, Call.opens, Call.lists, Call.tearsDown, hListed, hDone]
      | interfaces | cleanup =>
          obtain ⟨_, hListings, hCleanups⟩ := admits
          simp [after, unlisted, undone, Call.opens, Call.lists, Call.tearsDown, hListings,
            hCleanups]
      | eventLoop | interfaceName | driverVersion | firmwareVersion =>
          simp [after, unlisted, undone, Call.opens, Call.lists, Call.tearsDown]

theorem Conduct.balance (conduct : Conduct tenure calls) :
    calls.countP Call.opens + unlisted tenure =
      calls.countP Call.lists + unlisted (calls.foldl after tenure) ∧
    calls.countP Call.opens + undone tenure =
      calls.countP Call.tearsDown + undone (calls.foldl after tenure) := by
  induction calls generalizing tenure with
  | nil => simp
  | cons call rest ih =>
      obtain ⟨hCall, hRest⟩ := conduct
      obtain ⟨hListed, hDone⟩ := hCall.balance
      obtain ⟨hListedRest, hDoneRest⟩ := ih hRest
      rw [List.foldl_cons]
      simp only [List.countP_cons]
      omega

/-- The library is brought up, listed and torn down in turn. -/
theorem Conduct.balance_latest (conduct : Conduct none calls) :
    calls.countP Call.opens = calls.countP Call.lists + unlisted (latest calls) ∧
    calls.countP Call.opens = calls.countP Call.tearsDown + undone (latest calls) :=
  conduct.balance

end Tenure

end RadioLifecycle.Vendor
