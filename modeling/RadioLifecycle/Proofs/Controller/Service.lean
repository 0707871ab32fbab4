import RadioLifecycle.Proofs.Controller.Shift

/-!
What a call on the controller does to the vendor library. The library's state changes by the calls
that are entered into the journal, one after another, and by nothing else.
-/

namespace RadioLifecycle

open Vendor (Library Status SessionHandle InterfaceHandle Buffer WorkerId findAmong findInterface)

variable {σ : Type}

namespace Vendor.Library

/-- What one call does to the state of a library. -/
inductive Answers (lib : Library σ) (v : σ) : Call → σ → Prop
  | bringUp : Answers lib v (.bringUp (lib.bringUp v).1) (lib.bringUp v).2.2
  | cleanup (session : SessionHandle) : Answers lib v (.cleanup session) (lib.cleanup session v)
  | eventLoop (worker : WorkerId) (session : SessionHandle) :
      Answers lib v (.eventLoop session) (lib.enterLoop worker session v)
  | interfaces (session : SessionHandle) :
      Answers lib v (.interfaces session) (lib.interfaces session v).2
  | interfaceName (interface : InterfaceHandle) :
      Answers lib v (.interfaceName interface) (lib.interfaceName interface v).2
  | driverVersion (interface : InterfaceHandle) (buffer : Buffer) :
      Answers lib v (.driverVersion interface) (lib.driverVersion interface buffer v).2.2
  | firmwareVersion (interface : InterfaceHandle) (buffer : Buffer) :
      Answers lib v (.firmwareVersion interface) (lib.firmwareVersion interface buffer v).2.2

/-- What some calls do to the state of a library. -/
inductive Serves (lib : Library σ) : σ → List Call → σ → Prop
  | nil (v : σ) : Serves lib v [] v
  | cons {v u v' : σ} {call : Call} {rest : List Call} (first : lib.Answers v call u)
      (later : lib.Serves u rest v') : Serves lib v (call :: rest) v'

theorem Serves.append {lib : Library σ} {v u v' : σ} {calls more : List Call}
    (first : lib.Serves v calls u) (second : lib.Serves u more v') :
    lib.Serves v (calls ++ more) v' := by
  induction first with
  | nil => exact second
  | cons hCall _ ih => exact .cons hCall (ih second)

theorem Serves.eq_of_nil {lib : Library σ} {v v' : σ} (h : lib.Serves v [] v') : v' = v := by
  cases h
  rfl

end Vendor.Library

namespace Surroundings

/-- The journal of the second surroundings continues that of the first, and the library has come
from one state to the other by the calls that it has in addition. -/
def Served (lib : Library σ) (w w' : Surroundings σ) : Prop :=
  ∃ entries : Journal, w'.journal = w.journal ++ entries ∧
    lib.Serves w.vendor entries.calls w'.vendor

variable {lib : Library σ} {w w' w'' : Surroundings σ}

theorem Served.refl (w : Surroundings σ) : w.Served lib w :=
  ⟨[], (List.append_nil _).symm, .nil _⟩

theorem Served.trans (first : w.Served lib w') (second : w'.Served lib w'') : w.Served lib w'' := by
  obtain ⟨e₁, hJournal₁, hServes₁⟩ := first
  obtain ⟨e₂, hJournal₂, hServes₂⟩ := second
  refine ⟨e₁ ++ e₂, ?_, ?_⟩
  · rw [hJournal₂, hJournal₁, List.append_assoc]
  · rw [Journal.calls_append]
    exact hServes₁.append hServes₂

/-- The calls that lead from one state to the other are those that the journal gained. -/
theorem Served.serves {calls : List Vendor.Call} {told : List Delivery} {fatals : List Phase}
    (served : w.Served lib w') (adds : w.Adds w' calls told fatals) :
    lib.Serves w.vendor calls w'.vendor := by
  obtain ⟨entries, hJournal, hServes⟩ := served
  obtain ⟨others, hOthers, rfl, _, _⟩ := adds
  obtain rfl : entries = others := List.append_cancel_left (hJournal.symm.trans hOthers)
  exact hServes

theorem note_served (n : Notice) (w : Surroundings σ) : w.Served lib (w.note n) :=
  ⟨[.notice n], rfl, .nil _⟩

theorem enter_fatal_served (phase : Phase) (w : Surroundings σ) :
    w.Served lib (w.enter (.fatal phase)) :=
  ⟨[.fatal phase], rfl, .nil _⟩

theorem deliver_served (respond : Response) (d : Delivery) (w : Surroundings σ) :
    w.Served lib (w.deliver respond d).2 :=
  ⟨[.delivery d], rfl, .nil _⟩

theorem bringUp_served (w : Surroundings σ) : w.Served lib (w.bringUp lib).2 := by
  have hNotices (notices : List Notice) : Journal.calls (notices.map .notice) = [] := by
    simp [Journal.calls, List.filterMap_map]
  refine ⟨_, rfl, .cons .bringUp ?_⟩
  rw [← Journal.calls, hNotices]
  exact .nil _

theorem cleanup_served (session : SessionHandle) (w : Surroundings σ) :
    w.Served lib (w.cleanup lib session) :=
  ⟨[.call (.cleanup session)], rfl, .cons (.cleanup session) (.nil _)⟩

theorem interfaces_served (session : SessionHandle) (w : Surroundings σ) :
    w.Served lib (w.interfaces lib session).2 :=
  ⟨[.call (.interfaces session)], rfl, .cons (.interfaces session) (.nil _)⟩

theorem interfaceName_served (interface : InterfaceHandle) (w : Surroundings σ) :
    w.Served lib (w.interfaceName lib interface).2 :=
  ⟨[.call (.interfaceName interface)], rfl, .cons (.interfaceName interface) (.nil _)⟩

theorem driverVersion_served (interface : InterfaceHandle) (buffer : Buffer) (w : Surroundings σ) :
    w.Served lib (w.driverVersion lib interface buffer).2.2 :=
  ⟨[.call (.driverVersion interface)], rfl, .cons (.driverVersion interface buffer) (.nil _)⟩

theorem firmwareVersion_served (interface : InterfaceHandle) (buffer : Buffer)
    (w : Surroundings σ) : w.Served lib (w.firmwareVersion lib interface buffer).2.2 :=
  ⟨[.call (.firmwareVersion interface)], rfl, .cons (.firmwareVersion interface buffer) (.nil _)⟩

end Surroundings

open Surroundings

variable {lib : Library σ}

theorem Subscribers.broadcast_served (s : Subscribers SubscriberId) (event : Event) (name : String)
    (respond : Response) (w : Surroundings σ) :
    w.Served lib (s.broadcast name (fun subscriber w => w.deliver respond ⟨subscriber, event⟩)
      Surroundings.note w).2 := by
  obtain ⟨members⟩ := s
  simp only [broadcast]
  induction members generalizing w with
  | nil => exact .refl w
  | cons subscriber rest ih =>
      have hRemark (ending : Ending) (w : Surroundings σ) :
          w.Served lib (remark name Surroundings.note ending w) := by
        cases ending with
        | accepted => exact .refl w
        | disconnected | panicked => exact note_served _ w
      exact (w.deliver_served respond ⟨subscriber, event⟩).trans ((hRemark _ _).trans (ih _))

namespace Vendor

theorem findAmong_served (wanted : String) (listed : List InterfaceHandle) (w : Surroundings σ) :
    w.Served lib (findAmong lib wanted listed w).2 := by
  induction listed generalizing w with
  | nil => exact .refl w
  | cons interface rest ih =>
      have hAsk : w.Served lib (w.interfaceName lib interface).2 := w.interfaceName_served interface
      rw [findAmong]
      generalize w.interfaceName lib interface = answer at hAsk ⊢
      rcases answer with ⟨status | name, w'⟩
      · exact hAsk.trans ((note_served _ w').trans (ih _))
      · dsimp only
        split
        · exact hAsk
        · exact hAsk.trans (ih w')

theorem findInterface_served (session : SessionHandle) (wanted : String) (w : Surroundings σ) :
    w.Served lib (findInterface lib session wanted w).2 := by
  have hList : w.Served lib (w.interfaces lib session).2 := w.interfaces_served session
  rw [findInterface]
  generalize w.interfaces lib session = answer at hList ⊢
  rcases answer with ⟨status | listed, w'⟩
  · exact hList.trans (note_served _ w')
  · have hAsk : w'.Served lib (findAmong lib wanted listed w').2 := findAmong_served wanted listed w'
    dsimp only
    generalize findAmong lib wanted listed w' = found at hAsk ⊢
    rcases found with ⟨_ | interface, w''⟩
    · exact hList.trans (hAsk.trans (note_served _ w''))
    · exact hList.trans hAsk

end Vendor

namespace Chip

theorem invalidate_served (c : Chip) (w : Surroundings σ) : w.Served lib (c.invalidate w).2 := by
  simp only [invalidate]
  split
  · exact note_served _ w
  · exact .refl w

theorem description_served {w : Surroundings σ}
    {answer : Except Status Unit × Buffer × Surroundings σ} (failed : Status → Notice)
    (hQuery : w.Served lib answer.2.2) : w.Served lib (description answer failed).2 := by
  obtain ⟨status | _, buffer, w'⟩ := answer
  · exact hQuery.trans (note_served _ w')
  · exact hQuery

theorem perform_served (respond : Response) (alive : Bool) (c : Chip) (request : Request)
    (w : Surroundings σ) : w.Served lib (c.perform lib respond alive request w).2.2 := by
  cases request with
  | invalidate => exact c.invalidate_served w
  | report =>
      simp only [perform, requestReport]
      cases c.linked && alive with
      | false => exact .refl w
      | true =>
          let buffer := Buffer.zeroed reportBufferSize
          have hDriver : w.Served lib
              (description (w.driverVersion lib c.interface buffer) .driverVersionFailed).2 :=
            description_served _ (w.driverVersion_served c.interface buffer)
          have hFirmware (v : Surroundings σ) : v.Served lib
              (description (v.firmwareVersion lib c.interface buffer) .firmwareVersionFailed).2 :=
            description_served _ (v.firmwareVersion_served c.interface buffer)
          exact hDriver.trans ((hFirmware _).trans (c.subscribers.broadcast_served _ _ _ _))
  | id | isValid | register _ | unregister _ | modes | configure _ | mode => exact .refl w

end Chip

namespace Radio

/-- The vendor library has come from one state to the other by the calls entered meanwhile. -/
def Served (lib : Library σ) (r r' : Radio σ) : Prop :=
  r.toSurroundings.Served lib r'.toSurroundings

theorem announce_served (respond : Response) (event : Event) (r : Radio σ) :
    r.Served lib (r.announce respond event) :=
  r.controller.subscribers.broadcast_served event event.name respond r.toSurroundings

theorem bindConfiguredChip_served (handle : SessionHandle) (r : Radio σ) :
    r.Served lib (r.bindConfiguredChip lib handle) := by
  have hFind : r.toSurroundings.Served lib
      (findInterface lib handle r.controller.interface r.toSurroundings).2 :=
    Vendor.findInterface_served handle r.controller.interface r.toSurroundings
  rw [bindConfiguredChip]
  generalize findInterface lib handle r.controller.interface r.toSurroundings = found at hFind ⊢
  rcases found with ⟨_ | interface, w⟩
  · exact hFind.trans (w.note_served _)
  · exact hFind.trans (w.note_served _)

theorem openSession_served (r : Radio σ) : r.Served lib (r.openSession lib).2 := by
  have hUp : r.toSurroundings.Served lib ((r.note .bringingUp).bringUp lib).2 :=
    (r.toSurroundings.note_served .bringingUp).trans (bringUp_served _)
  simp only [openSession, Session.acquire]
  generalize (r.note .bringingUp).bringUp lib = answer at hUp ⊢
  obtain ⟨status | handle, w⟩ := answer
  · exact hUp.trans (w.note_served _)
  · exact hUp.trans (bindConfiguredChip_served handle
      { toCrew := ((r.note .bringingUp).within w).spawn handle
        controller := r.controller.sessionOpened ⟨some handle⟩ r.nextWorker })

theorem start_served (respond : Response) (command : CommandId) (r : Radio σ) :
    r.Served lib (r.start lib respond command) := by
  rw [start]
  split
  · exact r.announce_served respond _
  · exact (r.toSurroundings.note_served _).trans (announce_served respond _ _)
  · have hOpen : r.Served lib (r.openSession lib).2 := r.openSession_served
    generalize r.openSession lib = outcome at hOpen ⊢
    obtain ⟨failure | _, r'⟩ := outcome
    · exact hOpen.trans (announce_served respond _ _)
    · exact hOpen.trans ((r'.toSurroundings.note_served _).trans (announce_served respond _ _))

theorem beginTeardown_served (command : CommandId) (r : Radio σ) :
    r.Served lib (r.beginTeardown command) := by
  rw [Served, beginTeardown]
  cases hChip : r.controller.chip with
  | none =>
      cases hRunner : r.controller.runner <;>
        simpa [within, Controller.teardownBegun, hRunner, Crew.requestTeardown] using
          Surroundings.Served.refl r.toSurroundings
  | some chip =>
      cases hRunner : r.controller.runner <;>
        simpa [within, Controller.teardownBegun, hRunner, Crew.requestTeardown] using
          chip.invalidate_served r.toSurroundings

theorem finish_served (respond : Response) (r : Radio σ) : r.Served lib (r.finish respond) := by
  rw [finish]
  split
  · exact (r.toSurroundings.note_served .cleanupComplete).trans (announce_served respond _ _)
  · exact .refl _

theorem stop_served (respond : Response) (command : CommandId) (r : Radio σ) :
    r.Served lib (r.stop lib respond command) := by
  rw [stop]
  split
  · exact r.announce_served respond _
  · exact .refl _
  · split
    · exact r.toSurroundings.note_served _
    · next handle _ =>
        have hBegun : r.Served lib ((r.note (.cleaningUp command)).beginTeardown command) :=
          (r.toSurroundings.note_served _).trans (beginTeardown_served command _)
        exact hBegun.trans ((cleanup_served handle _).trans (finish_served respond _))

theorem onLoopExited_served (respond : Response) (requested : Bool) (r : Radio σ) :
    r.Served lib (r.onLoopExited respond requested).2 := by
  rw [onLoopExited]
  split
  · exact finish_served respond _
  · exact (r.toSurroundings.note_served _).trans (enter_fatal_served _ _)

theorem onChip_served (respond : Response) (chip : Option ChipId) (request : Chip.Request)
    (r : Radio σ) : r.Served lib (r.onChip lib respond chip request).2 := by
  rw [onChip]
  split
  · exact .refl _
  · next found _ => exact found.perform_served respond true request r.toSurroundings

/-- Whatever is asked for, the library comes from one state to the next by the calls that are
entered into the journal. -/
theorem obey_served (respond : Response) (r : Radio σ) (cause : Cause) :
    r.Served lib (r.obey lib respond cause) := by
  cases cause with
  | exitReport worker requested => exact r.onLoopExited_served respond requested
  | command command =>
      cases command with
      | start command => exact r.start_served respond command
      | stop command => exact r.stop_served respond command
      | onChip chip request => exact r.onChip_served respond chip request
      | phase | isStarted | teardown | currentChip | hasChip _ | subscribe _ | unsubscribe _ =>
          exact .refl _

end Radio

end RadioLifecycle
