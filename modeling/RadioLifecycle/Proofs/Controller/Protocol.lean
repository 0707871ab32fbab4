import RadioLifecycle.Proofs.Controller.Soundness

/-!
The protocol of sessions, as a machine of three states that says for each start, stop and exit
report what it is answered with and which state comes next. It knows nothing of workers, chips or
the conditions of a teardown. What a controller enters into the journal is what the machine says, as
far as it concerns the lives of sessions.
-/

namespace RadioLifecycle

open Vendor (Library Status SessionHandle InterfaceHandle WorkerId)

/-- Whether an entry belongs to the life of a session. What a vendor library is asked for within a
session does not, and neither does what a chip reports. -/
def Entry.isLifecycle : Entry → Bool
  | .call (.bringUp _) | .call (.cleanup _) | .fatal _ => true
  | .delivery ⟨_, .started _⟩ | .delivery ⟨_, .startFailed _ _⟩ | .delivery ⟨_, .stopped _⟩ => true
  | .delivery ⟨_, .reported _⟩ | .call _ | .notice _ | .visit _ => false

/-- The entries that belong to the lives of sessions. -/
def Journal.lifecycle (j : Journal) : Journal :=
  j.filter Entry.isLifecycle

/-- Where the protocol stands between two calls. -/
inductive Stage where
  | stopped
  | started (session : SessionHandle)
  /-- A teardown is in progress, and this stop is to be answered. -/
  | stopping (pending : CommandId)
  deriving DecidableEq, Repr

/-- The state of the protocol, and who is told of it. -/
structure Protocol where
  stage : Stage := .stopped
  subscribers : Subscribers SubscriberId := .empty
  deriving DecidableEq, Repr

namespace Protocol

/-- The entries of a broadcast. -/
def tell (p : Protocol) (event : Event) : Journal :=
  (p.subscribers.deliveries event).map Entry.delivery

/-- What a start comes to, if the vendor library has this to say to being brought up. -/
def start (outcome : Except Status SessionHandle) (p : Protocol) (command : CommandId) :
    Journal × Protocol :=
  match p.stage, outcome with
  | .started _, _ => (p.tell (.started command), p)
  | .stopping _, _ => (p.tell (.startFailed command ⟨.notAvailable, "HAL is stopping"⟩), p)
  | .stopped, .ok session =>
    (.call (.bringUp outcome) :: p.tell (.started command), { p with stage := .started session })
  | .stopped, .error status =>
    (.call (.bringUp outcome) ::
      p.tell (.startFailed command (.ofStatus status "Failed to initialize HAL")), p)

/-- What a stop comes to. -/
def stop (p : Protocol) (command : CommandId) : Journal × Protocol :=
  match p.stage with
  | .stopped => (p.tell (.stopped command), p)
  | .stopping _ => ([], p)
  | .started session => ([.call (.cleanup session)], { p with stage := .stopping command })

/-- What the protocol answers to a command or a report, and where it stands then. Nothing stands
after a report that breaks it. -/
def react (outcome : Except Status SessionHandle) (p : Protocol) :
    Cause → Journal × Option Protocol
  | .command (.start command) => (p.start outcome command).map id some
  | .command (.stop command) => (p.stop command).map id some
  | .command (.subscribe s) => ([], some { p with subscribers := (p.subscribers.register s).2 })
  | .command (.unsubscribe s) =>
    ([], some { p with subscribers := (p.subscribers.unregister s).2 })
  | .command _ => ([], some p)
  | .exitReport _ requested =>
    match p.stage, requested with
    | .stopping pending, true => (p.tell (.stopped pending), some { p with stage := .stopped })
    | .stopped, true => ([.fatal .stopped], none)
    | .started _, true | _, false => ([.fatal .started], none)

/-- What the protocol answers to all that comes, one thing after another, and where it stands in the
end. It takes nothing once it is broken. -/
def follow : List (Cause × Except Status SessionHandle) → Option Protocol →
    Option (Journal × Option Protocol)
  | [], state => some ([], state)
  | _ :: _, none => none
  | (cause, outcome) :: rest, some p =>
    let answer := p.react outcome cause
    (follow rest answer.2).map fun (later, last) => (answer.1 ++ later, last)

/-- A controller stands where the protocol does. -/
inductive Describes : Protocol → Controller → Prop
  | stopped {c : Controller} (phase : c.phase = .stopped) : Describes ⟨.stopped, c.subscribers⟩ c
  | started {c : Controller} (session : SessionHandle) (phase : c.phase = .started)
      (held : c.session.held = some session) : Describes ⟨.started session, c.subscribers⟩ c
  | stopping {c : Controller} (command : CommandId) (phase : c.phase = .stopping)
      (pending : c.pendingStop = some command) : Describes ⟨.stopping command, c.subscribers⟩ c

end Protocol

namespace Journal

@[simp]
theorem lifecycle_append (j k : Journal) : lifecycle (j ++ k) = j.lifecycle ++ k.lifecycle :=
  List.filter_append ..

theorem lifecycle_cons (e : Entry) (j : Journal) :
    lifecycle (e :: j) = lifecycle [e] ++ j.lifecycle :=
  lifecycle_append [e] j

/-- In a journal of vendor calls alone, nothing else can belong to the life of a session. -/
theorem lifecycle_of_calls {j : Journal} (hTold : j.deliveries = []) (hFatals : j.fatals = []) :
    j.lifecycle = lifecycle (j.calls.map .call) := by
  induction j with
  | nil => rfl
  | cons e rest ih =>
      cases e with
      | call call =>
          rw [lifecycle_cons, ih hTold hFatals]
          exact (lifecycle_cons (.call call) _).symm
      | delivery => simp [deliveries] at hTold
      | fatal => simp [fatals] at hFatals
      | notice | visit => exact ih hTold hFatals

theorem lifecycle_of_deliveries {j : Journal} (hCalls : j.calls = []) (hFatals : j.fatals = []) :
    j.lifecycle = lifecycle (j.deliveries.map .delivery) := by
  induction j with
  | nil => rfl
  | cons e rest ih =>
      cases e with
      | delivery d =>
          rw [lifecycle_cons, ih hCalls hFatals]
          exact (lifecycle_cons (.delivery d) _).symm
      | call => simp [calls] at hCalls
      | fatal => simp [fatals] at hFatals
      | notice | visit => exact ih hCalls hFatals

theorem lifecycle_of_fatals {j : Journal} (hCalls : j.calls = []) (hTold : j.deliveries = []) :
    j.lifecycle = j.fatals.map .fatal := by
  induction j with
  | nil => rfl
  | cons e rest ih =>
      cases e with
      | fatal phase =>
          rw [lifecycle_cons, ih hCalls hTold]
          rfl
      | call => simp [calls] at hCalls
      | delivery => simp [deliveries] at hTold
      | notice | visit => exact ih hCalls hTold

/-- Versions and reports belong to no session's life. -/
theorem lifecycle_eq_nil {j : Journal} (asks : ∀ call ∈ j.calls, call.asksVersion = true)
    (reports : ∀ d ∈ j.deliveries, ∃ report, d.event = .reported report)
    (hFatals : j.fatals = []) : j.lifecycle = [] := by
  induction j with
  | nil => rfl
  | cons e rest ih =>
      rw [lifecycle_cons]
      cases e with
      | call call =>
          have hRest := ih (fun call hCall => asks call (List.mem_cons_of_mem _ hCall)) reports hFatals
          have hCall := asks call List.mem_cons_self
          rw [hRest, List.append_nil]
          cases call with
          | driverVersion | firmwareVersion => rfl
          | bringUp | cleanup | eventLoop | interfaces | interfaceName =>
              simp [Vendor.Call.asksVersion] at hCall
      | delivery d =>
          have hRest := ih asks (fun d hd => reports d (List.mem_cons_of_mem _ hd)) hFatals
          obtain ⟨report, hReport⟩ := reports d List.mem_cons_self
          obtain ⟨subscriber, event⟩ := d
          obtain rfl : event = .reported report := hReport
          rw [hRest, List.append_nil]
          rfl
      | fatal => simp [fatals] at hFatals
      | notice | visit => exact ih asks reports hFatals

end Journal

namespace Radio

variable {σ : Type} {r r' : Radio σ}

theorem Adds.lifecycle_of_calls {calls : List Vendor.Call} (adds : r.Adds r' calls [] []) :
    r'.journal.lifecycle = r.journal.lifecycle ++ Journal.lifecycle (calls.map .call) := by
  obtain ⟨entries, hJournal, rfl, hTold, hFatals⟩ := adds
  rw [hJournal, Journal.lifecycle_append, Journal.lifecycle_of_calls hTold hFatals]

theorem Adds.lifecycle_of_told {told : List Delivery} (adds : r.Adds r' [] told []) :
    r'.journal.lifecycle = r.journal.lifecycle ++ Journal.lifecycle (told.map .delivery) := by
  obtain ⟨entries, hJournal, hCalls, rfl, hFatals⟩ := adds
  rw [hJournal, Journal.lifecycle_append, Journal.lifecycle_of_deliveries hCalls hFatals]

theorem Adds.lifecycle_of_fatals {fatals : List Phase} (adds : r.Adds r' [] [] fatals) :
    r'.journal.lifecycle = r.journal.lifecycle ++ fatals.map Entry.fatal := by
  obtain ⟨entries, hJournal, hCalls, hTold, rfl⟩ := adds
  rw [hJournal, Journal.lifecycle_append, Journal.lifecycle_of_fatals hCalls hTold]

end Radio

namespace Protocol

variable {σ : Type} {p : Protocol} {r r' : Radio σ}

theorem Describes.subscribers {c : Controller} (h : p.Describes c) :
    p.subscribers = c.subscribers := by
  cases h <;> rfl

/-- Subscribers may come and go while the session stays as it is. -/
theorem Describes.congr {c c' : Controller} (h : p.Describes c) (kept : c.KeepsSession c') :
    Describes { p with subscribers := c'.subscribers } c' := by
  cases h with
  | stopped hPhase => exact .stopped (kept.phase.trans hPhase)
  | started session hPhase hHeld =>
      exact .started session (kept.phase.trans hPhase) (by rw [kept.session, hHeld])
  | stopping command hPhase hPending =>
      exact .stopping command (kept.phase.trans hPhase) (kept.pendingStop.trans hPending)

theorem Describes.same (h : p.Describes r.controller) (same : r.SameState r') :
    p.Describes r'.controller := by
  rw [same.1]
  exact h

/-- What subscribers are told of a start or a stop is what the protocol tells. -/
theorem lifecycle_of_broadcast {event : Event} (hSubscribers : p.subscribers = r.controller.subscribers)
    (adds : r.Adds r' [] (r.controller.subscribers.deliveries event) [])
    (hEvent : ∀ report, event ≠ .reported report) :
    r'.journal.lifecycle = r.journal.lifecycle ++ p.tell event := by
  rw [adds.lifecycle_of_told, tell, hSubscribers]
  congr 1
  refine List.filter_eq_self.mpr fun entry hEntry => ?_
  obtain ⟨d, hDelivery, rfl⟩ := List.mem_map.mp hEntry
  obtain ⟨subscriber, _, rfl⟩ := List.mem_map.mp hDelivery
  cases event with
  | reported report => exact absurd rfl (hEvent report)
  | started | startFailed | stopped => rfl

/-- What the protocol answers is what the journal gains, and the controller stands where the
protocol does then. -/
def Answers (r r' : Radio σ) (answer : Journal × Option Protocol) : Prop :=
  r'.journal.lifecycle = r.journal.lifecycle ++ answer.1 ∧
    ∀ q ∈ answer.2, q.Describes r'.controller

/-- The library is brought up before anybody is told of it. -/
theorem lifecycle_of_opening {r'' : Radio σ} {outcome : Except Status SessionHandle}
    {calls : List Vendor.Call} {event : Event}
    (first : r.Adds r' (.bringUp outcome :: calls) [] [])
    (hCalls : Journal.lifecycle (calls.map .call) = [])
    (hSubscribers : p.subscribers = r'.controller.subscribers)
    (second : r'.Adds r'' [] (r'.controller.subscribers.deliveries event) [])
    (hEvent : ∀ report, event ≠ .reported report) :
    r''.journal.lifecycle = r.journal.lifecycle ++ (.call (.bringUp outcome) :: p.tell event) := by
  have hUp : Journal.lifecycle ((.bringUp outcome :: calls).map .call) =
      [.call (.bringUp outcome)] := by
    rw [List.map_cons, Journal.lifecycle_cons, hCalls]
    rfl
  rw [lifecycle_of_broadcast hSubscribers second hEvent, first.lifecycle_of_calls, hUp,
    List.append_assoc, List.singleton_append]

theorem answers_start (lib : Library σ) (respond : Response) (command : CommandId)
    (h : p.Describes r.controller) :
    Answers r (r.start lib respond command)
      (p.react (lib.bringUp r.vendor).1 (.command (.start command))) := by
  have hSubscribers := h.subscribers
  cases h with
  | started session hPhase hHeld =>
      simp only [react, start, Radio.start, hPhase]
      refine ⟨lifecycle_of_broadcast hSubscribers (Radio.announce_adds ..) (by simp), ?_⟩
      rintro _ ⟨⟩
      exact .started session hPhase hHeld
  | stopping pending hPhase hPending =>
      simp only [react, start, Radio.start, hPhase]
      have hAdds := (r.note_adds (.startRefused command)).announce respond
        (.startFailed command stoppingFailure) rfl
      refine ⟨lifecycle_of_broadcast hSubscribers hAdds (by simp), ?_⟩
      rintro _ ⟨⟩
      exact .stopping pending hPhase hPending
  | stopped hPhase =>
      cases hOutcome : (lib.bringUp r.vendor).1 with
      | error status =>
          obtain ⟨r', hOpen, same, hAdds⟩ := Radio.openSession_of_error hOutcome
          simp only [react, start, Radio.start, hPhase, hOpen]
          refine ⟨lifecycle_of_opening hAdds rfl (by rw [same.1]) (Radio.announce_adds ..) (by simp),
            ?_⟩
          rintro _ ⟨⟩
          exact (Describes.stopped hPhase).same same
      | ok handle =>
          obtain ⟨r', hOpen, hController, hWorkers, asked, hAdds⟩ := Radio.openSession_of_ok hOutcome
          obtain ⟨hStarted, hSession, _, hOpened⟩ := Radio.fields_of_opened hController
          have hTold := (r'.note_adds (.sessionStarted command)).announce respond (.started command) rfl
          simp only [react, start, Radio.start, hPhase, hOpen]
          refine ⟨lifecycle_of_opening hAdds ?_ hOpened.symm hTold (by simp), ?_⟩
          · rw [List.map_cons, Journal.lifecycle_cons]
            simp [Journal.lifecycle, Entry.isLifecycle]
          · rintro _ ⟨⟩
            rw [← hOpened]
            exact .started handle hStarted (by rw [hSession])

theorem answers_stop (lib : Library σ) (respond : Response) (command : CommandId)
    (outcome : Except Status SessionHandle) (sound : r.controller.Sound)
    (h : p.Describes r.controller) :
    Answers r (r.stop lib respond command) (p.react outcome (.command (.stop command))) := by
  have hSubscribers := h.subscribers
  cases h with
  | stopped hPhase =>
      simp only [react, stop, Radio.stop, hPhase]
      refine ⟨lifecycle_of_broadcast hSubscribers (Radio.announce_adds ..) (by simp), ?_⟩
      rintro _ ⟨⟩
      exact .stopped hPhase
  | stopping pending hPhase hPending =>
      simp only [react, stop, Radio.stop, hPhase]
      refine ⟨(List.append_nil _).symm, ?_⟩
      rintro _ ⟨⟩
      exact .stopping pending hPhase hPending
  | started session hPhase hHeld =>
      have shift := Radio.stop_shift lib respond command sound
      generalize r.stop lib respond command = r' at shift
      cases shift with
      | torn handle _ _ hHeld' _ hController _ hAdds =>
          obtain rfl : handle = session := Option.some.inj (hHeld'.symm.trans hHeld)
          refine ⟨hAdds.lifecycle_of_calls, ?_⟩
          rintro _ ⟨⟩
          have hSame : r'.controller.subscribers = r.controller.subscribers := by
            rw [hController]
            rfl
          rw [← hSame]
          exact .stopping command (by rw [hController]; rfl) (by rw [hController]; rfl)
      | absorbed hOther | echoed hOther => cases hPhase.symm.trans hOther
      | served _ hStop => exact absurd rfl (hStop command)

theorem answers_exitReport (respond : Response) (worker : Option WorkerId) (requested : Bool)
    (outcome : Except Status SessionHandle) (sound : r.controller.Sound)
    (h : p.Describes r.controller) :
    Answers r (r.onLoopExited respond requested).2
      (p.react outcome (.exitReport worker requested)) := by
  have hSubscribers := h.subscribers
  have shift := Radio.onLoopExited_shift respond worker requested sound
  generalize (r.onLoopExited respond requested).2 = r' at shift
  cases shift with
  | closed command hPhase hPending hController _ hAdds =>
      cases h with
      | stopped hOther | started _ hOther => cases hPhase.symm.trans hOther
      | stopping pending _ hPending' =>
          obtain rfl : pending = command := Option.some.inj (hPending'.symm.trans hPending)
          refine ⟨lifecycle_of_broadcast hSubscribers hAdds (by simp), ?_⟩
          rintro _ ⟨⟩
          have hSame : r'.controller.subscribers = r.controller.subscribers := by
            rw [hController]
            rfl
          rw [← hSame]
          exact .stopped (by rw [hController]; rfl)
  | abandoned hUnasked _ hAdds =>
      have hFatal := hAdds.lifecycle_of_fatals
      cases h with
      | stopped hPhase | started _ hPhase =>
          cases requested with
          | false => exact ⟨hFatal, by simp [react]⟩
          | true =>
              rw [if_pos rfl, hPhase] at hFatal
              exact ⟨hFatal, by simp [react]⟩
      | stopping pending hPhase =>
          cases requested with
          | false => exact ⟨hFatal, by simp [react]⟩
          | true => exact absurd hPhase (hUnasked rfl)

/-- What neither starts nor stops a session changes who is told of it at most. -/
theorem react_of_served {command : Command} (outcome : Except Status SessionHandle) (c : Controller)
    (hSubscribers : p.subscribers = c.subscribers) (hStart : ∀ id, command ≠ .start id)
    (hStop : ∀ id, command ≠ .stop id) :
    p.react outcome (.command command) =
      ([], some { p with subscribers := c.subscribersAfter (.command command) }) := by
  obtain ⟨stage, subscribers⟩ := p
  obtain rfl : subscribers = c.subscribers := hSubscribers
  cases command with
  | start command => exact absurd rfl (hStart command)
  | stop command => exact absurd rfl (hStop command)
  | subscribe | unsubscribe | phase | isStarted | teardown | currentChip | hasChip | onChip => rfl

theorem answers_served {command : Command} (outcome : Except Status SessionHandle)
    (hStart : ∀ id, command ≠ .start id) (hStop : ∀ id, command ≠ .stop id)
    (shift : r.Shift (.command command) r') (h : p.Describes r.controller) :
    Answers r r' (p.react outcome (.command command)) := by
  rw [react_of_served outcome r.controller h.subscribers hStart hStop]
  cases shift with
  | served _ _ kept _ adds reports asks subscribers =>
      obtain ⟨entries, hJournal, rfl, rfl, hFatals⟩ := adds
      constructor
      · have hNone := Journal.lifecycle_eq_nil (fun call hCall => (asks call hCall).1) reports hFatals
        rw [hJournal, Journal.lifecycle_append, hNone]
      · rintro _ ⟨⟩
        rw [← subscribers]
        exact h.congr kept
  | opened | failed | repeated | refused => exact absurd rfl (hStart _)
  | torn | absorbed | echoed => exact absurd rfl (hStop _)

/-- Whatever comes, the controller answers as the protocol does. -/
theorem answers_obey (lib : Library σ) (respond : Response) (cause : Cause)
    (sound : r.controller.Sound) (h : p.Describes r.controller) :
    Answers r (r.obey lib respond cause) (p.react (lib.bringUp r.vendor).1 cause) := by
  cases cause with
  | exitReport worker requested => exact answers_exitReport respond worker requested _ sound h
  | command command =>
      have shift := Radio.obey_shift lib respond sound (.command command)
      cases command with
      | start command => exact answers_start lib respond command h
      | stop command => exact answers_stop lib respond command _ sound h
      | subscribe | unsubscribe | phase | isStarted | teardown | currentChip | hasChip | onChip =>
          exact answers_served _ (by simp) (by simp) shift h

/-- Commands do not break the protocol, and the control thread halts after a report that does. -/
theorem react_isSome_of_command (outcome : Except Status SessionHandle) (command : Command) :
    ((p.react outcome (.command command)).2).isSome = true := by
  cases command <;> rfl

theorem halts_of_react {worker : Option WorkerId} {requested : Bool}
    {outcome : Except Status SessionHandle} (respond : Response) (h : p.Describes r.controller)
    (hBroken : (p.react outcome (.exitReport worker requested)).2 = none) :
    (r.onLoopExited respond requested).1 = .halt := by
  have hUnasked : requested = true → r.controller.phase ≠ .stopping := by
    rintro rfl hPhase
    cases h with
    | stopped hOther | started _ hOther => cases hPhase.symm.trans hOther
    | stopping => simp [react] at hBroken
  rw [Radio.onLoopExited_of_not_stopping respond hUnasked]

end Protocol

end RadioLifecycle
