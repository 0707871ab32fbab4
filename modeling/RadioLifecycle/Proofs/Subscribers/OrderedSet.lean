import Mathlib.Data.List.Induction
import Mathlib.Data.List.Nodup
import RadioLifecycle.Subscribers

/-!
Registries as ordered sets. What a registry holds can be told from what was done with it: a
subscriber is in it when it was registered and not removed since, and those in it stand in the order
of their registrations, where registering a subscriber that is there already does not count. An
event goes to each of them once, in that order, whatever becomes of it at those before.
-/

namespace RadioLifecycle.Subscribers

variable {ι ε ω : Type}

/-- One thing that is done with a registry, for events of some kind. -/
inductive Use (ι ε : Type) where
  | register (s : ι)
  | unregister (s : ι)
  | contains (s : ι)
  | clear
  | size
  | broadcast (event : ε)

/-- What comes of it. -/
inductive Yield where
  | flag (b : Bool)
  | count (n : Nat)
  | done
  deriving DecidableEq, Repr

/-- One call of a subscriber: who was handed which event, and how that ended. -/
structure Callback (ι ε : Type) where
  subscriber : ι
  event : ε
  ending : Ending
  deriving DecidableEq, Repr

/-- A registry in use, with the world in which its subscribers act and the calls made of them. -/
structure Board (ι ε ω : Type) where
  registry : Subscribers ι := {}
  world : ω
  callbacks : List (Callback ι ε) := []

/-- Hand an event to a subscriber and keep record of the call. -/
def record (receive : ε → ι → ω → Ending × ω) (event : ε) (s : ι)
    (w : ω × List (Callback ι ε)) : Ending × ω × List (Callback ι ε) :=
  let (ending, world) := receive event s w.1
  (ending, world, w.2 ++ [⟨s, event, ending⟩])

/-- How subscribers receive events of some kind, how the events are called, and what becomes of
notices. What a subscriber does may depend on everything that happened before. -/
structure Manners (ι ε ω : Type) where
  receive : ε → ι → ω → Ending × ω
  name : ε → String
  note : Notice → ω → ω

/-! What the uses of a registry tell of it. -/

/-- A use after which a subscriber is not registered. -/
def Use.Removes (s : ι) : Use ι ε → Prop
  | .unregister t => t = s
  | .clear => True
  | .register _ | .contains _ | .size | .broadcast _ => False

/-- After these uses a subscriber is registered: it was, and it was not removed since. -/
def Registered (uses : List (Use ι ε)) (s : ι) : Prop :=
  ∃ before after, uses = before ++ .register s :: after ∧ ∀ u ∈ after, ¬u.Removes s

/-- So many uses came before the one by which a subscriber is registered after all of them. It was
not registered before that use, and it was not removed since. -/
def RegisteredAt (uses : List (Use ι ε)) (s : ι) (position : Nat) : Prop :=
  ∃ before after, uses = before ++ .register s :: after ∧ before.length = position ∧
    ¬Registered before s ∧ ∀ u ∈ after, ¬u.Removes s

variable {uses : List (Use ι ε)} {u : Use ι ε} {s : ι} {position : Nat}

/-- What comes last in a history comes last in every part of it that reaches its end. -/
theorem split_snoc {before after : List (Use ι ε)} {v : Use ι ε}
    (h : uses ++ [u] = before ++ v :: after) :
    (uses = before ∧ u = v ∧ after = []) ∨
      ∃ rest, after = rest ++ [u] ∧ uses = before ++ v :: rest := by
  rcases List.eq_nil_or_concat after with rfl | ⟨rest, last, rfl⟩
  · obtain ⟨hUses, hLast⟩ := List.append_inj' h rfl
    exact .inl ⟨hUses, List.singleton_inj.mp hLast, rfl⟩
  · rw [List.concat_eq_append, ← List.cons_append, ← List.append_assoc] at h
    obtain ⟨hUses, hLast⟩ := List.append_inj' h rfl
    refine .inr ⟨rest, ?_, hUses⟩
    rw [List.concat_eq_append, hLast]

theorem not_registered_nil (s : ι) : ¬Registered ([] : List (Use ι ε)) s := by
  rintro ⟨before, after, hUses, _⟩
  cases before <;> cases hUses

theorem registered_snoc :
    Registered (uses ++ [u]) s ↔ u = .register s ∨ (Registered uses s ∧ ¬u.Removes s) := by
  constructor
  · rintro ⟨before, after, hUses, hKept⟩
    rcases split_snoc hUses with ⟨_, hLast, _⟩ | ⟨rest, rfl, hRest⟩
    · exact .inl hLast
    · refine .inr ⟨⟨before, rest, hRest, fun v hv => hKept v ?_⟩, hKept u ?_⟩
      · exact List.mem_append_left _ hv
      · exact List.mem_append_right _ List.mem_cons_self
  · rintro (rfl | ⟨⟨before, after, rfl, hKept⟩, hLast⟩)
    · exact ⟨uses, [], rfl, by simp⟩
    · refine ⟨before, after ++ [u], by simp, fun v hv => ?_⟩
      rcases List.mem_append.mp hv with hv | hv
      · exact hKept v hv
      · rw [List.mem_singleton.mp hv]
        exact hLast

theorem RegisteredAt.registered (h : RegisteredAt uses s position) : Registered uses s := by
  obtain ⟨before, after, hUses, _, _, hKept⟩ := h
  exact ⟨before, after, hUses, hKept⟩

theorem RegisteredAt.lt_length (h : RegisteredAt uses s position) : position < uses.length := by
  obtain ⟨before, after, rfl, rfl, _, _⟩ := h
  simp

theorem registeredAt_snoc :
    RegisteredAt (uses ++ [u]) s position ↔
      (position = uses.length ∧ u = .register s ∧ ¬Registered uses s) ∨
        (RegisteredAt uses s position ∧ ¬u.Removes s) := by
  constructor
  · rintro ⟨before, after, hUses, rfl, hNew, hKept⟩
    rcases split_snoc hUses with ⟨rfl, hLast, _⟩ | ⟨rest, rfl, hRest⟩
    · exact .inl ⟨rfl, hLast, hNew⟩
    · refine .inr ⟨⟨before, rest, hRest, rfl, hNew, fun v hv => hKept v ?_⟩, hKept u ?_⟩
      · exact List.mem_append_left _ hv
      · exact List.mem_append_right _ List.mem_cons_self
  · rintro (⟨rfl, rfl, hNew⟩ | ⟨⟨before, after, rfl, rfl, hNew, hKept⟩, hLast⟩)
    · exact ⟨uses, [], rfl, rfl, hNew, by simp⟩
    · refine ⟨before, after ++ [u], by simp, rfl, hNew, fun v hv => ?_⟩
      rcases List.mem_append.mp hv with hv | hv
      · exact hKept v hv
      · rw [List.mem_singleton.mp hv]
        exact hLast

/-- Whoever is registered is so since some registration that took effect. -/
theorem registered_iff_exists_at : Registered uses s ↔ ∃ position, RegisteredAt uses s position := by
  constructor
  · intro h
    induction uses using List.reverseRecOn with
    | nil => exact absurd h (not_registered_nil s)
    | append_singleton uses u ih =>
        by_cases hBefore : Registered uses s
        · obtain ⟨position, hAt⟩ := ih hBefore
          refine ⟨position, registeredAt_snoc.mpr (.inr ⟨hAt, ?_⟩)⟩
          rcases registered_snoc.mp h with rfl | ⟨_, hKeeps⟩
          · exact id
          · exact hKeeps
        · rcases registered_snoc.mp h with hLast | ⟨hStill, _⟩
          · exact ⟨uses.length, registeredAt_snoc.mpr (.inl ⟨rfl, hLast, hBefore⟩)⟩
          · exact absurd hStill hBefore
  · rintro ⟨position, hAt⟩
    exact hAt.registered

/-- A list has those who are registered, each once, in the order in which they were. -/
structure Enrolled (uses : List (Use ι ε)) (members : List ι) : Prop where
  nodup : members.Nodup
  mem_iff : ∀ s, s ∈ members ↔ Registered uses s
  ordered : members.Pairwise fun s t =>
    ∀ k l, RegisteredAt uses s k → RegisteredAt uses t l → k < l

theorem enrolled_nil : Enrolled ([] : List (Use ι ε)) [] where
  nodup := List.nodup_nil
  mem_iff s := by simp [not_registered_nil]
  ordered := List.Pairwise.nil

variable {members : List ι}

/-- The order of those who were registered already does not change. -/
theorem Enrolled.ordered_snoc (h : Enrolled uses members) (u : Use ι ε) :
    members.Pairwise fun s t =>
      ∀ k l, RegisteredAt (uses ++ [u]) s k → RegisteredAt (uses ++ [u]) t l → k < l := by
  have hOld {s : ι} {k : Nat} (hMember : s ∈ members) (hAt : RegisteredAt (uses ++ [u]) s k) :
      RegisteredAt uses s k := by
    rcases registeredAt_snoc.mp hAt with ⟨_, _, hNew⟩ | ⟨hBefore, _⟩
    · exact absurd ((h.mem_iff s).mp hMember) hNew
    · exact hBefore
  apply h.ordered.imp_of_mem
  intro s t hs ht hOrder k l hk hl
  exact hOrder k l (hOld hs hk) (hOld ht hl)

theorem Enrolled.clear (uses : List (Use ι ε)) : Enrolled (uses ++ [.clear]) ([] : List ι) where
  nodup := List.nodup_nil
  mem_iff s := by
    rw [registered_snoc]
    simp [Use.Removes]
  ordered := List.Pairwise.nil

/-- Looking at a registry and telling its subscribers of an event do not change who is in it. -/
theorem Enrolled.same (h : Enrolled uses members) (hSame : ∀ s, u ≠ .register s)
    (hKeeps : ∀ s, ¬u.Removes s) : Enrolled (uses ++ [u]) members where
  nodup := h.nodup
  mem_iff s := by
    rw [h.mem_iff, registered_snoc]
    simp [hSame, hKeeps]
  ordered := h.ordered_snoc u

/-! Registries in use. -/

variable [DecidableEq ι] (manners : Manners ι ε ω)

/-- Use a registry. -/
def Board.use (b : Board ι ε ω) : Use ι ε → Yield × Board ι ε ω
  | .register s =>
    let (fresh, registry) := b.registry.register s
    (.flag fresh, { b with registry })
  | .unregister s =>
    let (held, registry) := b.registry.unregister s
    (.flag held, { b with registry })
  | .contains s => (.flag (b.registry.contains s), b)
  | .clear => (.done, { b with registry := b.registry.clear })
  | .size => (.count b.registry.size, b)
  | .broadcast event =>
    let (accepted, world, callbacks) := b.registry.broadcast (manners.name event)
      (record manners.receive event) (fun n w => (manners.note n w.1, w.2)) (b.world, b.callbacks)
    (.count accepted, { b with world, callbacks })

/-- Use a registry several times, one after another. -/
def Board.useAll : List (Use ι ε) → Board ι ε ω → List Yield × Board ι ε ω
  | [], b => ([], b)
  | u :: rest, b =>
    let (yield, b) := b.use manners u
    let (yields, b) := useAll rest b
    (yield :: yields, b)

theorem Board.useAll_snoc (uses : List (Use ι ε)) (u : Use ι ε) (b : Board ι ε ω) :
    b.useAll manners (uses ++ [u]) =
      ((b.useAll manners uses).1 ++ [((b.useAll manners uses).2.use manners u).1],
        ((b.useAll manners uses).2.use manners u).2) := by
  induction uses generalizing b with
  | nil => rfl
  | cons first rest ih => simp only [List.cons_append, Board.useAll, ih]

/-! What one use does to a registry. -/

variable {r : Subscribers ι}

@[simp]
theorem mem_register {member added : ι} :
    member ∈ (r.register added).2.members ↔ member ∈ r.members ∨ member = added := by
  rw [register]
  split
  · next hHas => exact ⟨.inl, fun h => h.elim id fun hSame => hSame ▸ hHas⟩
  · simp

@[simp]
theorem mem_unregister {member removed : ι} :
    member ∈ (r.unregister removed).2.members ↔ member ∈ r.members ∧ member ≠ removed := by
  simp [unregister]

theorem nodup_register (h : r.members.Nodup) (added : ι) : (r.register added).2.members.Nodup := by
  rw [register]
  split
  · exact h
  · next hNew => simpa using List.Nodup.concat hNew h

theorem nodup_unregister (h : r.members.Nodup) (removed : ι) :
    (r.unregister removed).2.members.Nodup :=
  h.filter _

/-- Others are not affected by the registration of a subscriber, nor is their order. -/
theorem others_register (r : Subscribers ι) (s : ι) :
    (r.register s).2.members.filter (· ≠ s) = r.members.filter (· ≠ s) := by
  rw [register]
  split
  · rfl
  · simp

/-- Others are not affected by the removal of a subscriber, nor is their order. -/
theorem others_unregister (r : Subscribers ι) (s : ι) :
    (r.unregister s).2.members.filter (· ≠ s) = r.members.filter (· ≠ s) := by
  rw [unregister, List.filter_filter]
  simp

omit [DecidableEq ι] in
/-- The calls of one broadcast, and how many subscribers accepted the event. -/
theorem broadcastTo_record (event : ε) (members : List ι) (world : ω)
    (callbacks : List (Callback ι ε)) :
    ∃ made : List (Callback ι ε),
      made.map (fun c => (c.subscriber, c.event)) = members.map (·, event) ∧
      (broadcastTo (manners.name event) (record manners.receive event)
        (fun n w => (manners.note n w.1, w.2)) members (world, callbacks)).1 =
          made.countP (·.ending = .accepted) ∧
      (broadcastTo (manners.name event) (record manners.receive event)
        (fun n w => (manners.note n w.1, w.2)) members (world, callbacks)).2.2 =
          callbacks ++ made := by
  induction members generalizing world callbacks with
  | nil => exact ⟨[], rfl, rfl, (List.append_nil _).symm⟩
  | cons s rest ih =>
      let ending := (manners.receive event s world).1
      -- Whatever is said of the ending leaves the record of calls as it is.
      have hRemark (world : ω) (callbacks : List (Callback ι ε)) : ∃ world',
          remark (manners.name event)
            (fun (n : Notice) (w : ω × List (Callback ι ε)) => (manners.note n w.1, w.2)) ending
            (world, callbacks) = (world', callbacks) := by
        cases ending with
        | accepted => exact ⟨_, rfl⟩
        | disconnected | panicked => exact ⟨_, rfl⟩
      obtain ⟨world', hWorld⟩ := hRemark (manners.receive event s world).2
        (callbacks ++ [⟨s, event, ending⟩])
      obtain ⟨made, hMade, hCount, hRecord⟩ := ih world' (callbacks ++ [⟨s, event, ending⟩])
      refine ⟨⟨s, event, ending⟩ :: made, ?_, ?_, ?_⟩
      · rw [List.map_cons, List.map_cons, hMade]
      · rw [broadcastTo, List.countP_cons]
        simp only [record]
        change (if ending = .accepted then _ else _) = _
        rw [hWorld, hCount]
        by_cases hAccepted : ending = .accepted <;> simp [hAccepted]
      · rw [broadcastTo]
        simp only [record]
        change Prod.snd (Prod.snd (broadcastTo _ _ _ _ (remark _ _ ending (_, _)))) = _
        rw [hWorld, hRecord, List.append_assoc]
        rfl

/-! What any number of uses do to a registry. -/

/-- What one more use of a registry has to come to, given the uses before. -/
def Use.Meets (uses : List (Use ι ε)) (b b' : Board ι ε ω) : Use ι ε → Yield → Prop
  | .register s, yield =>
    ∃ fresh, yield = .flag fresh ∧ (fresh = true ↔ ¬Registered uses s) ∧
      b'.registry.members.filter (· ≠ s) = b.registry.members.filter (· ≠ s) ∧
      b'.callbacks = b.callbacks
  | .unregister s, yield =>
    ∃ held, yield = .flag held ∧ (held = true ↔ Registered uses s) ∧
      b'.registry.members.filter (· ≠ s) = b.registry.members.filter (· ≠ s) ∧
      b'.callbacks = b.callbacks
  | .contains s, yield =>
    ∃ held, yield = .flag held ∧ (held = true ↔ Registered uses s) ∧ b' = b
  | .clear, _ => b'.registry.members = [] ∧ b'.callbacks = b.callbacks
  | .size, yield => yield = .count b.registry.members.length ∧ b' = b
  | .broadcast event, yield =>
    ∃ made, b'.callbacks = b.callbacks ++ made ∧
      made.map (fun c => (c.subscriber, c.event)) = b.registry.members.map (·, event) ∧
      yield = .count (made.countP (·.ending = .accepted)) ∧ b'.registry = b.registry

theorem Enrolled.register (h : Enrolled uses r.members) (s : ι) :
    Enrolled (uses ++ [.register s]) (r.register s).2.members where
  nodup := nodup_register h.nodup s
  mem_iff t := by
    rw [mem_register, h.mem_iff, registered_snoc]
    simp [Use.Removes, or_comm, eq_comm]
  ordered := by
    have hOrdered := h.ordered_snoc (.register s)
    rw [Subscribers.register]
    split
    · exact hOrdered
    · next hNew =>
        apply List.pairwise_append.mpr
        refine ⟨hOrdered, List.pairwise_singleton _ _, ?_⟩
        intro t ht last hLast k l hk hl
        obtain rfl := List.mem_singleton.mp hLast
        -- The newcomer's registration is the last use, and that of every other came before.
        have hLatest : l = uses.length := by
          rcases registeredAt_snoc.mp hl with ⟨hLength, _⟩ | ⟨hBefore, _⟩
          · exact hLength
          · exact absurd ((h.mem_iff last).mpr hBefore.registered) hNew
        rcases registeredAt_snoc.mp hk with ⟨_, _, hFresh⟩ | ⟨hBefore, _⟩
        · exact absurd ((h.mem_iff t).mp ht) hFresh
        · rw [hLatest]
          exact hBefore.lt_length

theorem Enrolled.unregister (h : Enrolled uses r.members) (s : ι) :
    Enrolled (uses ++ [.unregister s]) (r.unregister s).2.members where
  nodup := nodup_unregister h.nodup s
  mem_iff t := by
    rw [mem_unregister, h.mem_iff, registered_snoc]
    simp [Use.Removes, eq_comm]
  ordered := (h.ordered_snoc (.unregister s)).filter _

theorem Enrolled.use {b : Board ι ε ω} (h : Enrolled uses b.registry.members) (u : Use ι ε) :
    Enrolled (uses ++ [u]) (b.use manners u).2.registry.members := by
  cases u with
  | register s => exact h.register s
  | unregister s => exact h.unregister s
  | clear => exact Enrolled.clear uses
  | contains | size | broadcast => exact h.same (by simp) (by simp [Use.Removes])

theorem Enrolled.meets {b : Board ι ε ω} (h : Enrolled uses b.registry.members) (u : Use ι ε) :
    u.Meets uses b (b.use manners u).2 (b.use manners u).1 := by
  cases u with
  | register s =>
      refine ⟨(b.registry.register s).1, rfl, ?_, others_register b.registry s, rfl⟩
      rw [← h.mem_iff, Subscribers.register]
      split <;> simp_all
  | unregister s =>
      refine ⟨(b.registry.unregister s).1, rfl, ?_, others_unregister b.registry s, rfl⟩
      rw [← h.mem_iff]
      exact decide_eq_true_iff
  | contains s =>
      refine ⟨_, rfl, ?_, rfl⟩
      rw [← h.mem_iff]
      exact decide_eq_true_iff
  | clear => exact ⟨rfl, rfl⟩
  | size => exact ⟨rfl, rfl⟩
  | broadcast event =>
      obtain ⟨made, hMade, hCount, hRecord⟩ :=
        broadcastTo_record manners event b.registry.members b.world b.callbacks
      exact ⟨made, hRecord, hMade, congrArg Yield.count hCount, rfl⟩

theorem enrolled_useAll (uses : List (Use ι ε)) (world : ω) :
    Enrolled uses (Board.useAll manners uses { world }).2.registry.members := by
  induction uses using List.reverseRecOn with
  | nil => exact enrolled_nil
  | append_singleton uses u ih =>
      rw [Board.useAll_snoc]
      exact ih.use manners u

/-- A registry is an ordered set, whatever is done with it and whatever its subscribers do. After
any uses it holds those who were registered and not removed since, each once, in the order of the
registrations that took effect. What the next use comes to is what it has to come to: a registration
and a removal say whether they changed anything, and leave all others and their order alone; and an
event is handed to every subscriber once, in that order, the result being how many accepted it. -/
theorem useAll_orderedSet (uses : List (Use ι ε)) (next : Use ι ε) (world : ω) :
    let before := Board.useAll manners uses { world }
    let last := before.2.use manners next
    Board.useAll manners (uses ++ [next]) { world } = (before.1 ++ [last.1], last.2) ∧
    before.2.registry.members.Nodup ∧
    (∀ s, s ∈ before.2.registry.members ↔ Registered uses s) ∧
    (∀ s, Registered uses s ↔ ∃ position, RegisteredAt uses s position) ∧
    before.2.registry.members.Pairwise (fun s t =>
      ∀ k l, RegisteredAt uses s k → RegisteredAt uses t l → k < l) ∧
    next.Meets uses before.2 last.2 last.1 := by
  intro before last
  have enrolled := enrolled_useAll manners uses world
  exact ⟨Board.useAll_snoc manners uses next _, enrolled.nodup, enrolled.mem_iff,
    fun _ => registered_iff_exists_at, enrolled.ordered, enrolled.meets manners next⟩

/-- The first of three subscribers leaves and comes back, so it is the last to be called; the one
before it fails and the first panics, and the event reaches it all the same. -/
theorem useAll_orderedSet_cameBack :
    let manners : Manners Nat Unit Unit :=
      { receive := fun _ s w => (if s = 2 then .panicked else if s = 3 then .disconnected else .accepted, w)
        name := fun _ => "ping"
        note := fun _ w => w }
    let uses : List (Use Nat Unit) :=
      [.register 1, .register 2, .register 3, .register 1, .unregister 1, .register 1]
    let board := (Board.useAll manners uses { world := () }).2
    Registered uses 1 ∧ RegisteredAt uses 1 5 ∧ board.registry.members = [2, 3, 1] ∧
      (board.use manners (.broadcast ())).1 = .count 1 ∧
      (board.use manners (.broadcast ())).2.callbacks =
        [⟨2, (), .panicked⟩, ⟨3, (), .disconnected⟩, ⟨1, (), .accepted⟩] := by
  intro manners uses board
  obtain ⟨_, _, hMembers, _, _, _⟩ := useAll_orderedSet manners uses (.broadcast ()) ()
  have hRegistered : Registered uses 1 := (hMembers 1).mp (by decide)
  have hGone : ¬Registered (uses.take 5) 1 := fun h =>
    absurd (((useAll_orderedSet manners (uses.take 5) .size ()).2.2.1 1).mpr h) (by decide)
  exact ⟨hRegistered, ⟨uses.take 5, [], rfl, rfl, hGone, by simp⟩, rfl, rfl, rfl⟩

end RadioLifecycle.Subscribers
