import RadioLifecycle.Proofs.Journal.Growth
import RadioLifecycle.Proofs.Simulation.Queries

/-!
Finding an interface by its name. What a library answers may depend on all that it was asked before,
so what is found is told from the answers to asking all listed interfaces in turn: it is the
interface at the first position at which the wanted name is told. The search asks no further than
that, and it asks for no name twice at one position. If names depend on nothing but the interface,
neither what is listed behind the interface found nor interfaces with other names make a difference.
-/

namespace RadioLifecycle.Vendor

variable {σ : Type}

/-- What interfaces answer when they are asked for their names one after another, and what becomes
of the library's state. -/
def askNames (lib : Library σ) : List InterfaceHandle → σ → List (Except Status String) × σ
  | [], s => ([], s)
  | interface :: rest, s =>
    let (answer, s) := lib.interfaceName interface s
    let (answers, s) := askNames lib rest s
    (answer :: answers, s)

theorem askNames_cons (lib : Library σ) (interface : InterfaceHandle)
    (rest : List InterfaceHandle) (s : σ) :
    askNames lib (interface :: rest) s =
      ((lib.interfaceName interface s).1 ::
          (askNames lib rest (lib.interfaceName interface s).2).1,
        (askNames lib rest (lib.interfaceName interface s).2).2) :=
  rfl

/-- The wanted name is told at this position, and not before. -/
structure FirstToldAt (wanted : String) (answers : List (Except Status String))
    (position : Nat) : Prop where
  told : answers[position]? = some (.ok wanted)
  notBefore : ∀ earlier < position, answers[earlier]? ≠ some (.ok wanted)

/-- The names of these interfaces were asked for, in this order, and nothing else happened. -/
structure Asked (lib : Library σ) (asked : List InterfaceHandle) (w w' : Surroundings σ) : Prop where
  adds : w.Adds w' (asked.map Call.interfaceName) [] []
  vendor : w'.vendor = (askNames lib asked w.vendor).2

namespace FirstToldAt

variable {wanted : String} {answers : List (Except Status String)} {position : Nat}

theorem unique {other : Nat} (h : FirstToldAt wanted answers position)
    (h' : FirstToldAt wanted answers other) : position = other := by
  rcases Nat.lt_trichotomy position other with hLess | hSame | hMore
  · exact absurd h.told (h'.notBefore position hLess)
  · exact hSame
  · exact absurd h'.told (h.notBefore other hMore)

theorem zero (answers : List (Except Status String)) :
    FirstToldAt wanted (.ok wanted :: answers) 0 :=
  ⟨rfl, fun _ hLess => absurd hLess (Nat.not_lt_zero _)⟩

/-- Another answer in front moves the first right one back by one. -/
theorem succ (h : FirstToldAt wanted answers position) {answer : Except Status String}
    (hOther : answer ≠ .ok wanted) : FirstToldAt wanted (answer :: answers) (position + 1) where
  told := h.told
  notBefore := by
    rintro (_ | earlier) hLess
    · simpa using hOther
    · exact h.notBefore earlier (Nat.lt_of_succ_lt_succ hLess)

end FirstToldAt

namespace Asked

variable {lib : Library σ} {asked : List InterfaceHandle} {interface : InterfaceHandle}
  {w w₁ w' : Surroundings σ}

theorem none (w : Surroundings σ) : Asked lib [] w w :=
  ⟨Surroundings.Adds.refl w, rfl⟩

/-- Asking one interface comes before asking the others. -/
theorem cons (first : w₁.vendor = (lib.interfaceName interface w.vendor).2)
    (adds : w.Adds w₁ [.interfaceName interface] [] []) (rest : Asked lib asked w₁ w') :
    Asked lib (interface :: asked) w w' where
  adds := adds.trans rest.adds
  vendor := by
    rw [rest.vendor, first]
    rfl

end Asked

/-- What becomes of asking the listed interfaces in turn until one tells the wanted name. -/
inductive Search (lib : Library σ) (wanted : String) (listed : List InterfaceHandle)
    (w : Surroundings σ) : Option InterfaceHandle × Surroundings σ → Prop
  | found {interface : InterfaceHandle} {w' : Surroundings σ} (position : Nat)
      (first : FirstToldAt wanted (askNames lib listed w.vendor).1 position)
      (there : listed[position]? = some interface)
      (asked : Asked lib (listed.take (position + 1)) w w') :
      Search lib wanted listed w (some interface, w')
  | exhausted {w' : Surroundings σ}
      (never : Except.ok wanted ∉ (askNames lib listed w.vendor).1)
      (asked : Asked lib listed w w') : Search lib wanted listed w (none, w')

/-- An interface in front that tells no or another name is passed over. -/
theorem Search.cons {lib : Library σ} {wanted : String} {listed : List InterfaceHandle}
    {interface : InterfaceHandle} {w w₁ : Surroundings σ} {p : Option InterfaceHandle × Surroundings σ}
    (rest : Search lib wanted listed w₁ p)
    (hOther : (lib.interfaceName interface w.vendor).1 ≠ .ok wanted)
    (hVendor : w₁.vendor = (lib.interfaceName interface w.vendor).2)
    (hAdds : w.Adds w₁ [.interfaceName interface] [] []) :
    Search lib wanted (interface :: listed) w p := by
  have hAnswers : (askNames lib (interface :: listed) w.vendor).1 =
      (lib.interfaceName interface w.vendor).1 :: (askNames lib listed w₁.vendor).1 := by
    rw [askNames_cons, hVendor]
  cases rest with
  | found position first there asked =>
      refine .found (position + 1) ?_ there (.cons hVendor hAdds asked)
      rw [hAnswers]
      exact first.succ hOther
  | exhausted never asked =>
      refine .exhausted ?_ (.cons hVendor hAdds asked)
      rw [hAnswers]
      exact List.not_mem_cons_of_ne_of_not_mem hOther.symm never

theorem findAmong_search (lib : Library σ) (wanted : String) (listed : List InterfaceHandle)
    (w : Surroundings σ) : Search lib wanted listed w (findAmong lib wanted listed w) := by
  induction listed generalizing w with
  | nil => exact .exhausted List.not_mem_nil (.none w)
  | cons interface rest ih =>
      have hAdds := w.interfaceName_adds lib interface
      have hVendor : (w.interfaceName lib interface).2.vendor =
          (lib.interfaceName interface w.vendor).2 := rfl
      have hAnswer : (w.interfaceName lib interface).1 = (lib.interfaceName interface w.vendor).1 := rfl
      rw [findAmong]
      generalize w.interfaceName lib interface = answer at hAdds hVendor hAnswer ⊢
      rcases answer with ⟨status | name, w₁⟩
      · have hNoted := Surroundings.Adds.before hAdds
          (w₁.note_adds (.interfaceNameFailed interface status))
        refine (ih _).cons ?_ hVendor hNoted
        rw [← hAnswer]
        simp
      · by_cases hName : name = wanted
        · subst hName
          simp only [↓reduceIte]
          refine .found 0 ?_ rfl (.cons hVendor hAdds (.none w₁))
          rw [askNames_cons, ← hAnswer]
          exact .zero _
        · simp only [hName, ↓reduceIte]
          refine (ih w₁).cons ?_ hVendor hAdds
          rw [← hAnswer]
          exact fun h => hName (Except.ok.inj h)

/-! Looking an interface up. -/

/-- What becomes of looking up the interface of a name. -/
inductive Lookup (lib : Library σ) (session : SessionHandle) (wanted : String)
    (w : Surroundings σ) : Option InterfaceHandle × Surroundings σ → Prop
  /-- The interfaces cannot be listed. -/
  | refused {w' : Surroundings σ} (status : Status)
      (lists : (lib.interfaces session w.vendor).1 = .error status)
      (adds : w.Adds w' [.interfaces session] [] [])
      (vendor : w'.vendor = (lib.interfaces session w.vendor).2) :
      Lookup lib session wanted w (none, w')
  | found {interface : InterfaceHandle} {w' : Surroundings σ} (listed : List InterfaceHandle)
      (position : Nat) (lists : (lib.interfaces session w.vendor).1 = .ok listed)
      (first : FirstToldAt wanted
        (askNames lib listed (lib.interfaces session w.vendor).2).1 position)
      (there : listed[position]? = some interface)
      (adds : w.Adds w'
        (.interfaces session :: (listed.take (position + 1)).map Call.interfaceName) [] [])
      (vendor : w'.vendor =
        (askNames lib (listed.take (position + 1)) (lib.interfaces session w.vendor).2).2) :
      Lookup lib session wanted w (some interface, w')
  | exhausted {w' : Surroundings σ} (listed : List InterfaceHandle)
      (lists : (lib.interfaces session w.vendor).1 = .ok listed)
      (never : Except.ok wanted ∉ (askNames lib listed (lib.interfaces session w.vendor).2).1)
      (adds : w.Adds w' (.interfaces session :: listed.map Call.interfaceName) [] [])
      (vendor : w'.vendor = (askNames lib listed (lib.interfaces session w.vendor).2).2) :
      Lookup lib session wanted w (none, w')

theorem findInterface_lookup (lib : Library σ) (session : SessionHandle) (wanted : String)
    (w : Surroundings σ) : Lookup lib session wanted w (findInterface lib session wanted w) := by
  have hAdds := w.interfaces_adds lib session
  have hAnswer : (lib.interfaces session w.vendor).1 = (w.interfaces lib session).1 := rfl
  have hVendor : (lib.interfaces session w.vendor).2 = (w.interfaces lib session).2.vendor := rfl
  rw [findInterface]
  generalize w.interfaces lib session = answer at hAdds hAnswer hVendor ⊢
  rcases answer with ⟨status | listed, w₁⟩
  · exact .refused status hAnswer (hAdds.before (w₁.note_adds _)) hVendor.symm
  · have hSearch := findAmong_search lib wanted listed w₁
    dsimp only at hVendor ⊢
    generalize findAmong lib wanted listed w₁ = answer at hSearch ⊢
    cases hSearch with
    | found position first there asked =>
        rw [← hVendor] at first
        refine .found listed position hAnswer first there (hAdds.trans asked.adds) ?_
        rw [hVendor]
        exact asked.vendor
    | @exhausted w₂ never asked =>
        rw [← hVendor] at never
        refine .exhausted listed hAnswer never
          (hAdds.trans (asked.adds.before (w₂.note_adds _))) ?_
        rw [hVendor]
        exact asked.vendor

variable {lib : Library σ} {session : SessionHandle} {wanted : String} {w : Surroundings σ}
  {listed : List InterfaceHandle}

theorem Lookup.eq_some_iff {p : Option InterfaceHandle × Surroundings σ}
    (h : Lookup lib session wanted w p) (interface : InterfaceHandle) :
    p.1 = some interface ↔ ∃ listed position,
      (lib.interfaces session w.vendor).1 = .ok listed ∧
      FirstToldAt wanted (askNames lib listed (lib.interfaces session w.vendor).2).1 position ∧
      listed[position]? = some interface := by
  cases h with
  | refused status lists => simp [lists]
  | @found there' w' listed position lists first there =>
      constructor
      · rintro ⟨⟩
        exact ⟨listed, position, lists, first, there⟩
      · rintro ⟨listed', position', lists', first', there'⟩
        obtain rfl := Except.ok.inj (lists.symm.trans lists')
        obtain rfl := first.unique first'
        exact there.symm.trans there'
  | exhausted listed lists never =>
      refine ⟨nofun, ?_⟩
      rintro ⟨listed', position, lists', first, -⟩
      obtain rfl := Except.ok.inj (lists.symm.trans lists')
      exact absurd (List.mem_of_getElem? first.told) never

theorem Lookup.eq_none_iff {p : Option InterfaceHandle × Surroundings σ}
    (h : Lookup lib session wanted w p) :
    p.1 = none ↔ (∃ status, (lib.interfaces session w.vendor).1 = .error status) ∨
      ∃ listed, (lib.interfaces session w.vendor).1 = .ok listed ∧
        .ok wanted ∉ (askNames lib listed (lib.interfaces session w.vendor).2).1 := by
  cases h with
  | refused status lists => simp [lists]
  | found listed position lists first there =>
      simp [lists, List.mem_of_getElem? first.told]
  | exhausted listed lists never => simp [lists, never]

/-- The calls that a lookup makes, and that they are all that becomes of the library. -/
theorem Lookup.calls {p : Option InterfaceHandle × Surroundings σ}
    (h : Lookup lib session wanted w p) :
    ∃ asked : List InterfaceHandle,
      w.Adds p.2 (.interfaces session :: asked.map Call.interfaceName) [] [] ∧
      p.2.vendor = (askNames lib asked (lib.interfaces session w.vendor).2).2 ∧
      (∀ status, (lib.interfaces session w.vendor).1 = .error status → asked = []) ∧
      ∀ listed, (lib.interfaces session w.vendor).1 = .ok listed →
        (∀ position,
          FirstToldAt wanted (askNames lib listed (lib.interfaces session w.vendor).2).1 position →
          asked = listed.take (position + 1)) ∧
        (.ok wanted ∉ (askNames lib listed (lib.interfaces session w.vendor).2).1 →
          asked = listed) := by
  cases h with
  | refused status lists adds vendor =>
      refine ⟨[], adds, vendor, fun _ _ => rfl, ?_⟩
      simp [lists]
  | found listed position lists first there adds vendor =>
      refine ⟨_, adds, vendor, by simp [lists], fun listed' lists' => ?_⟩
      obtain rfl := Except.ok.inj (lists.symm.trans lists')
      refine ⟨fun position' first' => ?_, fun never => ?_⟩
      · rw [first.unique first']
      · exact absurd (List.mem_of_getElem? first.told) never
  | exhausted listed lists never adds vendor =>
      refine ⟨_, adds, vendor, by simp [lists], fun listed' lists' => ?_⟩
      obtain rfl := Except.ok.inj (lists.symm.trans lists')
      exact ⟨fun _ first => absurd (List.mem_of_getElem? first.told) never, fun _ => rfl⟩

/-! Libraries whose names depend on nothing but the interface. -/

/-- From this state on an interface that is asked for its name gives this answer, whichever were
asked before. -/
def TellsBy (lib : Library σ) (names : InterfaceHandle → Except Status String) (s : σ) : Prop :=
  ∀ asked interface, (lib.interfaceName interface (askNames lib asked s).2).1 = names interface

/-- The library lists these interfaces, and from then on their names are given in advance. -/
structure Presents (lib : Library σ) (session : SessionHandle) (w : Surroundings σ)
    (names : InterfaceHandle → Except Status String) (listed : List InterfaceHandle) : Prop where
  lists : (lib.interfaces session w.vendor).1 = .ok listed
  tells : TellsBy lib names (lib.interfaces session w.vendor).2

/-- The second list is the first with further interfaces of some kind in between. -/
inductive Inserted (further : InterfaceHandle → Prop) :
    List InterfaceHandle → List InterfaceHandle → Prop
  | nil : Inserted further [] []
  | keep {l l' : List InterfaceHandle} (interface : InterfaceHandle) (rest : Inserted further l l') :
      Inserted further (interface :: l) (interface :: l')
  | insert {l l' : List InterfaceHandle} (interface : InterfaceHandle) (h : further interface)
      (rest : Inserted further l l') : Inserted further l (interface :: l')

variable {names : InterfaceHandle → Except Status String}

theorem TellsBy.answers {s : σ} (h : TellsBy lib names s) (listed : List InterfaceHandle) :
    (askNames lib listed s).1 = listed.map names := by
  induction listed generalizing s with
  | nil => rfl
  | cons interface rest ih =>
      have hFirst : (lib.interfaceName interface s).1 = names interface := h [] interface
      have hRest := ih fun asked => h (interface :: asked)
      rw [askNames_cons, List.map_cons, hFirst, hRest]

/-- Whether an answer is the wanted name. -/
def tellsName (wanted : String) (answer : Except Status String) : Bool :=
  decide (answer.toOption = some wanted)

theorem tellsName_iff {answer : Except Status String} :
    tellsName wanted answer = true ↔ answer = .ok wanted := by
  cases answer <;> simp [tellsName, Except.toOption]

/-- With names that are given in advance, a lookup finds the first interface in the list that has
the wanted one. -/
theorem Presents.found (h : Presents lib session w names listed) (wanted : String) :
    (findInterface lib session wanted w).1 =
      listed.find? fun interface => tellsName wanted (names interface) := by
  have hAnswers := h.tells.answers listed
  have hLookup := findInterface_lookup lib session wanted w
  generalize findInterface lib session wanted w = p at hLookup ⊢
  symm
  cases hLookup with
  | refused status lists => cases lists.symm.trans h.lists
  | found listed' position lists first there =>
      obtain rfl := Except.ok.inj (h.lists.symm.trans lists)
      rw [hAnswers] at first
      obtain ⟨hBound, hThere⟩ := List.getElem?_eq_some_iff.mp there
      rw [List.find?_eq_some_iff_getElem]
      refine ⟨tellsName_iff.mpr ?_, position, hBound, hThere, fun earlier hLess => ?_⟩
      · simpa [there] using first.told
      · have hOther := first.notBefore earlier hLess
        have hListed := List.getElem?_eq_getElem (Nat.lt_trans hLess hBound)
        simpa [hListed, ← tellsName_iff] using hOther
  | exhausted listed' lists never =>
      obtain rfl := Except.ok.inj (h.lists.symm.trans lists)
      rw [hAnswers, List.mem_map] at never
      rw [List.find?_eq_none]
      intro interface hListed hTells
      exact never ⟨interface, hListed, tellsName_iff.mp hTells⟩

/-- Interfaces that are passed over anyway may be anywhere in the list. -/
theorem Inserted.find?_eq {further : InterfaceHandle → Prop} {p : InterfaceHandle → Bool}
    {listed listed' : List InterfaceHandle} (h : Inserted further listed listed')
    (hPassed : ∀ interface, further interface → ¬p interface = true) :
    listed'.find? p = listed.find? p := by
  induction h with
  | nil => rfl
  | keep interface _ ih => rw [List.find?_cons, List.find?_cons, ih]
  | insert interface h _ ih => rw [List.find?_cons_of_neg (hPassed interface h), ih]

/-- Which interface is found under a name, and what a library is asked for that. It is the interface
at the first position at which the wanted name is told, and none is found if the interfaces cannot
be listed or the name is told at no position. The interfaces are listed once, and then names are
asked for in the order of the list, each position once, up to the one at which the name is told. If
names are given in advance, another list in which further interfaces come behind the interface
found, or interfaces with other names anywhere, makes no difference. -/
theorem findInterface_firstTold (lib : Library σ) (session : SessionHandle) (wanted : String)
    (w : Surroundings σ) :
    let outcome := (lib.interfaces session w.vendor).1
    let s := (lib.interfaces session w.vendor).2
    let found := (findInterface lib session wanted w).1
    let w' := (findInterface lib session wanted w).2
    (∀ interface, found = some interface ↔ ∃ listed position, outcome = .ok listed ∧
      FirstToldAt wanted (askNames lib listed s).1 position ∧ listed[position]? = some interface) ∧
    (found = none ↔ (∃ status, outcome = .error status) ∨
      ∃ listed, outcome = .ok listed ∧ .ok wanted ∉ (askNames lib listed s).1) ∧
    (∃ asked : List InterfaceHandle,
      w.Adds w' (.interfaces session :: asked.map Call.interfaceName) [] [] ∧
      w'.vendor = (askNames lib asked s).2 ∧
      (∀ status, outcome = .error status → asked = []) ∧
      ∀ listed, outcome = .ok listed →
        (∀ position, FirstToldAt wanted (askNames lib listed s).1 position →
          asked = listed.take (position + 1)) ∧
        (.ok wanted ∉ (askNames lib listed s).1 → asked = listed)) ∧
    ∀ (τ : Type) (lib' : Library τ) (session' : SessionHandle) (v : Surroundings τ)
      (names : InterfaceHandle → Except Status String) (listed listed' : List InterfaceHandle),
      Presents lib session w names listed → Presents lib' session' v names listed' →
      (∀ interface, found = some interface → listed <+: listed' →
        (findInterface lib' session' wanted v).1 = some interface) ∧
      (Inserted (fun interface => names interface ≠ .ok wanted) listed listed' →
        (findInterface lib' session' wanted v).1 = found) := by
  intro outcome s found w'
  have hLookup := findInterface_lookup lib session wanted w
  refine ⟨hLookup.eq_some_iff, hLookup.eq_none_iff, hLookup.calls, ?_⟩
  intro τ lib' session' v names listed listed' hFirst hSecond
  have hFound : found = _ := hFirst.found wanted
  rw [hSecond.found wanted]
  constructor
  · rintro interface hSome ⟨behind, rfl⟩
    rw [List.find?_append, ← hFound, hSome]
    rfl
  · intro hInserted
    rw [hFound]
    exact hInserted.find?_eq fun interface hOther hTells => hOther (tellsName_iff.mp hTells)

/-! The simulated library. -/

/-- Names that are configured do not depend on what was asked before. -/
theorem tellsBy_simulation {lib : Library (Simulation SessionHandle)}
    (h : lib.interfaceName = Simulation.interfaceName) (s : Simulation SessionHandle) :
    TellsBy lib
      (fun interface => (s.interface? interface).elim (.error .invalidArgs) (·.tell)) s := by
  intro asked interface
  have hBehaviour (asked : List InterfaceHandle) (s : Simulation SessionHandle) :
      (askNames lib asked s).2.behaviour = s.behaviour := by
    induction asked generalizing s with
    | nil => rfl
    | cons first rest ih =>
        rw [askNames_cons, h, Simulation.interfaceName_eq]
        exact ih _
  rw [h, Simulation.interfaceName_eq, Simulation.interface?_congr (hBehaviour asked s)]

/-- The first of three interfaces of one name refuses to tell it, so the second of them is found,
and still is when further ones are listed. -/
theorem findInterface_firstTold_refusedFirst :
    let w : Surroundings (Simulation SessionHandle) :=
      { vendor := { behaviour := { interfaces :=
        [⟨"wlan0", some .busy⟩, ⟨"p2p0", none⟩, ⟨"wlan0", none⟩, ⟨"wlan0", none⟩] } } }
    let more : Library (Simulation SessionHandle) :=
      { Simulation.library with interfaces := fun _ s => (.ok [⟨9⟩, ⟨1⟩, ⟨2⟩, ⟨2⟩, ⟨3⟩, ⟨4⟩], s) }
    (findInterface Simulation.library ⟨1⟩ "wlan0" w).1 = some ⟨3⟩ ∧
      (findInterface more ⟨1⟩ "wlan0" w).1 = some ⟨3⟩ := by
  intro w more
  obtain ⟨hSome, -, -, hStable⟩ := findInterface_firstTold Simulation.library ⟨1⟩ "wlan0" w
  have hOther {answer : Except Status String} (h : tellsName "wlan0" answer = false) :
      answer ≠ .ok "wlan0" := by
    rintro rfl
    cases h
  have hFound : (findInterface Simulation.library ⟨1⟩ "wlan0" w).1 = some ⟨3⟩ := by
    refine (hSome ⟨3⟩).mpr ⟨[⟨1⟩, ⟨2⟩, ⟨3⟩, ⟨4⟩], 2, rfl, ⟨rfl, ?_⟩, rfl⟩
    rintro (_ | _ | _) hLess hTold
    · exact hOther (by decide) (Option.some.inj hTold)
    · exact hOther (by decide) (Option.some.inj hTold)
    · omega
  refine ⟨hFound, ?_⟩
  rw [← hFound]
  refine (hStable _ more ⟨1⟩ w _ _ _ ⟨rfl, tellsBy_simulation rfl _⟩
    ⟨rfl, tellsBy_simulation rfl _⟩).2 ?_
  exact .insert ⟨9⟩ (hOther (by decide)) <| .keep ⟨1⟩ <| .keep ⟨2⟩ <|
    .insert ⟨2⟩ (hOther (by decide)) <| .keep ⟨3⟩ <| .keep ⟨4⟩ .nil

end RadioLifecycle.Vendor
