import RadioLifecycle.Daemon.Program
import RadioLifecycle.Proofs.Text.WellFormed

/-!
Which interface is bound. The arguments, the settings, the environment and the static properties may
each name one, and the first of them that does decides. What counts as a name differs: an empty
variable is passed over, and settings that name an empty interface are not valid, but an empty
static property is a name like any other. So valid settings may still bind an interface without a
name, and the theorem below says when.
-/

namespace RadioLifecycle

namespace Environment

/-- A variable is set to a text, and that is not empty. -/
def Gives (e : Environment) (name text : String) : Prop :=
  e.lookup name = some text.toUTF8.data.toList ∧ text ≠ ""

/-- A variable has a text if its bytes are those of the text. -/
theorem text?_eq_some_iff {e : Environment} {name text : String} :
    e.text? name = some text ↔ e.lookup name = some text.toUTF8.data.toList := by
  rw [text?, Utf8.toList_toUTF8]
  constructor
  · intro h
    obtain ⟨bytes, hBytes, hText⟩ := Option.bind_eq_some_iff.mp h
    obtain ⟨characters, hCharacters, rfl⟩ := Option.map_eq_some_iff.mp hText
    rw [hBytes, Utf8.decode?_eq_some_iff.mp hCharacters, String.toList_ofList]
  · intro h
    rw [h, Option.bind_some, Utf8.decode?_eq_some_iff.mpr rfl, Option.map_some,
      String.ofList_toList]

end Environment

namespace Properties

theorem get?_environment_eq_some_iff {e : Environment} {key text : String} :
    (Store.environment e).get? key = some text ↔ e.Gives (variableName key) text := by
  simp [Store.get?, Option.filter_eq_some_iff, Environment.text?_eq_some_iff, Environment.Gives]

/-- The environment decides over a table. -/
theorem lookup_environment_table (e : Environment) (entries : List (String × String))
    (key : String) :
    lookup [.environment e, .table entries] key =
      ((Store.environment e).get? key).or (entries.lookup key) := by
  rw [lookup, List.findSome?_cons]
  cases (Store.environment e).get? key with
  | none => simp [Store.get?]
  | some text => rfl

/-- The interface that the properties name is that of the environment, else that of the table, else
the default one. -/
theorem interfaceName_eq (e : Environment) (entries : List (String × String)) :
    interfaceName [.environment e, .table entries] =
      (((Store.environment e).get? Defaults.interfaceProperty).or
        (entries.lookup Defaults.interfaceProperty)).getD Defaults.interfaceName := by
  rw [interfaceName, lookup_environment_table]

/-- The environment names an interface by a variable of its own. -/
theorem get?_interface_eq_some_iff {e : Environment} {text : String} :
    (Store.environment e).get? Defaults.interfaceProperty = some text ↔
      e.Gives "WIFI_INTERFACE" text := by
  have hVariable : variableName Defaults.interfaceProperty = "WIFI_INTERFACE" := by decide
  rw [get?_environment_eq_some_iff, hVariable]

theorem interfaceName_of_gives {e : Environment} {text : String}
    (h : e.Gives "WIFI_INTERFACE" text) (entries : List (String × String)) :
    interfaceName [.environment e, .table entries] = text := by
  rw [interfaceName_eq, get?_interface_eq_some_iff.mpr h, Option.some_or, Option.getD_some]

theorem interfaceName_of_gives_none {e : Environment}
    (h : ∀ text, ¬e.Gives "WIFI_INTERFACE" text) (entries : List (String × String)) :
    interfaceName [.environment e, .table entries] =
      (entries.lookup "wifi.interface").getD "wlan0" := by
  have hNone : (Store.environment e).get? Defaults.interfaceProperty = none := by
    apply Option.eq_none_iff_forall_ne_some.mpr
    intro text hText
    exact h text (get?_interface_eq_some_iff.mp hText)
  rw [interfaceName_eq, hNone, Option.none_or]
  rfl

end Properties

namespace Daemon

/-- Settings that are valid do not name an empty interface. -/
theorem interfaceName_ne_of_validate {settings : Settings} (h : settings.validate = .ok ()) :
    settings.selection.interfaceName ≠ some "" := by
  intro hEmpty
  rw [Settings.validate, hEmpty] at h
  cases hShared : settings.shared.validate with
  | error fault =>
      rw [hShared] at h
      cases h
  | ok _ =>
      rw [hShared] at h
      by_cases hVendor : settings.selection.vendor = ""
      · simp [hVendor, bind, Except.bind] at h
      · simp [hVendor, bind, Except.bind] at h

/-- The interface that valid settings bind if the arguments name none: that of the settings, else a
text of the environment that is not empty, else the entry of the static properties, else the
default one. It has no name exactly if the first two name none and the entry of the static
properties is there and empty. -/
theorem chooseInterface_sources {settings : Settings} {a : Arguments}
    (hValid : settings.validate = .ok ()) (hUnnamed : a.interface = none)
    (environment : Environment) :
    let chosen := chooseInterface a settings environment
    (∀ name, settings.selection.interfaceName = some name → chosen = name ∧ name ≠ "") ∧
    (settings.selection.interfaceName = none →
      (∀ text, environment.Gives "WIFI_INTERFACE" text → chosen = text) ∧
      ((∀ text, ¬environment.Gives "WIFI_INTERFACE" text) →
        (∀ entry, settings.properties.lookup "wifi.interface" = some entry → chosen = entry) ∧
        (settings.properties.lookup "wifi.interface" = none → chosen = "wlan0"))) ∧
    (chosen = "" ↔ settings.selection.interfaceName = none ∧
      (∀ text, ¬environment.Gives "WIFI_INTERFACE" text) ∧
      settings.properties.lookup "wifi.interface" = some "") := by
  intro chosen
  have hNamed (name : String) (h : settings.selection.interfaceName = some name) :
      chosen = name ∧ name ≠ "" := by
    constructor
    · simp only [chosen, chooseInterface, hUnnamed, h, Option.none_or]
    · rintro rfl
      exact interfaceName_ne_of_validate hValid h
  have hProperties (h : settings.selection.interfaceName = none) :
      chosen = Properties.interfaceName [.environment environment, .table settings.properties] := by
    simp only [chosen, chooseInterface, hUnnamed, h, Option.none_or]
  have hGiven (h : settings.selection.interfaceName = none) (text : String)
      (hGives : environment.Gives "WIFI_INTERFACE" text) : chosen = text := by
    rw [hProperties h, Properties.interfaceName_of_gives hGives]
  have hTable (h : settings.selection.interfaceName = none)
      (hNone : ∀ text, ¬environment.Gives "WIFI_INTERFACE" text) :
      chosen = (settings.properties.lookup "wifi.interface").getD "wlan0" := by
    rw [hProperties h, Properties.interfaceName_of_gives_none hNone]
  refine ⟨hNamed, fun h => ⟨hGiven h, fun hNone => ⟨?_, ?_⟩⟩, ?_, ?_⟩
  · intro entry hEntry
    rw [hTable h hNone, hEntry, Option.getD_some]
  · intro hEntry
    rw [hTable h hNone, hEntry, Option.getD_none]
  · intro hEmpty
    cases h : settings.selection.interfaceName with
    | some name =>
        obtain ⟨hChosen, hName⟩ := hNamed name h
        exact absurd (hChosen.symm.trans hEmpty) hName
    | none =>
        have hNone (text : String) (hGives : environment.Gives "WIFI_INTERFACE" text) : False :=
          hGives.2 ((hGiven h text hGives).symm.trans hEmpty)
        refine ⟨rfl, hNone, ?_⟩
        have hEntry := (hTable h hNone).symm.trans hEmpty
        cases hLookup : settings.properties.lookup "wifi.interface" with
        | none =>
            rw [hLookup] at hEntry
            exact absurd hEntry (by decide)
        | some entry =>
            rw [hLookup] at hEntry
            rw [show entry = "" from hEntry]
  · rintro ⟨h, hNone, hEntry⟩
    rw [hTable h hNone, hEntry, Option.getD_some]

/-- The variable is set, but its only byte is no text, so the static property decides. -/
theorem chooseInterface_sources_noText :
    let settings : Settings := { properties := [("wifi.interface", "wlan1")] }
    settings.validate = .ok () ∧
      chooseInterface { verbose := true } settings [("WIFI_INTERFACE", [0xFF])] = "wlan1" := by
  intro settings
  have hValid : settings.validate = .ok () := by
    change Settings.validate { properties := [("wifi.interface", "wlan1")] } = _
    rfl
  have hNoText : Utf8.decode? [0xFF] = none := by
    rw [Utf8.decode?, Utf8.pieces]
    rfl
  obtain ⟨_, hUnset, _⟩ := chooseInterface_sources (a := { verbose := true }) hValid rfl
    [("WIFI_INTERFACE", [0xFF])]
  refine ⟨hValid, ((hUnset rfl).2 ?_).1 "wlan1" rfl⟩
  rintro text ⟨hBytes, _⟩
  have hText : Utf8.decode? [0xFF] = some text.toList := by
    rw [Utf8.decode?_eq_some_iff, ← Utf8.toList_toUTF8]
    exact Option.some.inj hBytes
  rw [hNoText] at hText
  cases hText

/-- A document whose settings are valid names an empty interface among the static properties, and
that is the one which is bound. -/
theorem chooseInterface_emptyEntry :
    ∃ settings, Settings.parse "[properties]\n\"wifi.interface\" = \"\"\n" = .ok settings ∧
      settings.validate = .ok () ∧ chooseInterface {} settings [] = "" := by
  have hBound : (Settings.parse "[properties]\n\"wifi.interface\" = \"\"\n").toOption.map
      (fun settings => (settings.validate, chooseInterface {} settings [])) =
        some (.ok (), "") := by decide +kernel
  obtain ⟨settings, hParse, hBound⟩ := Option.map_eq_some_iff.mp hBound
  obtain ⟨hValid, hEmpty⟩ := Prod.mk.inj hBound
  refine ⟨settings, ?_, hValid, hEmpty⟩
  cases hOutcome : Settings.parse "[properties]\n\"wifi.interface\" = \"\"\n" with
  | error fault =>
      rw [hOutcome] at hParse
      cases hParse
  | ok parsed =>
      rw [hOutcome] at hParse
      rw [Option.some.inj hParse]

end Daemon

end RadioLifecycle
