import RadioLifecycle.Settings.Basic
import RadioLifecycle.Text.Utf8
import RadioLifecycle.Toml.Presentation

/-!
Reading settings from a document, and loading the document from a file. Each field has a default of
its own for documents that leave it out. Where no file is required and there is none, the settings
are the default ones as a whole.
-/

namespace RadioLifecycle

open Portable (defaulted nullable writeOption)

namespace Settings

instance : Portable Shared where
  read? v := do
    match ← Format.fields? ["log_level", "service_name"] v with
    | [level, name] =>
      return ⟨← defaulted Shared.defaultLogLevel level, ← defaulted Shared.defaultServiceName name⟩
    | _ => none
  write s :=
    .ofMembers
      [("log_level", Portable.write s.logLevel), ("service_name", Portable.write s.serviceName)]

instance : Portable Selection where
  read? v := do
    match ← Format.fields? ["vendor", "interface_name"] v with
    | [vendor, interface] =>
      return ⟨← defaulted Selection.defaultVendor vendor, ← nullable interface⟩
    | _ => none
  write s :=
    .ofMembers
      [("vendor", Portable.write s.vendor), ("interface_name", writeOption s.interfaceName)]

/-- The properties that a table of texts holds. -/
def readProperties? : Option Toml.Value → Option (List (String × String))
  | none => some []
  | some v =>
    (Format.entries? v).bind fun entries =>
      entries.mapM fun (key, value) => (Portable.read? value).map fun text => (key, text)

/-- The sections that a table of vendors holds. -/
def readSections? : Option Toml.Value → Option (List (String × Toml.Value))
  | none => some []
  | some v =>
    (Format.entries? v).bind fun entries =>
      entries.mapM fun (key, value) => value.detach?.map fun taken => (key, taken)

/-- The settings that a document stands for. -/
def read? (v : Toml.Value) : Option Settings := do
  match ← Format.fields? ["shared", "hal", "properties", "vendor_config"] v with
  | [shared, selection, properties, sections] =>
    return {
      shared := ← defaulted ({} : Shared) shared
      selection := ← defaulted ({} : Selection) selection
      properties := ← readProperties? properties
      vendorSections := ← readSections? sections }
  | _ => none

def parse (text : String) : Except Fault Settings :=
  match (Toml.read? text).bind fun entries => read? (.table entries) with
  | some settings => .ok settings
  | none => .error (.malformed "")

inductive File where
  | missing
  | contents (bytes : List UInt8)
  /-- Something that cannot be read, and why. -/
  | unreadable (detail : String)

/-- What is said of a file whose bytes are no text. -/
def notTextDetail : String := "stream did not contain valid UTF-8"

/-- Load settings from a file that has to be there. -/
def load (path : String) : File → Except Fault Settings
  | .missing => .error (.fileNotFound path)
  | .unreadable detail => .error (.unreadable path detail)
  | .contents bytes =>
    match Utf8.decode? bytes with
    | none => .error (.unreadable path notTextDetail)
    | some text => parse (String.ofList text)

/-- Load settings from a file, or take the default ones if there is none. -/
def loadOrDefault (path : String) (file : File) : Except Fault Settings :=
  match load path file with
  | .error (.fileNotFound _) => .ok {}
  | outcome => outcome

end Settings

end RadioLifecycle
