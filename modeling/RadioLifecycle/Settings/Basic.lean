import RadioLifecycle.Defaults
import RadioLifecycle.Log.Level
import RadioLifecycle.Text.Blank
import RadioLifecycle.Toml.Value

/-!
The settings of the service: how it logs, which vendor library it loads, which interface it binds,
static properties, and a section for each vendor that has one.
-/

namespace RadioLifecycle.Settings

def Shared.defaultLogLevel : LogLevel := .info

def Shared.defaultServiceName : String := Defaults.serviceName

/-- How the service logs, and under which name. -/
structure Shared where
  logLevel : LogLevel := Shared.defaultLogLevel
  serviceName : String := Shared.defaultServiceName
  deriving DecidableEq, Repr

def Selection.defaultVendor : String := Defaults.vendorName

/-- The vendor library, and the interface if one is fixed. -/
structure Selection where
  vendor : String := Selection.defaultVendor
  interfaceName : Option String := none
  deriving DecidableEq, Repr

end Settings

open Settings in
structure Settings where
  shared : Shared := {}
  selection : Selection := {}
  /-- Static properties, each under a key of its own. -/
  properties : List (String × String) := []
  /-- The sections of vendors, each under the vendor's name. -/
  vendorSections : List (String × Toml.Value) := []

namespace Settings

/-- Why settings could not be had. -/
inductive Fault where
  | fileNotFound (path : String)
  | unreadable (path : String) (detail : String)
  /-- The text is no document, or not one of this shape. -/
  | malformed (detail : String)
  /-- The settings contradict each other or the rules. -/
  | invalid (detail : String)
  deriving DecidableEq, Repr

def Fault.message : Fault → String
  | .fileNotFound path => s!"Configuration file not found: {path}"
  | .unreadable path detail => s!"Failed to read {path}: {detail}"
  | .malformed detail => s!"Failed to parse configuration: {detail}"
  | .invalid detail => s!"Configuration validation failed: {detail}"

/-- The service has to have a name that can be seen. -/
def Shared.validate (s : Shared) : Except Fault Unit :=
  if Blank.isBlankText s.serviceName then
    .error (.invalid "shared.service_name cannot be empty")
  else .ok ()

/-- The rules for settings, in the order in which they are checked. -/
def validate (s : Settings) : Except Fault Unit := do
  s.shared.validate
  if s.selection.vendor = "" then .error (.invalid "hal.vendor cannot be empty")
  else if s.selection.interfaceName = some "" then
    .error (.invalid "hal.interface_name cannot be empty")
  else .ok ()

def vendorSection? (s : Settings) (vendor : String) : Option Toml.Value :=
  s.vendorSections.lookup vendor

end Settings

end RadioLifecycle
