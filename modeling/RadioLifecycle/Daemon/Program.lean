import RadioLifecycle.Catalogue
import RadioLifecycle.Daemon.Arguments
import RadioLifecycle.Daemon.LogFilter
import RadioLifecycle.Daemon.Session
import RadioLifecycle.Properties
import RadioLifecycle.Settings.Loading
import RadioLifecycle.Text.Terminal

/-!
The daemon as a program: from its arguments, its environment and its files to what it prints and how
it ends.
-/

namespace RadioLifecycle.Daemon

/-- What the program finds when it is run. -/
structure Host where
  arguments : List String
  environment : Environment := []
  file : String → Settings.File := fun _ => .missing

/-- What the program does and leaves behind. It logs the opening lines, waits for the shutdown
signal if it came to that, and logs the closing lines. -/
structure Outcome where
  exitCode : Nat
  opening : List LogLine := []
  awaitsSignal : Bool := false
  closing : List LogLine := []
  /-- Whether log lines are to be printed as JSON. -/
  json : Bool := false
  /-- The lines that are printed beside the log. -/
  printed : List String := []
  deriving DecidableEq, Repr

def Outcome.log (o : Outcome) : List LogLine :=
  o.opening ++ o.closing

def logTarget : String := Defaults.serviceName

/-- The variable that holds log directives. -/
def directivesVariable : String := "RUST_LOG"

def versionLine : String := s!"wifi_hal {Defaults.version}"

/-- Why a run of the service failed. -/
inductive Failure where
  | settings (fault : Settings.Fault)
  | service (e : ServiceError)

def Failure.message : Failure → String
  | .settings fault => fault.message
  | .service e => e.message

/-- The settings of the file that the arguments name, or of the default one if it is there. -/
def loadSettings (host : Host) (a : Arguments) : Except Settings.Fault Settings :=
  match a.config with
  | some path => Settings.load path (host.file path)
  | none => Settings.loadOrDefault Defaults.configPath (host.file Defaults.configPath)

/-- The interface to bind: as the arguments say, else as the settings say, else as the properties
say, of which those of the environment come first. -/
def chooseInterface (a : Arguments) (settings : Settings) (environment : Environment) : String :=
  match a.interface.or settings.selection.interfaceName with
  | some name => name
  | none => Properties.interfaceName [.environment environment, .table settings.properties]

def startingLine : LogLine := ⟨.info, s!"Wi-Fi HAL v{Defaults.version} starting..."⟩

def bindingLine (interface : String) : LogLine :=
  ⟨.info, s!"Binding chip to interface '{interface}'"⟩

def completeLine : LogLine := ⟨.info, "Wi-Fi HAL shutdown complete"⟩

/-- A bound on the rounds of a run, far above what one takes. -/
def patience : Nat := 1000000

/-- A run of the service: what it logs before and after it waits for the shutdown signal, if it
waits, and why it failed, if it did. -/
structure Course where
  opening : List LogLine := []
  awaitsSignal : Bool := false
  closing : List LogLine := []
  failure : Option Failure := none

def lastLine : Option Failure → LogLine
  | none => completeLine
  | some failure => ⟨.error, s!"HAL failed: {failure.message}"⟩

def Course.after (line : LogLine) (c : Course) : Course :=
  { c with opening := line :: c.opening }

/-- Run the service on a vendor library until it has shut down. -/
def serve (backend : Backend) (interface : String) : Course :=
  let session : Session backend.State := { system := .initial backend.initial interface }
  let waiting := session.settle backend.library patience
  let done := waiting.signal.settle backend.library patience
  let opening := waiting.system.context.journal.filterMap entryLine?
  let all := done.system.context.journal.filterMap entryLine?
  { opening
    awaitsSignal := decide (waiting.stage = .awaitSignal)
    closing := all.drop opening.length
    failure := done.failure?.map .service }

/-- Check the settings, create the vendor library and run the service on it. -/
def runService (host : Host) (a : Arguments) (settings : Settings) : Course :=
  match settings.validate with
  | .error fault => { failure := some (.settings fault) }
  | .ok () =>
    let vendor := a.vendor.getD settings.selection.vendor
    match (Catalogue.standard.create vendor (settings.vendorSection? vendor)).1 with
    | .error e => { failure := some (.service e) }
    | .ok backend =>
      let interface := chooseInterface a settings host.environment
      (serve backend interface).after (bindingLine interface)

/-- A line as the log words it. Outside of JSON, which has escapes of its own, its text is written
for a terminal. -/
def worded (json : Bool) (line : LogLine) : LogLine :=
  if json then line else { line with text := Terminal.render line.text }

/-- Run the service as the arguments say. The log filter is known once the settings have been
looked for, so even their absence is logged. -/
def runLogged (host : Host) (a : Arguments) : Outcome :=
  let settings := loadSettings host a
  let level : LogLevel :=
    match settings with
    | .ok s => s.shared.logLevel
    | .error _ => .info
  let filter := LogFilter.choose a.verbose (host.environment.text? directivesVariable) level
  let course : Course :=
    match settings with
    | .error fault => { failure := some (.settings fault) }
    | .ok s => runService host a s
  let shown (lines : List LogLine) :=
    (lines.filter fun line => filter.shows logTarget line.level).map (worded a.json)
  { exitCode := if course.failure.isSome then 1 else 0
    opening := shown (startingLine :: course.opening)
    awaitsSignal := course.awaitsSignal
    closing := shown (course.closing ++ [lastLine course.failure])
    json := a.json }

def run (host : Host) : Outcome :=
  match Invocation.ofArguments host.arguments with
  | .mistake => { exitCode := 2 }
  | .help => { exitCode := 0 }
  | .version => { exitCode := 0, printed := [versionLine] }
  | .run a => runLogged host a

def printedLine (json : Bool) (line : LogLine) : String :=
  if json then
    (Json.Value.ofMembers
      [("level", .ofString line.level.label),
        ("fields", .ofMembers [("message", .ofString line.text)]),
        ("target", .ofString logTarget)]).render
  else line.render

end RadioLifecycle.Daemon
