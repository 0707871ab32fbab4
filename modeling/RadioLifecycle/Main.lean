import RadioLifecycle.Daemon.Program

/-!
The command line of the daemon. What it prints and how it ends is decided by `Daemon.run`; here the
arguments, the environment and the settings file are read, and the lines are written. The end of the
standard input is the shutdown signal.
-/

namespace RadioLifecycle.Daemon

/-- What is said on the standard error of a command line that makes no sense. -/
def mistakeLine : String :=
  "wifi_hal: the command line makes no sense, see wifi_hal --help"

def usageLines : List String :=
  ["Usage: wifi_hal [OPTIONS]",
    "",
    "Options:",
    "  -c, --config <FILE>          Settings file, by default " ++ Defaults.configPath,
    "      --vendor <VENDOR>        Vendor library to load",
    "  -i, --interface <INTERFACE>  Interface to bind the chip to",
    "  -v, --verbose                Log more",
    "      --json                   Log as JSON",
    "  -h, --help                   Print help",
    "  -V, --version                Print version"]

/-- The number and the words of an error of the operating system. -/
def osError? : IO.Error → Option (UInt32 × String)
  | .alreadyExists _ code details | .invalidArgument _ code details
  | .permissionDenied _ code details | .resourceExhausted _ code details
  | .inappropriateType _ code details | .noSuchThing _ code details
  | .interrupted _ code details | .noFileOrDirectory _ code details
  | .otherError code details | .resourceBusy code details | .resourceVanished code details
  | .unsupportedOperation code details | .hardwareFault code details
  | .unsatisfiedConstraints code details | .illegalOperation code details
  | .protocolError code details | .timeExpired code details => some (code, details)
  | .unexpectedEof | .userError _ => none

/-- An error of the operating system in words. Its number is positive, although some functions
report it negated. -/
def describeError (e : IO.Error) : String :=
  match osError? e with
  | none => toString e
  | some (code, details) =>
    let number := if code < 0x80000000 then code else 0 - code
    s!"{details.capitalize} (os error {number})"

def readSettingsFile (path : String) : IO Settings.File := do
  try
    return .contents (← IO.FS.readBinFile path).toList
  catch
    | .noFileOrDirectory _ _ _ => return .missing
    | e => return .unreadable (describeError e)

/-- Read the variables of the environment that the daemon looks at. -/
def readEnvironment : IO Environment := do
  let names := [directivesVariable, Properties.variableName Defaults.interfaceProperty]
  names.filterMapM fun name => do
    return (← IO.getEnv name).map fun value => (name, Utf8.encode value.toList)

/-- Read everything that a run with these arguments looks at. -/
def readHost (arguments : List String) : IO Host := do
  let path :=
    match Invocation.ofArguments arguments with
    | .run a => a.config.getD Defaults.configPath
    | .version | .help | .mistake => Defaults.configPath
  let found ← readSettingsFile path
  let environment ← readEnvironment
  return { arguments, environment, file := fun p => if p = path then found else .missing }

/-- Wait for the end of the standard input. -/
def awaitSignal : IO Unit := do
  let input ← IO.getStdin
  repeat
    if (← input.getLine).isEmpty then break

def printLog (json : Bool) (lines : List LogLine) : IO Unit := do
  for line in lines do
    IO.println (printedLine json line)
  (← IO.getStdout).flush

/-- Do what a run comes down to. -/
def perform (outcome : Outcome) : IO UInt32 := do
  for line in outcome.printed do
    IO.println line
  printLog outcome.json outcome.opening
  if outcome.awaitsSignal then awaitSignal
  printLog outcome.json outcome.closing
  return UInt32.ofNat outcome.exitCode

end RadioLifecycle.Daemon

def main (arguments : List String) : IO UInt32 := do
  match RadioLifecycle.Daemon.Invocation.ofArguments arguments with
  | .help => for line in RadioLifecycle.Daemon.usageLines do IO.println line
  | .mistake => IO.eprintln RadioLifecycle.Daemon.mistakeLine
  | .version | .run _ => pure ()
  let host ← RadioLifecycle.Daemon.readHost arguments
  RadioLifecycle.Daemon.perform (RadioLifecycle.Daemon.run host)
