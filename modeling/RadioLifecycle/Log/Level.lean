import RadioLifecycle.Text.Named

/-!
Levels of log lines, from the most talkative to the gravest, and the lines themselves.
-/

namespace RadioLifecycle

/-- How much a log line matters, and how much a reader wants to see. -/
inductive LogLevel where
  | trace
  | debug
  | info
  | warn
  | error
  deriving DecidableEq, Repr

namespace LogLevel

instance : Named LogLevel where
  all := [trace, debug, info, warn, error]
  name
    | trace => "trace"
    | debug => "debug"
    | info => "info"
    | warn => "warn"
    | error => "error"
  find_name a := by cases a <;> decide

/-- The level as it stands at the head of a line. -/
def label : LogLevel → String
  | trace => "TRACE"
  | debug => "DEBUG"
  | info => "INFO"
  | warn => "WARN"
  | error => "ERROR"

/-- The rank of a level; graver levels rank higher. -/
def rank : LogLevel → Nat
  | trace => 0
  | debug => 1
  | info => 2
  | warn => 3
  | error => 4

end LogLevel

structure LogLine where
  level : LogLevel
  text : String
  deriving DecidableEq, Repr

/-- A line as it is printed: its level, a space and its text. -/
def LogLine.render (line : LogLine) : String :=
  s!"{line.level.label} {line.text}"

end RadioLifecycle
