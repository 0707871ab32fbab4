import RadioLifecycle.Log.Level
import RadioLifecycle.Text.Decimal

/-!
Which lines of the log are shown. A filter is a list of directives, each of which sets the least
level shown for the targets whose names begin with a given text, or for all targets. The directive
with the longest such text decides, and where none applies nothing is shown.
-/

namespace RadioLifecycle.Daemon

/-- The least level that is shown, or that nothing is. -/
inductive Threshold where
  | off
  | level (level : LogLevel)
  deriving DecidableEq, Repr

namespace Threshold

def admits : Threshold → LogLevel → Bool
  | .off, _ => false
  | .level least, l => decide (least.rank ≤ l.rank)

/-- The threshold of a number, from nothing at zero to everything at five. -/
def ofNumber? : Nat → Option Threshold
  | 0 => some .off
  | 1 => some (.level .error)
  | 2 => some (.level .warn)
  | 3 => some (.level .info)
  | 4 => some (.level .debug)
  | 5 => some (.level .trace)
  | _ => none

/-- The threshold that a word means: `off` or the name of a level, in either letter case, or a
number, before which a plus sign may stand. -/
def ofWord? (word : String) : Option Threshold :=
  match word.toList with
  | '+' :: digits => (Decimal.read? digits).bind ofNumber?
  | cs =>
    match Decimal.read? cs with
    | some n => ofNumber? n
    | none =>
      let name := word.toLower
      if name = "off" then some .off else (Named.ofName? name).map .level

end Threshold

/-- The threshold for the targets that begin with a text, or for all. -/
structure Directive where
  target : Option String
  threshold : Threshold
  deriving DecidableEq, Repr

namespace Directive

/-- Whether a directive may begin with a character: a letter, a digit, or one of the marks with
which the name of a target or of a span may begin. All characters beyond ASCII are taken for
letters. -/
def mayBegin (c : Char) : Bool :=
  c.isAlphanum || ['-', ':', '_', '['].contains c || decide (0x80 ≤ c.toNat)

/-- Read a directive: a level for all targets, a target with its level, or a target of which
everything is shown. -/
def read? (text : String) : Option Directive :=
  let cs := text.toList
  let target := String.ofList (cs.takeWhile (· != '='))
  if !cs.head?.any mayBegin then none
  else
    match cs.dropWhile (· != '=') with
    | [] =>
      match Threshold.ofWord? text with
      | some threshold => some ⟨none, threshold⟩
      | none => some ⟨some target, .level .trace⟩
    | [_] => some ⟨some target, .level .trace⟩
    | _ :: word =>
      (Threshold.ofWord? (String.ofList word)).map fun threshold => ⟨some target, threshold⟩

/-- The length of the text that a target has to begin with, if it does. -/
def reach? (d : Directive) (target : String) : Option Nat :=
  match d.target with
  | none => some 0
  | some t => if t.toList.isPrefixOf target.toList then some (t.length + 1) else none

end Directive

/-- The directives in force, one for each target. -/
abbrev LogFilter := List Directive

namespace LogFilter

/-- Add a directive in the place of one for the same target. -/
def add (f : LogFilter) (d : Directive) : LogFilter :=
  f.filter (·.target ≠ d.target) ++ [d]

/-- The filter of some directives, which shows errors if there are none. -/
def ofDirectives (ds : List Directive) : LogFilter :=
  if ds.isEmpty then [⟨none, .level .error⟩] else ds.foldl add []

def pieces (text : String) : List String :=
  (text.splitOn ",").filter (· ≠ "")

/-- The filter that a text describes, if all of it can be read. -/
def read? (text : String) : Option LogFilter :=
  ((pieces text).mapM Directive.read?).map ofDirectives

/-- The filter that a text describes, as far as it can be read. -/
def readLossy (text : String) : LogFilter :=
  ofDirectives ((pieces text).filterMap Directive.read?)

/-- The directive that decides about a target: of those that reach it the one that says most of
it. -/
def deciding? (f : LogFilter) (target : String) : Option Directive :=
  (f.foldl (fun (best : Option (Nat × Directive)) d =>
    match d.reach? target, best with
    | none, best => best
    | some reach, none => some (reach, d)
    | some reach, some (longest, best) =>
      if longest < reach then some (reach, d) else some (longest, best)) none).map (·.2)

def shows (f : LogFilter) (target : String) (level : LogLevel) : Bool :=
  match f.deciding? target with
  | none => false
  | some d => d.threshold.admits level

/-- The filter of a run. The directives of the environment come before the configured level, and a
verbose run shows everything down to debugging where no directive is about a target of its own. -/
def choose (verbose : Bool) (directives : Option String) (configured : LogLevel) : LogFilter :=
  if verbose then (readLossy (directives.getD "")).add ⟨none, .level .debug⟩
  else (directives.bind read?).getD [⟨none, .level configured⟩]

end LogFilter

end RadioLifecycle.Daemon
