import RadioLifecycle.Defaults
import RadioLifecycle.Text.Utf8

/-!
System properties. They come from several stores, of which the first that knows a key decides. The
environment is one such store: a key is spelled there as the name of a variable, and a variable
that is empty or no text counts as unset.
-/

namespace RadioLifecycle

/-- The environment of a process: variables with their bytes. -/
abbrev Environment := List (String × List UInt8)

namespace Environment

/-- The text of a variable, if it is set and is one. -/
def text? (e : Environment) (name : String) : Option String :=
  (e.lookup name).bind fun bytes => (Utf8.decode? bytes).map String.ofList

end Environment

namespace Properties

inductive Store where
  | table (entries : List (String × String))
  | environment (environment : Environment)

/-- The name of the variable for a property: letters become capitals, digits stay, and anything else
becomes an underscore. Only ASCII counts. -/
def variableName (key : String) : String :=
  String.ofList (key.toList.map fun c => if c.isAlphanum then c.toUpper else '_')

/-- The value that a store has for a key. -/
def Store.get? (s : Store) (key : String) : Option String :=
  match s with
  | .table entries => entries.lookup key
  | .environment e => (e.text? (variableName key)).filter (· ≠ "")

/-- The value that the first store which has one has for a key. -/
def lookup (stores : List Store) (key : String) : Option String :=
  stores.findSome? (·.get? key)

/-- The interface that the properties name, or the default one. -/
def interfaceName (stores : List Store) : String :=
  (lookup stores Defaults.interfaceProperty).getD Defaults.interfaceName

end Properties

end RadioLifecycle
