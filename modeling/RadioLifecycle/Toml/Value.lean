import RadioLifecycle.Text.Binary64
import RadioLifecycle.Toml.Datetime

/-!
TOML values. A document may hold numerals that stand for no number, such as one beyond every float.
They are values of their own, and a value counts as sound when it holds none of them.
-/

namespace RadioLifecycle.Toml

/-- A TOML value. The keys of a table are distinct. -/
inductive Value where
  | string (text : String)
  | integer (value : Int)
  | float (value : Binary64)
  /-- A numeral that stands for no number. -/
  | noNumber
  | boolean (value : Bool)
  | datetime (value : Datetime)
  | array (items : List Value)
  | table (entries : List (String × Value))
  deriving Repr

/-- A table: keys with their values, in the order of their first mention. -/
abbrev Table := List (String × Value)

mutual

/-- Whether every numeral in a value stands for a number. -/
def Value.isSound : Value → Bool
  | .noNumber => false
  | .array items => soundItems items
  | .table entries => soundEntries entries
  | .string _ | .integer _ | .float _ | .boolean _ | .datetime _ => true

def soundItems : List Value → Bool
  | [] => true
  | item :: rest => item.isSound && soundItems rest

def soundEntries : List (String × Value) → Bool
  | [] => true
  | (_, value) :: rest => value.isSound && soundEntries rest

end

end RadioLifecycle.Toml
