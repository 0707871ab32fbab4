import RadioLifecycle.Format
import RadioLifecycle.Json.Reader
import RadioLifecycle.Json.Writer

/-!
JSON as a format. A choice is the name itself or an object whose one member has that name and no
value. A record is an object, whose unknown members are passed over and whose known ones may not be
repeated, or an array of the fields in their order, of which the last may be missing.
-/

namespace RadioLifecycle.Json

/-- The values of all members with a key. -/
def valuesOf (key : String) (members : List (Option String × Value)) : List Value :=
  members.filterMap fun (k, value) => if k = some key then some value else none

/-- The value of the one member with a key, none if there is no such member. A repeated key is
refused. -/
def single? (key : String) (members : List (Option String × Value)) : Option (Option Value) :=
  match valuesOf key members with
  | [] => some none
  | [value] => some (some value)
  | _ => none

/-- The fields of an array read as a record. -/
def fieldsOfItems : List String → List Value → Option (List (Option Value))
  | [], [] => some []
  | [], _ :: _ => none
  | _ :: names, [] => (fieldsOfItems names []).map (none :: ·)
  | _ :: names, item :: rest => (fieldsOfItems names rest).map (some item :: ·)

namespace Value

def isNull : Value → Bool
  | .null => true
  | .boolean _ | .number _ | .text _ | .array _ | .object _ => false

def text? : Value → Option String
  | .text content => content
  | .null | .boolean _ | .number _ | .array _ | .object _ => none

/-- A natural number is written in digits alone. -/
def natural? (bound : Nat) : Value → Option Nat
  | .number literal => (Decimal.read? literal).filter (· < bound)
  | .null | .boolean _ | .text _ | .array _ | .object _ => none

def items? : Value → Option (List Value)
  | .array items => some items
  | .null | .boolean _ | .number _ | .text _ | .object _ => none

def choice? : Value → Option String
  | .text content => content
  | .object [(some name, .null)] => some name
  | .null | .boolean _ | .number _ | .array _ | .object _ => none

/-- A record whose keys are texts, and whose known keys are not repeated. -/
def fields? (names : List String) : Value → Option (List (Option Value))
  | .object members =>
    if members.all (·.1.isSome) then names.mapM (single? · members) else none
  | .array items => fieldsOfItems names items
  | .null | .boolean _ | .number _ | .text _ => none

/-- A table whose keys are texts. -/
def entries? : Value → Option (List (String × Value))
  | .object members => members.mapM fun (key, value) => key.map fun key => (key, value)
  | .null | .boolean _ | .number _ | .text _ | .array _ => none

end Value

instance : Format Value where
  isNull := Value.isNull
  text? := Value.text?
  natural? := Value.natural?
  items? := Value.items?
  choice? := Value.choice?
  fields? := Value.fields?
  entries? := Value.entries?

/-- The value of a type that a JSON text stands for. -/
def parse? {α : Type} [Portable α] (text : String) : Option α :=
  (Json.read? text).bind Portable.read?

end RadioLifecycle.Json
