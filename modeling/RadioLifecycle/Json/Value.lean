/-!
JSON values. A number keeps its literal, since how it is read depends on what it is read for. A text
whose escapes name half of a surrogate pair stands for no characters; it is still a value, so that
readers may pass over it.
-/

namespace RadioLifecycle.Json

inductive Value where
  | null
  | boolean (value : Bool)
  | number (literal : List Char)
  | text (content : Option String)
  | array (items : List Value)
  /-- The members in their order, repeated keys included. -/
  | object (members : List (Option String × Value))
  deriving Repr

namespace Value

def ofString (s : String) : Value :=
  .text (some s)

def ofMembers (members : List (String × Value)) : Value :=
  .object (members.map fun (key, value) => (some key, value))

end Value

end RadioLifecycle.Json
