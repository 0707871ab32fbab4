/-!
Closed vocabularies: types whose values have a fixed spelling wherever they are written, in
configuration text, in messages and in reports.
-/

namespace RadioLifecycle

/-- A finite type whose values are spelled by fixed names. The names tell the values apart, and the
list of values is complete. -/
class Named (α : Type) where
  /-- Every value once. -/
  all : List α
  name : α → String
  /-- The first value spelled like `a` is `a` itself. -/
  find_name : ∀ a : α, all.find? (fun b => name b == name a) = some a

namespace Named

/-- The value spelled by a name, if any. -/
def ofName? {α : Type} [Named α] (text : String) : Option α :=
  (all (α := α)).find? (fun b => name b == text)

theorem ofName?_name {α : Type} [Named α] (a : α) : ofName? (name a) = some a :=
  find_name a

end Named

end RadioLifecycle
