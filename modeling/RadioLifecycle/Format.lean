import RadioLifecycle.Json.Value
import RadioLifecycle.Text.Decimal
import RadioLifecycle.Text.Named

/-!
Reading and writing typed values. A format says how its values present themselves: as a text, as a
number, as a list, as a choice among names, or as a record with named fields. Types are read from
these presentations alone, so each type is described once for all formats. Writing is always to
JSON.
-/

namespace RadioLifecycle

/-- What a kind of document value presents itself as. -/
class Format (ν : Type) where
  /-- Whether the value stands for the absence of one. -/
  isNull : ν → Bool
  text? : ν → Option String
  /-- The number that the value is, if it is a natural number below the bound. -/
  natural? : Nat → ν → Option Nat
  items? : ν → Option (List ν)
  /-- The name that the value chooses. -/
  choice? : ν → Option String
  /-- The fields of a record with the given names, each if it is present. -/
  fields? : List String → ν → Option (List (Option ν))
  entries? : ν → Option (List (String × ν))

/-- A type with a written form. -/
class Portable (α : Type) where
  read? : {ν : Type} → [Format ν] → ν → Option α
  write : α → Json.Value

namespace Portable

variable {ν α : Type} [Format ν]

def required [Portable α] : Option ν → Option α
  | none => none
  | some v => read? v

/-- A field whose absence means a default. -/
def defaulted [Portable α] (default : α) : Option ν → Option α
  | none => some default
  | some v => read? v

/-- A field whose absence means that there is no value. -/
def nullable [Portable α] : Option ν → Option (Option α)
  | none => some none
  | some v => if Format.isNull v then some none else (read? v).map some

/-- A value, or a null if there is none. -/
def writeOption [Portable α] : Option α → Json.Value
  | none => .null
  | some a => write a

instance : Portable String where
  read? v := Format.text? v
  write s := .ofString s

/-- Names are read as choices and written as texts. -/
instance [Named α] : Portable α where
  read? v := (Format.choice? v).bind Named.ofName?
  write a := .ofString (Named.name a)

instance [Portable α] : Portable (List α) where
  read? v := (Format.items? v).bind fun items => items.mapM read?
  write l := .array (l.map write)

instance : Portable UInt32 where
  read? v := (Format.natural? UInt32.size v).map UInt32.ofNat
  write n := .number (Decimal.write n.toNat)

end Portable

end RadioLifecycle
