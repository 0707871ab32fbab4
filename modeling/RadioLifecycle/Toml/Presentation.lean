import RadioLifecycle.Format
import RadioLifecycle.Toml.Reader

/-!
TOML as a format. A choice is the name itself or a table whose one key is that name and whose value
is empty. A record is a table, whose unknown keys are passed over, or an array of the fields in
their order, of which the last may be missing.

There are two presentations. In a document, a date presents itself as a table with one reserved key,
and an array may hold more than the fields of a record. In a section that was taken out of a
document to be read later, a date presents itself as its text, and an array may not hold more.

A numeral that stands for no number is refused wherever a document is looked at. Unknown keys of a
record are passed over but looked at; what an array holds beyond the fields of a record is not.
-/

namespace RadioLifecycle.Toml

/-- The key under which a date presents itself as a table. -/
def datetimeKey : String := "$__toml_private_datetime"

def Value.isEmpty : Value → Bool
  | .table [] | .array [] => true
  | .table (_ :: _) | .array (_ :: _) | .string _ | .integer _ | .float _ | .noNumber
  | .boolean _ | .datetime _ => false

def Value.choice? : Value → Option String
  | .string text => some text
  | .table [(name, value)] => if value.isEmpty then some name else none
  | .table _ | .integer _ | .float _ | .noNumber | .boolean _ | .datetime _ | .array _ => none

/-- The natural number below a bound that a value is. -/
def Value.natural? (bound : Nat) : Value → Option Nat
  | .integer n => if 0 ≤ n && n.toNat < bound then some n.toNat else none
  | .string _ | .float _ | .noNumber | .boolean _ | .datetime _ | .array _ | .table _ => none

/-- The first fields of an array read as a record. -/
def fieldsOfItems {ν : Type} : List String → List ν → List (Option ν)
  | [], _ => []
  | _ :: names, [] => none :: fieldsOfItems names []
  | _ :: names, item :: rest => some item :: fieldsOfItems names rest

namespace Value

def text? : Value → Option String
  | .string text => some text
  | .integer _ | .float _ | .noNumber | .boolean _ | .datetime _ | .array _ | .table _ => none

def items? : Value → Option (List Value)
  | .array items => some items
  | .string _ | .integer _ | .float _ | .noNumber | .boolean _ | .datetime _ | .table _ => none

/-- The entries of a table, or of the one that a date presents itself as. -/
def entries? : Value → Option Table
  | .table entries => some entries
  | .datetime d => some [(datetimeKey, .string d.render)]
  | .string _ | .integer _ | .float _ | .noNumber | .boolean _ | .array _ => none

/-- The fields of a record, each of them present or not. Its unknown keys have to be sound. -/
def fields? (names : List String) (v : Value) : Option (List (Option Value)) :=
  match v with
  | .array items => some (fieldsOfItems names items)
  | v =>
    v.entries?.bind fun entries =>
      if entries.all fun (key, value) => names.contains key || value.isSound then
        some (names.map fun name => entries.lookup name)
      else none

end Value

instance : Format Value where
  isNull _ := false
  text? := Value.text?
  natural? := Value.natural?
  items? := Value.items?
  choice? := Value.choice?
  fields? := Value.fields?
  entries? := Value.entries?

/-- A value that was taken out of a document to be read later. -/
structure Section where
  value : Value

namespace Section

/-- The text that a section is, or that its date presents itself as. -/
def text? (s : Section) : Option String :=
  match s.value with
  | .string text => some text
  | .datetime d => some d.render
  | .integer _ | .float _ | .noNumber | .boolean _ | .array _ | .table _ => none

def choice? (s : Section) : Option String :=
  s.value.choice?

def items? (s : Section) : Option (List Section) :=
  s.value.items?.map fun items => items.map Section.mk

def entries? (s : Section) : Option (List (String × Section)) :=
  match s.value with
  | .table entries => some (entries.map fun (key, value) => (key, ⟨value⟩))
  | .string _ | .integer _ | .float _ | .noNumber | .boolean _ | .datetime _ | .array _ => none

/-- The fields of a record, each of them present or not. -/
def fields? (names : List String) (s : Section) : Option (List (Option Section)) :=
  match s.value with
  | .array items =>
    if items.length ≤ names.length then some (fieldsOfItems names (items.map Section.mk)) else none
  | _ => s.entries?.map fun entries => names.map fun name => entries.lookup name

end Section

instance : Format Section where
  isNull _ := false
  text? := Section.text?
  natural? bound s := s.value.natural? bound
  items? := Section.items?
  choice? := Section.choice?
  fields? := Section.fields?
  entries? := Section.entries?

/-- Whether no key of a table comes before this one. -/
def isLeastKey (key : String) (entries : Table) : Bool :=
  entries.all fun (k, _) => key ≤ k

mutual

/-- A value as it is taken out of a document: its numerals have to stand for numbers, and its
integers to fit into 64 bits. A table that begins with the reserved key of a date has to be one, and
nothing else in it is looked at. -/
def Value.detach? : Value → Option Value
  | .string text => some (.string text)
  | .integer n => if -(2 ^ 63) ≤ n && n < 2 ^ 63 then some (.integer n) else none
  | .float x => some (.float x)
  | .noNumber => none
  | .boolean b => some (.boolean b)
  | .datetime d => some (.datetime d)
  | .array items => (detachItems? items).map .array
  | .table entries =>
    match entries.lookup datetimeKey with
    | some date =>
      if isLeastKey datetimeKey entries then
        match date with
        | .string text => (Datetime.read? text.toList).map .datetime
        | .integer _ | .float _ | .noNumber | .boolean _ | .datetime _ | .array _ | .table _ => none
      else (detachEntries? entries).map .table
    | none => (detachEntries? entries).map .table

/-- The items of an array as they are taken out of a document. -/
def detachItems? : List Value → Option (List Value)
  | [] => some []
  | item :: rest =>
    match item.detach?, detachItems? rest with
    | some item, some rest => some (item :: rest)
    | _, _ => none

/-- The entries of a table as they are taken out of a document. -/
def detachEntries? : List (String × Value) → Option Table
  | [] => some []
  | (key, value) :: rest =>
    match value.detach?, detachEntries? rest with
    | some value, some rest => some ((key, value) :: rest)
    | _, _ => none

end

/-- The value of a type that a document stands for. -/
def parse? {α : Type} [Portable α] (text : String) : Option α :=
  (Toml.read? text).bind fun entries => Portable.read? (Value.table entries)

def parseValue? (text : String) : Option Value :=
  (Toml.read? text).bind fun entries => (Value.table entries).detach?

end RadioLifecycle.Toml
