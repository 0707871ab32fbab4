import RadioLifecycle.Toml.Scalar

/-!
Tables under construction. A document opens tables by headers, by the paths of headers below them
and by dotted keys, and which of these opened a table decides what may still be added to it: a
header may open a table once, dotted keys may only extend tables that dotted keys began, and a
value, be it an array or a table in braces, is closed for good.
-/

namespace RadioLifecycle.Toml

/-- What opened a table. -/
inductive Opening where
  /-- The path of a header that names a table inside it. -/
  | implied
  | dotted
  /-- A header of its own, or the document itself. -/
  | header
  deriving DecidableEq, Repr

/-- An entry of a table under construction. -/
inductive Node where
  | value (value : Value)
  | table (opening : Opening) (entries : List (String × Node))
  /-- Tables that headers in double brackets opened, one after another. -/
  | elements (tables : List (List (String × Node)))

/-- The entries of a table under construction. -/
abbrev Entries := List (String × Node)

namespace Entries

/-- Put a node in the place of the one with the same key. -/
def replace (entries : Entries) (key : String) (node : Node) : Entries :=
  entries.map fun (k, n) => if k = key then (k, node) else (k, n)

/-- Change the table at the end of a path. Tables that are missing on the way are opened; an array
of tables leads to its last one; a value leads nowhere, and dotted keys do not pass through a table
that has a header of its own. -/
def descend (dotted : Bool) (change : Opening → Entries → Option Entries) :
    List String → Opening → Entries → Option Entries
  | [], opening, entries => change opening entries
  | key :: path, _, entries =>
    match entries.lookup key with
    | none =>
      let opening : Opening := if dotted then .dotted else .implied
      (descend dotted change path opening []).map fun inner =>
        entries ++ [(key, .table opening inner)]
    | some (.value _) => none
    | some (.table opening inner) =>
      if dotted && opening = .header then none
      else
        (descend dotted change path opening inner).map fun inner =>
          entries.replace key (.table opening inner)
    | some (.elements tables) =>
      match tables.getLast? with
      | none => none
      | some last =>
        (descend dotted change path .header last).map fun last =>
          entries.replace key (.elements (tables.dropLast ++ [last]))

/-- Add a value under a key. A plain key does not add to a table that dotted keys began, a dotted
key to no other. -/
def insert (key : Key) (value : Value) (opening : Opening) (entries : Entries) : Option Entries :=
  entries.descend true (fun opening entries =>
    if decide (opening = .dotted) = key.path.isEmpty then none
    else if (entries.lookup key.last).isSome then none
    else some (entries ++ [(key.last, .value value)])) key.path opening

/-- Open the table that a header names. -/
def openTable (key : Key) (entries : Entries) : Option Entries :=
  entries.descend false (fun _ entries =>
    match entries.lookup key.last with
    | none => some (entries ++ [(key.last, .table .header [])])
    | some (.table .implied inner) => some (entries.replace key.last (.table .header inner))
    | some _ => none) key.path .header

/-- Open the next table of the array that a header in double brackets names. -/
def openElement (key : Key) (entries : Entries) : Option Entries :=
  entries.descend false (fun _ entries =>
    match entries.lookup key.last with
    | none => some (entries ++ [(key.last, .elements [[]])])
    | some (.elements tables) => some (entries.replace key.last (.elements (tables ++ [[]])))
    | some _ => none) key.path .header

/-- Add a value under a key to the table at the end of a path. -/
def insertAt (path : List String) (key : Key) (value : Value) (entries : Entries) :
    Option Entries :=
  entries.descend false (insert key value) path .header

end Entries

mutual

def Node.finish : Node → Value
  | .value value => value
  | .table _ entries => .table (finishEntries entries)
  | .elements tables => .array (finishTables tables)

def finishEntries : List (String × Node) → Table
  | [] => []
  | (key, node) :: rest => (key, node.finish) :: finishEntries rest

def finishTables : List (List (String × Node)) → List Value
  | [] => []
  | entries :: rest => .table (finishEntries entries) :: finishTables rest

end

end RadioLifecycle.Toml
