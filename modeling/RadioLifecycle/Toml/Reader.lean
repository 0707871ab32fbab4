import RadioLifecycle.Toml.Node

/-!
Reading TOML documents, with line breaks, comments and trailing commas allowed inside the braces of
a table. Arrays and tables in braces nest at most eighty deep, and a key has at most eighty parts.
-/

namespace RadioLifecycle.Toml

/-- How deep arrays and tables in braces may nest. -/
def depthLimit : Nat := 80

/-- How many parts a key may have. -/
def keyLimit : Nat := 80

mutual

/-- Read a value. The first number bounds the depth of the calls, the second one that of nesting. -/
def readValue : Nat → Nat → List Char → Option (Value × List Char)
  | 0, _, _ => none
  | limit + 1, depth, input =>
    match input with
    | '"' :: _ | '\'' :: _ =>
      (readString input).map fun (text, rest) => (.string (String.ofList text), rest)
    | '[' :: rest =>
      match depth with
      | 0 => none
      | depth + 1 =>
        match skipFiller false rest with
        | ']' :: rest => some (.array [], rest)
        | rest => (readItems limit depth rest).map fun (items, rest) => (.array items, rest)
    | '\x7b' :: rest =>
      match depth with
      | 0 => none
      | depth + 1 =>
        match skipFiller false rest with
        | '\x7d' :: rest => some (.table [], rest)
        | rest =>
          (readMembers limit depth [] rest).map fun (entries, rest) =>
            (.table (finishEntries entries), rest)
    | _ => readScalar input

def readItems : Nat → Nat → List Char → Option (List Value × List Char)
  | 0, _, _ => none
  | limit + 1, depth, input =>
    match readValue limit depth input with
    | none => none
    | some (item, rest) =>
      match skipFiller false rest with
      | ']' :: rest => some ([item], rest)
      | ',' :: rest =>
        match skipFiller false rest with
        | ']' :: rest => some ([item], rest)
        | rest => (readItems limit depth rest).map fun (items, rest) => (item :: items, rest)
      | _ => none

/-- Read the entries of a table in braces, behind those read so far, and the closing brace. -/
def readMembers : Nat → Nat → Entries → List Char → Option (Entries × List Char)
  | 0, _, _, _ => none
  | limit + 1, depth, entries, input =>
    match readKey keyLimit input with
    | none => none
    | some (key, rest) =>
      match skipFiller false rest with
      | '=' :: rest =>
        match readValue limit depth (skipFiller false rest) with
        | none => none
        | some (value, rest) =>
          match entries.insert key value .header with
          | none => none
          | some entries =>
            match skipFiller false rest with
            | '\x7d' :: rest => some (entries, rest)
            | ',' :: rest =>
              match skipFiller false rest with
              | '\x7d' :: rest => some (entries, rest)
              | rest => readMembers limit depth entries rest
            | _ => none
      | _ => none

end

/-- A document under construction: its entries and the path of the table that its header opened
last. -/
structure Draft where
  root : Entries := []
  current : List String := []

namespace Draft

/-- Read a header or a key with its value at the beginning of a line. -/
def readLine (d : Draft) (limit : Nat) (input : List Char) : Option (Draft × List Char) :=
  match input with
  | '[' :: '[' :: rest =>
    match readKey keyLimit rest with
    | some (key, ']' :: ']' :: rest) =>
      (d.root.openElement key).map fun root => (⟨root, key.path ++ [key.last]⟩, rest)
    | _ => none
  | '[' :: rest =>
    match readKey keyLimit rest with
    | some (key, ']' :: rest) =>
      (d.root.openTable key).map fun root => (⟨root, key.path ++ [key.last]⟩, rest)
    | _ => none
  | input =>
    match readKey keyLimit input with
    | some (key, '=' :: rest) =>
      match readValue limit depthLimit (skipBlanks rest) with
      | none => none
      | some (value, rest) =>
        (d.root.insertAt d.current key value).map fun root => ({ d with root }, rest)
    | _ => none

/-- The rest behind blanks, a comment and a line break, which ends a line that has more behind
it. -/
def endLine? (input : List Char) : Option (List Char) :=
  let rest :=
    match skipBlanks input with
    | '#' :: rest => rest.dropWhile isPlain
    | rest => rest
  if rest.isEmpty then some [] else lineBreak? rest

/-- Read all lines. A line that holds nothing but blanks and a comment adds nothing. -/
def readLines : Nat → Draft → List Char → Option Draft
  | 0, _, _ => none
  | limit + 1, d, input =>
    match skipBlanks input with
    | [] => some d
    | c :: rest =>
      if c = '#' || (lineBreak? (c :: rest)).isSome then
        (endLine? (c :: rest)).bind (readLines limit d)
      else
        match d.readLine limit (c :: rest) with
        | none => none
        | some (d, rest) => (endLine? rest).bind (readLines limit d)

end Draft

/-- Read a document. A byte order mark in front of it is passed over. -/
def read? (text : String) : Option Table :=
  let input :=
    match text.toList with
    | '\uFEFF' :: rest => rest
    | input => input
  (Draft.readLines (2 * input.length + 2) {} input).map fun d => finishEntries d.root

end RadioLifecycle.Toml
