import RadioLifecycle.Json.Value
import RadioLifecycle.Text.Decimal

/-!
Reading JSON text. Each reader takes what it wants from the front of the remaining characters and
returns the rest, or refuses. The grammar is strict: no comments, no trailing commas, no numbers
with leading zeros, no raw control characters inside texts.
-/

namespace RadioLifecycle.Json

def isBlank (c : Char) : Bool :=
  c == ' ' || c == '\n' || c == '\r' || c == '\t'

def skipBlanks (input : List Char) : List Char :=
  input.dropWhile isBlank

def hex4? (a b c d : Char) : Option Nat := do
  let a ← Decimal.hexValue? a
  let b ← Decimal.hexValue? b
  let c ← Decimal.hexValue? c
  let d ← Decimal.hexValue? d
  return ((a * 16 + b) * 16 + c) * 16 + d

def shortEscape? : Char → Option Char
  | '"' => some '"'
  | '\\' => some '\\'
  | '/' => some '/'
  | 'b' => some '\x08'
  | 'f' => some '\x0c'
  | 'n' => some '\n'
  | 'r' => some '\r'
  | 't' => some '\t'
  | _ => none

/-- A unit that begins a surrogate pair. -/
def isHighSurrogate (n : Nat) : Bool :=
  decide (0xD800 ≤ n ∧ n < 0xDC00)

/-- A unit that ends a surrogate pair. -/
def isLowSurrogate (n : Nat) : Bool :=
  decide (0xDC00 ≤ n ∧ n < 0xE000)

def ofSurrogates (high low : Nat) : Char :=
  Char.ofNat (0x10000 + (high - 0xD800) * 0x400 + (low - 0xDC00))

/-- The characters of a text, if each of them is one, and what follows the text. -/
abbrev Scanned := Option (List Char) × List Char

/-- Put a character in front of a scanned text. -/
def Scanned.cons (c : Char) (s : Scanned) : Scanned :=
  (s.1.map (c :: ·), s.2)

/-- A scanned text that does not stand for characters. -/
def Scanned.spoiled (s : Scanned) : Scanned :=
  (none, s.2)

/-- Read a text up to its closing quote. Half of a surrogate pair spoils the text. -/
def readText : List Char → Option Scanned
  | [] => none
  | '"' :: rest => some (some [], rest)
  | '\\' :: 'u' :: a :: b :: c :: d :: '\\' :: 'u' :: e :: f :: g :: h :: rest =>
    match hex4? a b c d with
    | none => none
    | some first =>
      if isHighSurrogate first then
        match hex4? e f g h with
        | none => none
        | some second =>
          if isLowSurrogate second then (readText rest).map (.cons (ofSurrogates first second))
          else (readText ('\\' :: 'u' :: e :: f :: g :: h :: rest)).map .spoiled
      else
        let tail := readText ('\\' :: 'u' :: e :: f :: g :: h :: rest)
        if isLowSurrogate first then tail.map .spoiled else tail.map (.cons (Char.ofNat first))
  | '\\' :: 'u' :: a :: b :: c :: d :: rest =>
    match hex4? a b c d with
    | none => none
    | some n =>
      if isHighSurrogate n || isLowSurrogate n then (readText rest).map .spoiled
      else (readText rest).map (.cons (Char.ofNat n))
  | '\\' :: e :: rest =>
    match shortEscape? e with
    | none => none
    | some c => (readText rest).map (.cons c)
  | c :: rest => if c.toNat < 0x20 || c == '\\' then none else (readText rest).map (.cons c)

/-- Take all digits from the front, of which there has to be one. -/
def readDigits (input : List Char) : Option (List Char × List Char) :=
  match input.takeWhile Decimal.isDigit with
  | [] => none
  | digits => some (digits, input.dropWhile Decimal.isDigit)

/-- Read the integer part of a number: a zero that stands alone, or digits that begin with another
one. -/
def readInteger : List Char → Option (List Char × List Char)
  | '0' :: rest => some (['0'], rest)
  | input => readDigits input

def readFraction : List Char → Option (List Char × List Char)
  | '.' :: rest => (readDigits rest).map fun (digits, rest) => ('.' :: digits, rest)
  | input => some ([], input)

def readExponent : List Char → Option (List Char × List Char)
  | e :: rest =>
    if e == 'e' || e == 'E' then
      match rest with
      | '+' :: rest => (readDigits rest).map fun (digits, rest) => (e :: '+' :: digits, rest)
      | '-' :: rest => (readDigits rest).map fun (digits, rest) => (e :: '-' :: digits, rest)
      | rest => (readDigits rest).map fun (digits, rest) => (e :: digits, rest)
    else some ([], e :: rest)
  | [] => some ([], [])

/-- Read a number without its sign. -/
def readMagnitude (input : List Char) : Option (List Char × List Char) := do
  let (integer, rest) ← readInteger input
  let (fraction, rest) ← readFraction rest
  let (exponent, rest) ← readExponent rest
  return (integer ++ fraction ++ exponent, rest)

/-- Read a number and keep its literal. -/
def readNumber : List Char → Option (List Char × List Char)
  | '-' :: rest => (readMagnitude rest).map fun (literal, rest) => ('-' :: literal, rest)
  | input => readMagnitude input

mutual

/-- Read a value, blanks before it included. The limit bounds the depth of the calls. -/
def readValue : Nat → List Char → Option (Value × List Char)
  | 0, _ => none
  | limit + 1, input =>
    match skipBlanks input with
    | 'n' :: 'u' :: 'l' :: 'l' :: rest => some (.null, rest)
    | 't' :: 'r' :: 'u' :: 'e' :: rest => some (.boolean true, rest)
    | 'f' :: 'a' :: 'l' :: 's' :: 'e' :: rest => some (.boolean false, rest)
    | '"' :: rest =>
      (readText rest).map fun (content, rest) => (.text (content.map String.ofList), rest)
    | '[' :: rest =>
      match skipBlanks rest with
      | ']' :: rest => some (.array [], rest)
      | rest => (readItems limit rest).map fun (items, rest) => (.array items, rest)
    | '\x7b' :: rest =>
      match skipBlanks rest with
      | '\x7d' :: rest => some (.object [], rest)
      | rest => (readMembers limit rest).map fun (members, rest) => (.object members, rest)
    | input => (readNumber input).map fun (literal, rest) => (.number literal, rest)

def readItems : Nat → List Char → Option (List Value × List Char)
  | 0, _ => none
  | limit + 1, input =>
    match readValue limit input with
    | none => none
    | some (item, rest) =>
      match skipBlanks rest with
      | ',' :: rest => (readItems limit rest).map fun (items, rest) => (item :: items, rest)
      | ']' :: rest => some ([item], rest)
      | _ => none

def readMembers : Nat → List Char → Option (List (Option String × Value) × List Char)
  | 0, _ => none
  | limit + 1, input =>
    match skipBlanks input with
    | '"' :: rest =>
      match readText rest with
      | none => none
      | some (key, rest) =>
        match skipBlanks rest with
        | ':' :: rest =>
          match readValue limit rest with
          | none => none
          | some (value, rest) =>
            let member := (key.map String.ofList, value)
            match skipBlanks rest with
            | ',' :: rest =>
              (readMembers limit rest).map fun (members, rest) => (member :: members, rest)
            | '\x7d' :: rest => some ([member], rest)
            | _ => none
        | _ => none
    | _ => none

end

/-- Read a whole text as one value. No reader calls another more often than there are characters,
save for the two calls that an item takes. -/
def read? (text : String) : Option Value :=
  let input := text.toList
  match readValue (2 * input.length + 2) input with
  | none => none
  | some (value, rest) => if (skipBlanks rest).isEmpty then some value else none

end RadioLifecycle.Json
