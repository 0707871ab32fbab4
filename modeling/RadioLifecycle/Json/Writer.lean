import RadioLifecycle.Json.Value
import RadioLifecycle.Text.Decimal

/-!
JSON as text, without blanks. A text escapes what has to be escaped and nothing else: the quote, the
backslash and the control characters, those with a short escape by it.
-/

namespace RadioLifecycle.Json

/-- The lower-case hexadecimal digit of a value below sixteen. -/
def hexDigit (n : Nat) : Char :=
  if n < 10 then Decimal.digit n else Char.ofNat ('a'.toNat + (n - 10))

/-- One character inside the quotes. -/
def writeChar (c : Char) : List Char :=
  match c with
  | '"' => ['\\', '"']
  | '\\' => ['\\', '\\']
  | '\x08' => ['\\', 'b']
  | '\x0c' => ['\\', 'f']
  | '\n' => ['\\', 'n']
  | '\r' => ['\\', 'r']
  | '\t' => ['\\', 't']
  | c =>
    if c.toNat < 0x20 then ['\\', 'u', '0', '0', hexDigit (c.toNat / 16), hexDigit (c.toNat % 16)]
    else [c]

def writeText (s : String) : List Char :=
  '"' :: s.toList.flatMap writeChar ++ ['"']

/-- A list of written parts in brackets. -/
def enclose (opening closing : Char) (parts : List (List Char)) : List Char :=
  opening :: List.intercalate [','] parts ++ [closing]

mutual

/-- A value as text. A text without characters is written as an empty one. -/
def Value.write : Value → List Char
  | .null => ['n', 'u', 'l', 'l']
  | .boolean true => ['t', 'r', 'u', 'e']
  | .boolean false => ['f', 'a', 'l', 's', 'e']
  | .number literal => literal
  | .text content => writeText (content.getD "")
  | .array items => enclose '[' ']' (writeItems items)
  | .object members => enclose '\x7b' '\x7d' (writeMembers members)

def writeItems : List Value → List (List Char)
  | [] => []
  | item :: rest => item.write :: writeItems rest

def writeMembers : List (Option String × Value) → List (List Char)
  | [] => []
  | (key, value) :: rest => (writeText (key.getD "") ++ ':' :: value.write) :: writeMembers rest

end

def Value.render (v : Value) : String :=
  String.ofList v.write

end RadioLifecycle.Json
