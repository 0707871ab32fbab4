import RadioLifecycle.Toml.Numeral

/-!
The parts of a TOML document that are neither tables nor arrays: blanks and comments, keys, texts,
and the values that are written without quotes. Readers take what they want from the front of the
remaining characters and return the rest, or refuse.
-/

namespace RadioLifecycle.Toml

def isBlank (c : Char) : Bool :=
  c == ' ' || c == '\t'

def skipBlanks (input : List Char) : List Char :=
  input.dropWhile isBlank

/-- Characters that may stand inside texts and comments. Of the control characters only the tab
may. -/
def isPlain (c : Char) : Bool :=
  c == '\t' || (decide (0x20 ≤ c.toNat) && c.toNat != 0x7F)

/-- The rest after a line break, if there is one. -/
def lineBreak? : List Char → Option (List Char)
  | '\n' :: rest => some rest
  | '\r' :: '\n' :: rest => some rest
  | _ => none

/-- The rest after blanks, line breaks and comments. -/
def skipFiller (inComment : Bool) : List Char → List Char
  | [] => []
  | '\n' :: rest => skipFiller false rest
  | '\r' :: '\n' :: rest => skipFiller false rest
  | c :: rest =>
    if inComment then if isPlain c then skipFiller true rest else c :: rest
    else if isBlank c then skipFiller false rest
    else if c = '#' then skipFiller true rest
    else c :: rest

def hexNumber? (digits : List Char) : Option Nat :=
  digits.foldl (fun value? c => do return (← value?) * 16 + (← Decimal.hexValue? c)) (some 0)

/-- The character that hexadecimal digits name, unless there is none of that number. -/
def hexChar? (digits : List Char) : Option Char := do
  let n ← hexNumber? digits
  if n.isValidChar then return Char.ofNat n else none

def shortEscape? : Char → Option Char
  | 'b' => some '\x08'
  | 't' => some '\t'
  | 'n' => some '\n'
  | 'f' => some '\x0c'
  | 'r' => some '\r'
  | 'e' => some '\x1b'
  | '"' => some '"'
  | '\\' => some '\\'
  | _ => none

/-- The characters of a text, and what follows it. -/
abbrev Scanned := Option (List Char × List Char)

/-- Put a character in front of a scanned text. -/
def Scanned.cons (c : Char) (s : Scanned) : Scanned :=
  s.map fun (text, rest) => (c :: text, rest)

/-- Put a character, if there is one, in front of a scanned text, and refuse otherwise. -/
def Scanned.consIf (c : Option Char) (s : Scanned) : Scanned :=
  c.bind fun c => s.cons c

/-- Read a text in double quotes up to its closing quote. -/
def readBasic : List Char → Scanned
  | [] => none
  | '"' :: rest => some ([], rest)
  | '\\' :: 'x' :: a :: b :: rest => (readBasic rest).consIf (hexChar? [a, b])
  | '\\' :: 'u' :: a :: b :: c :: d :: rest => (readBasic rest).consIf (hexChar? [a, b, c, d])
  | '\\' :: 'U' :: a :: b :: c :: d :: e :: f :: g :: h :: rest =>
    (readBasic rest).consIf (hexChar? [a, b, c, d, e, f, g, h])
  | '\\' :: e :: rest => (readBasic rest).consIf (shortEscape? e)
  | c :: rest => if isPlain c && c != '\\' then (readBasic rest).cons c else none

/-- Read a text in single quotes up to its closing quote. -/
def readLiteral : List Char → Scanned
  | [] => none
  | '\'' :: rest => some ([], rest)
  | c :: rest => if isPlain c then (readLiteral rest).cons c else none

/-- The end of a text over several lines, behind three closing quotes: up to two more quotes belong
to the text. -/
def closeWith (quote : Char) : List Char → List Char × List Char
  | a :: b :: rest =>
    if a = quote then if b = quote then ([quote, quote], rest) else ([quote], b :: rest)
    else ([], a :: b :: rest)
  | [a] => if a = quote then ([quote], []) else ([], [a])
  | [] => ([], [])

/-- Whether the line ends here, blanks aside. -/
def atLineEnd (input : List Char) : Bool :=
  (lineBreak? (skipBlanks input)).isSome

/-- Read a text in three double quotes up to its closing quotes. A backslash at the end of a line
removes everything up to the next character that is neither blank nor line break. -/
def readMultilineBasic (trimming : Bool) : List Char → Scanned
  | [] => none
  | '"' :: '"' :: '"' :: rest => some (closeWith '"' rest)
  | '\\' :: 'x' :: a :: b :: rest => (readMultilineBasic false rest).consIf (hexChar? [a, b])
  | '\\' :: 'u' :: a :: b :: c :: d :: rest =>
    (readMultilineBasic false rest).consIf (hexChar? [a, b, c, d])
  | '\\' :: 'U' :: a :: b :: c :: d :: e :: f :: g :: h :: rest =>
    (readMultilineBasic false rest).consIf (hexChar? [a, b, c, d, e, f, g, h])
  | '\\' :: e :: rest =>
    if isBlank e || e == '\n' || e == '\r' then
      if atLineEnd (e :: rest) then readMultilineBasic true (e :: rest) else none
    else (readMultilineBasic false rest).consIf (shortEscape? e)
  | '\r' :: '\n' :: rest =>
    if trimming then readMultilineBasic true rest
    else ((readMultilineBasic false rest).cons '\n').cons '\r'
  | c :: rest =>
    if trimming && (isBlank c || c == '\n') then readMultilineBasic true rest
    else if (isPlain c || c == '\n') && c != '\\' then (readMultilineBasic false rest).cons c
    else none

/-- Read a text in three single quotes up to its closing quotes. -/
def readMultilineLiteral : List Char → Scanned
  | [] => none
  | '\'' :: '\'' :: '\'' :: rest => some (closeWith '\'' rest)
  | '\r' :: '\n' :: rest => ((readMultilineLiteral rest).cons '\n').cons '\r'
  | c :: rest => if isPlain c || c == '\n' then (readMultilineLiteral rest).cons c else none

/-- What follows the opening quotes of a text over several lines. A line break right after them does
not belong to the text. -/
def afterOpening (input : List Char) : List Char :=
  (lineBreak? input).getD input

def readString : List Char → Scanned
  | '"' :: '"' :: '"' :: rest => readMultilineBasic false (afterOpening rest)
  | '\'' :: '\'' :: '\'' :: rest => readMultilineLiteral (afterOpening rest)
  | '"' :: rest => readBasic rest
  | '\'' :: rest => readLiteral rest
  | _ => none

def isBareKey (c : Char) : Bool :=
  c.isAlphanum || c == '_' || c == '-'

def readKeyPart : List Char → Option (String × List Char)
  | '"' :: rest => (readBasic rest).map fun (text, rest) => (String.ofList text, rest)
  | '\'' :: rest => (readLiteral rest).map fun (text, rest) => (String.ofList text, rest)
  | input =>
    match input.takeWhile isBareKey with
    | [] => none
    | key => some (String.ofList key, input.dropWhile isBareKey)

/-- A key: the parts that lead to a table, and the one that names an entry of it. -/
structure Key where
  path : List String
  last : String
  deriving DecidableEq, Repr

/-- Read a key with blanks around it. It has at most so many parts, of which at least one. -/
def readKey : Nat → List Char → Option (Key × List Char)
  | 0, _ => none
  | limit + 1, input =>
    match readKeyPart (skipBlanks input) with
    | none => none
    | some (part, rest) =>
      match skipBlanks rest with
      | '.' :: rest =>
        (readKey limit rest).map fun (key, rest) => ({ key with path := part :: key.path }, rest)
      | rest => some (⟨[], part⟩, rest)

/-- Read a whole text as a value that is written without quotes. -/
def scalar? (text : List Char) : Option Value :=
  match text with
  | ['t', 'r', 'u', 'e'] => some (.boolean true)
  | ['f', 'a', 'l', 's', 'e'] => some (.boolean false)
  | text => ((readInteger text).or (readFloat text)).or ((Datetime.read? text).map .datetime)

def isScalar (c : Char) : Bool :=
  c.isAlphanum || c == '_' || c == '-' || c == '+' || c == '.' || c == ':'

/-- Take the text of a value without quotes. A date and a time may have one space between them. -/
def takeScalar (input : List Char) : List Char × List Char :=
  let text := input.takeWhile isScalar
  match input.dropWhile isScalar with
  | ' ' :: c :: rest =>
    if Decimal.isDigit c && (Date.read text).any (·.2.isEmpty) then
      (text ++ ' ' :: (c :: rest).takeWhile isScalar, (c :: rest).dropWhile isScalar)
    else (text, ' ' :: c :: rest)
  | rest => (text, rest)

/-- Read a value without quotes. -/
def readScalar (input : List Char) : Option (Value × List Char) :=
  let (text, rest) := takeScalar input
  (scalar? text).map fun value => (value, rest)

end RadioLifecycle.Toml
