import RadioLifecycle.Toml.Value

/-!
Numerals of TOML. Integers are written in decimal digits or, behind a mark, in those of another
base; floats have a point, an exponent or both. Underscores may stand between digits. A numeral out
of the range of numbers, or one without any digit behind the mark of its base, stands for no number
but is a value all the same.
-/

namespace RadioLifecycle.Toml

/-- The digits of a numeral without the underscores, each of which stands between two digits. -/
def digitsOf? (isDigit : Char → Bool) : List Char → Option (List Char)
  | [] => none
  | [c] => if isDigit c then some [c] else none
  | c :: '_' :: rest => if isDigit c then (digitsOf? isDigit rest).map (c :: ·) else none
  | c :: rest => if isDigit c then (digitsOf? isDigit rest).map (c :: ·) else none

def valueOf (base : Nat) (digits : List Char) : Nat :=
  digits.foldl (fun value c => value * base + (Decimal.hexValue? c).getD 0) 0

/-- What stands in front of the digits of a numeral. -/
inductive Sign where
  | none
  | plus
  | minus
  deriving DecidableEq, Repr

/-- The sign of a text, and what follows it. -/
def splitSign : List Char → Sign × List Char
  | '+' :: rest => (.plus, rest)
  | '-' :: rest => (.minus, rest)
  | text => (.none, text)

def Sign.apply (sign : Sign) (n : Nat) : Int :=
  if sign = .minus then -(n : Int) else n

/-- Decimal digits behind a sign, without a leading zero. An underscore may stand between the sign
and the digits, and zeros may follow it. -/
def wholeDigits? (sign : Sign) : List Char → Option (List Char)
  | '_' :: digits => if sign = .none then none else digitsOf? Decimal.isDigit digits
  | digits =>
    match digitsOf? Decimal.isDigit digits with
    | some ('0' :: _ :: _) => none
    | digits => digits

/-- An integer as a value. The widest range that a document may use is that of 128 bits, with or
without a sign. -/
def Value.ofInteger (n : Int) : Value :=
  if -Int.pow 2 127 ≤ n ∧ n < Int.pow 2 128 then .integer n else .noNumber

/-- Read the digits of an integer behind the mark of its base. -/
def readBased (base : Nat) (isDigit : Char → Bool) : List Char → Option Value
  | [] => some .noNumber
  | digits => (digitsOf? isDigit digits).map fun digits => .ofInteger (valueOf base digits)

def isHexDigit (c : Char) : Bool :=
  (Decimal.hexValue? c).isSome

/-- Whether every underscore stands behind a digit and in front of one, be they hexadecimal. The
flag tells whether one may stand at the beginning. -/
def fitsUnderscores : Bool → List Char → Bool
  | _, [] => true
  | _, ['_'] => false
  | fits, '_' :: c :: rest => fits && isHexDigit c && fitsUnderscores true rest
  | _, c :: rest => fitsUnderscores (isHexDigit c) rest

/-- Whether a character can only belong to a float. -/
def isFloatMark (c : Char) : Bool :=
  c == '.' || c == 'e' || c == 'E'

/-- Whether a text behind a sign passes for a decimal integer although it has more in it than
digits. It does if an underscore follows its first digits, no underscore is out of place, no digits
begin with a zero, and nothing says that it is a float. -/
def resemblesInteger (sign : Sign) (text : List Char) : Bool :=
  (text.dropWhile Decimal.isDigit).head? == some '_' && text.head? != some '0' &&
    !text.any isFloatMark && fitsUnderscores (decide (sign ≠ .none)) text

/-- Read a whole text as an integer. -/
def readInteger : List Char → Option Value
  | '0' :: 'x' :: digits => readBased 16 isHexDigit digits
  | '0' :: 'o' :: digits => readBased 8 (fun c => '0' ≤ c ∧ c ≤ '7') digits
  | '0' :: 'b' :: digits => readBased 2 (fun c => c == '0' || c == '1') digits
  | text =>
    let (sign, text) := splitSign text
    match wholeDigits? sign text with
    | some digits => some (.ofInteger (sign.apply (valueOf 10 digits)))
    | none => if resemblesInteger sign text then some .noNumber else none

def isExponentMark (c : Char) : Bool :=
  c == 'e' || c == 'E'

/-- The exponent of a float, zero if there is none. -/
def exponent? : List Char → Option Int
  | [] => some 0
  | _ :: text =>
    let (sign, digits) := splitSign text
    (digitsOf? Decimal.isDigit digits).map fun digits => sign.apply (valueOf 10 digits)

/-- The mantissa and the exponent of a float behind its sign: whole digits, and a fraction, an
exponent or both. The fraction is counted among the digits of the mantissa. -/
def scientific? (sign : Sign) (text : List Char) : Option (Nat × Int) := do
  let mantissa := text.takeWhile (!isExponentMark ·)
  let exponent ← exponent? (text.dropWhile (!isExponentMark ·))
  let whole ← wholeDigits? sign (mantissa.takeWhile (· != '.'))
  match mantissa.dropWhile (· != '.') with
  | [] => if mantissa.length = text.length then none else return (valueOf 10 whole, exponent)
  | _ :: fraction =>
    let fraction ← digitsOf? Decimal.isDigit fraction
    return (valueOf 10 (whole ++ fraction), exponent - fraction.length)

/-- Read a whole text as a float. -/
def readFloat (text : List Char) : Option Value :=
  let (sign, text) := splitSign text
  let negative := decide (sign = .minus)
  match text with
  | ['i', 'n', 'f'] => some (.float (Binary64.infinity.withSign negative))
  | ['n', 'a', 'n'] => some (.float (Binary64.notANumber.withSign negative))
  | text =>
    (scientific? sign text).map fun (mantissa, exponent) =>
      match Binary64.ofDecimal? mantissa exponent with
      | some x => .float (x.withSign negative)
      | none => .noNumber

end RadioLifecycle.Toml
