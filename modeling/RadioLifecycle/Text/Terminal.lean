import RadioLifecycle.Text.Decimal

/-!
Text for a terminal. Control characters with which a text could steer the terminal are written as
escapes, and every other character as itself, line breaks and tabs included.
-/

namespace RadioLifecycle.Terminal

/-- The steering characters of the first control range: bell, backspace, form feed, escape and
delete. -/
def steering : List Char :=
  ['\x07', '\x08', '\x0c', '\x1b', '\x7f']

/-- Whether a character belongs to the second control range, all of which steers. -/
def isSecondControl (c : Char) : Bool :=
  decide (0x80 ≤ c.toNat ∧ c.toNat ≤ 0x9F)

/-- A character as it is written: of the first control range with two hexadecimal digits, of the
second one between braces. -/
def write (c : Char) : List Char :=
  if c ∈ steering then
    let digits := Nat.toDigits 16 c.toNat
    '\\' :: 'x' :: List.replicate (2 - digits.length) '0' ++ digits
  else if isSecondControl c then '\\' :: 'u' :: '\x7b' :: Nat.toDigits 16 c.toNat ++ ['\x7d']
  else [c]

def render (text : String) : String :=
  String.ofList (text.toList.flatMap write)

end RadioLifecycle.Terminal
