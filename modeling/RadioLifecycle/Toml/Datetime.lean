import RadioLifecycle.Text.Decimal

/-!
Dates and times: a date, a time of day, or both with or without an offset from universal time. They
are written with `T` between date and time and with seconds, and read with either letter case, a
space in place of the `T`, and the seconds left out.
-/

namespace RadioLifecycle.Toml

structure Date where
  year : Nat
  month : Nat
  day : Nat
  deriving DecidableEq, Repr

structure Time where
  hour : Nat
  minute : Nat
  second : Nat
  nanosecond : Nat
  deriving DecidableEq, Repr

inductive Offset where
  | universal
  | minutes (minutes : Int)
  deriving DecidableEq, Repr

/-- A date, a time, or both. Only a moment with both may have an offset. -/
structure Datetime where
  date : Option Date := none
  time : Option Time := none
  offset : Option Offset := none
  deriving DecidableEq, Repr

def isLeapYear (year : Nat) : Bool :=
  year % 4 = 0 && (year % 100 ≠ 0 || year % 400 = 0)

def daysOfMonth (year month : Nat) : Nat :=
  match month with
  | 2 => if isLeapYear year then 29 else 28
  | 4 | 6 | 9 | 11 => 30
  | _ => 31

/-- Read a number of exactly so many digits. -/
def readFixed : Nat → Nat → List Char → Option (Nat × List Char)
  | 0, value, input => some (value, input)
  | count + 1, value, c :: rest =>
    match Decimal.value? c with
    | some d => readFixed count (value * 10 + d) rest
    | none => none
  | _ + 1, _, [] => none

def expect (wanted : Char) : List Char → Option (List Char)
  | c :: rest => if c = wanted then some rest else none
  | [] => none

namespace Date

/-- Read a date that exists. -/
def read (input : List Char) : Option (Date × List Char) := do
  let (year, rest) ← readFixed 4 0 input
  let rest ← expect '-' rest
  let (month, rest) ← readFixed 2 0 rest
  let rest ← expect '-' rest
  let (day, rest) ← readFixed 2 0 rest
  if 1 ≤ month && month ≤ 12 && 1 ≤ day && day ≤ daysOfMonth year month then
    return (⟨year, month, day⟩, rest)
  else none

def render (d : Date) : String :=
  s!"{Decimal.padded 4 d.year}-{Decimal.padded 2 d.month}-{Decimal.padded 2 d.day}"

end Date

namespace Time

/-- The nanoseconds that the digits of a fraction mean. Digits behind the ninth are dropped. -/
def nanoseconds (digits : List Char) : Nat :=
  let kept := digits.take 9
  ((Decimal.read? kept).getD 0) * Nat.pow 10 (9 - kept.length)

/-- Read the digits of a fraction of a second, if there is one. -/
def readFraction : List Char → Option (Nat × List Char)
  | '.' :: rest =>
    match rest.takeWhile Decimal.isDigit with
    | [] => none
    | digits => some (nanoseconds digits, rest.dropWhile Decimal.isDigit)
  | input => some (0, input)

/-- Read a time of day. A minute may have a leap second. -/
def read (input : List Char) : Option (Time × List Char) := do
  let (hour, rest) ← readFixed 2 0 input
  let rest ← expect ':' rest
  let (minute, rest) ← readFixed 2 0 rest
  let (second, nanosecond, rest) ←
    match rest with
    | ':' :: rest => do
      let (second, rest) ← readFixed 2 0 rest
      let (nanosecond, rest) ← readFraction rest
      pure (second, nanosecond, rest)
    | rest => pure (0, 0, rest)
  if hour ≤ 23 && minute ≤ 59 && second ≤ 60 then return (⟨hour, minute, second, nanosecond⟩, rest)
  else none

/-- The fraction of a second with no more digits than needed. -/
def renderFraction (nanosecond : Nat) : String :=
  if nanosecond = 0 then ""
  else
    let digits := (Decimal.padded 9 nanosecond).toList.reverse.dropWhile (· == '0')
    "." ++ String.ofList digits.reverse

def render (t : Time) : String :=
  s!"{Decimal.padded 2 t.hour}:{Decimal.padded 2 t.minute}:{Decimal.padded 2 t.second}" ++
    renderFraction t.nanosecond

end Time

namespace Offset

def read : List Char → Option (Option Offset × List Char)
  | [] => some (none, [])
  | 'Z' :: rest | 'z' :: rest => some (some .universal, rest)
  | c :: rest =>
    if c = '+' || c = '-' then do
      let (hour, rest) ← readFixed 2 0 rest
      let rest ← expect ':' rest
      let (minute, rest) ← readFixed 2 0 rest
      let total : Int := hour * 60 + minute
      if hour ≤ 23 && minute ≤ 59 then
        return (some (.minutes (if c = '-' then -total else total)), rest)
      else none
    else some (none, c :: rest)

def render : Offset → String
  | .universal => "Z"
  | .minutes m =>
    let sign := if m < 0 then "-" else "+"
    s!"{sign}{Decimal.padded 2 (m.natAbs / 60)}:{Decimal.padded 2 (m.natAbs % 60)}"

end Offset

namespace Datetime

/-- Whether a character may stand between a date and a time. -/
def isSeparator (c : Char) : Bool :=
  c == 'T' || c == 't' || c == ' '

/-- Read the time and the offset that may follow a date. -/
def readAfterDate (date : Date) : List Char → Option Datetime
  | [] => some { date := some date }
  | c :: rest =>
    if isSeparator c then do
      let (time, rest) ← Time.read rest
      let (offset, rest) ← Offset.read rest
      if rest.isEmpty then return { date := some date, time := some time, offset } else none
    else none

/-- Read a whole text as a date, a time or both. -/
def read? (input : List Char) : Option Datetime :=
  match Date.read input with
  | some (date, rest) => readAfterDate date rest
  | none =>
    match Time.read input with
    | some (time, []) => some { time := some time }
    | _ => none

def render (d : Datetime) : String :=
  let date := (d.date.map Date.render).getD ""
  let time := (d.time.map Time.render).getD ""
  let separator := if d.date.isSome && d.time.isSome then "T" else ""
  date ++ separator ++ time ++ (d.offset.map Offset.render).getD ""

end Datetime

end RadioLifecycle.Toml
