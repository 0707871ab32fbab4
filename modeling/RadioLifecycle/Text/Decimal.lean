/-!
Natural numbers in decimal digits. Writing uses as many digits as the number needs, and reading
accepts exactly the lists made of decimal digits, so a written number reads back.
-/

namespace RadioLifecycle.Decimal

/-- The digit character of a value below ten. -/
def digit (n : Nat) : Char :=
  Char.ofNat ('0'.toNat + n)

def value? (c : Char) : Option Nat :=
  if '0' ≤ c ∧ c ≤ '9' then some (c.toNat - '0'.toNat) else none

def isDigit (c : Char) : Bool :=
  (value? c).isSome

/-- The digits of a number, most significant first. -/
def write (n : Nat) : List Char :=
  if n < 10 then [digit n] else write (n / 10) ++ [digit (n % 10)]

/-- Continue reading digits after the value read so far. -/
def readFrom (value : Nat) : List Char → Option Nat
  | [] => some value
  | c :: rest =>
    match value? c with
    | none => none
    | some d => readFrom (value * 10 + d) rest

/-- Read a non-empty list of decimal digits. -/
def read? : List Char → Option Nat
  | [] => none
  | c :: rest => readFrom 0 (c :: rest)

theorem value?_digit {n : Nat} (h : n < 10) : value? (digit n) = some n := by
  match n, h with
  | 0, _ | 1, _ | 2, _ | 3, _ | 4, _ | 5, _ | 6, _ | 7, _ | 8, _ | 9, _ => decide
  | _ + 10, h => exact absurd h (by omega)

theorem readFrom_append (value : Nat) (first second : List Char) :
    readFrom value (first ++ second) = (readFrom value first).bind (readFrom · second) := by
  induction first generalizing value with
  | nil => rfl
  | cons c rest ih =>
      simp only [List.cons_append, readFrom]
      cases value? c with
      | none => rfl
      | some d => exact ih _

theorem write_ne_nil (n : Nat) : write n ≠ [] := by
  unfold write
  split <;> simp

theorem readFrom_zero_write (n : Nat) : readFrom 0 (write n) = some n := by
  induction n using write.induct with
  | case1 n h => rw [write, if_pos h]; simp [readFrom, value?_digit h]
  | case2 n h ih =>
      have hDigit : n % 10 < 10 := Nat.mod_lt _ (by decide)
      rw [write, if_neg h, readFrom_append, ih]
      simp only [Option.bind_some, readFrom, value?_digit hDigit]
      congr 1
      omega

theorem read?_write (n : Nat) : read? (write n) = some n := by
  have hRead := readFrom_zero_write n
  cases hWrite : write n with
  | nil => exact absurd hWrite (write_ne_nil n)
  | cons c rest => rw [read?, ← hWrite, hRead]

/-- The lower-case hexadecimal digits of a number. -/
def hex (n : Nat) : String :=
  String.ofList (Nat.toDigits 16 n)

/-- The value of a hexadecimal digit of either case. -/
def hexValue? (c : Char) : Option Nat :=
  if '0' ≤ c ∧ c ≤ '9' then some (c.toNat - '0'.toNat)
  else if 'a' ≤ c ∧ c ≤ 'f' then some (c.toNat - 'a'.toNat + 10)
  else if 'A' ≤ c ∧ c ≤ 'F' then some (c.toNat - 'A'.toNat + 10)
  else none

/-- A number in decimal digits, padded with zeros on the left to a least width. -/
def padded (width n : Nat) : String :=
  let digits := write n
  String.ofList (List.replicate (width - digits.length) '0' ++ digits)

end RadioLifecycle.Decimal
