/-!
UTF-8 as the vendor boundary needs it. Text is encoded character by character, and any byte list
can be read back: a byte list splits into pieces, each of which is one well-formed character or one
maximal run of bytes that begins a character and never completes it.
-/

namespace RadioLifecycle.Utf8

/-- The bytes of a text, character after character. -/
def encode (text : List Char) : List UInt8 :=
  text.flatMap String.utf8EncodeChar

structure Range where
  low : UInt8
  high : UInt8
  deriving DecidableEq, Repr

def Range.holds (r : Range) (b : UInt8) : Bool :=
  r.low ≤ b && b ≤ r.high

/-- The range of every trailing byte that no narrower rule covers. -/
def Range.trailing : Range := ⟨0x80, 0xBF⟩

/-- What a first byte above 0x7F announces: the bits it contributes itself and the range of each
byte that has to follow. The narrowed second ranges exclude overlong forms, surrogates and values
above 0x10FFFF. A byte that can begin no character announces nothing. -/
def announce (b : UInt8) : Option (Nat × List Range) :=
  let n := b.toNat
  if 0xC2 ≤ n ∧ n ≤ 0xDF then some (n - 0xC0, [.trailing])
  else if n = 0xE0 then some (0, [⟨0xA0, 0xBF⟩, .trailing])
  else if n = 0xED then some (0xD, [⟨0x80, 0x9F⟩, .trailing])
  else if 0xE1 ≤ n ∧ n ≤ 0xEF then some (n - 0xE0, [.trailing, .trailing])
  else if n = 0xF0 then some (0, [⟨0x90, 0xBF⟩, .trailing, .trailing])
  else if 0xF1 ≤ n ∧ n ≤ 0xF3 then some (n - 0xF0, [.trailing, .trailing, .trailing])
  else if n = 0xF4 then some (4, [⟨0x80, 0x8F⟩, .trailing, .trailing])
  else none

/-- Read the announced trailing bytes, six bits each. The result is the completed value, or nothing
when a byte falls outside its range; what is left then begins with that byte. -/
def complete (value : Nat) : List Range → List UInt8 → Option Nat × List UInt8
  | [], bytes => (some value, bytes)
  | _ :: _, [] => (none, [])
  | r :: ranges, b :: bytes =>
    if r.holds b then complete (value * 64 + b.toNat % 64) ranges bytes else (none, b :: bytes)

theorem complete_length_le (value : Nat) (ranges : List Range) (bytes : List UInt8) :
    (complete value ranges bytes).2.length ≤ bytes.length := by
  induction ranges generalizing value bytes with
  | nil => simp [complete]
  | cons r ranges ih =>
      cases bytes with
      | nil => simp [complete]
      | cons b bytes =>
          simp only [complete]
          split
          · exact Nat.le_trans (ih _ _) (by simp)
          · simp

/-- The first piece of a byte list that begins with `b`, and what follows it. -/
def piece (b : UInt8) (bytes : List UInt8) : Option Char × List UInt8 :=
  if b.toNat < 0x80 then (some (Char.ofNat b.toNat), bytes)
  else
    match announce b with
    | none => (none, bytes)
    | some (value, ranges) =>
      let (result, rest) := complete value ranges bytes
      (result.map Char.ofNat, rest)

theorem piece_length_le (b : UInt8) (bytes : List UInt8) :
    (piece b bytes).2.length ≤ bytes.length := by
  unfold piece
  split
  · simp
  · split
    · simp
    · exact complete_length_le _ _ _

/-- All pieces of a byte list in order; an ill-formed piece has no character. -/
def pieces : List UInt8 → List (Option Char)
  | [] => []
  | b :: bytes => (piece b bytes).1 :: pieces (piece b bytes).2
  termination_by bytes => bytes.length
  decreasing_by
    have := piece_length_le b bytes
    simp only [List.length_cons]
    omega

/-- The character that stands for an ill-formed piece. -/
def replacement : Char := '\uFFFD'

/-- Read any byte list as text, with one replacement character for each ill-formed piece. -/
def decodeLossy (bytes : List UInt8) : List Char :=
  (pieces bytes).map (·.getD replacement)

/-- Read a byte list that is well-formed throughout, and refuse any other. -/
def decode? (bytes : List UInt8) : Option (List Char) :=
  (pieces bytes).mapM id

end RadioLifecycle.Utf8
