/-!
Floating-point numbers of 64 bits, kept as their bit patterns. A decimal numeral denotes the
nearest of them, and of two equally near ones the one whose last bit is zero; a numeral too large
for any finite one denotes none.
-/

namespace RadioLifecycle

/-- A floating-point number as its 64 bits: sign, eleven exponent bits, fifty-two fraction bits. -/
structure Binary64 where
  bits : UInt64
  deriving DecidableEq, Repr

namespace Binary64

/-- The pattern of positive infinity; every finite magnitude lies below it. -/
def infinityBits : Nat := 0x7FF0000000000000

/-- The infinity above all numbers. -/
def infinity : Binary64 := ⟨UInt64.ofNat infinityBits⟩

/-- The one pattern used for results that are not a number. -/
def notANumber : Binary64 := ⟨0x7FF8000000000000⟩

/-- A number with its sign bit set or cleared. -/
def withSign (x : Binary64) (negative : Bool) : Binary64 :=
  if negative then ⟨x.bits ||| 0x8000000000000000⟩ else x

def isNotANumber (x : Binary64) : Bool :=
  decide (infinityBits < (x.bits &&& 0x7FFFFFFFFFFFFFFF).toNat)

/-- The quotient rounded to the nearest integer, a half to the even neighbour. -/
def roundQuotient (numerator denominator : Nat) : Nat :=
  let quotient := numerator / denominator
  let rest := numerator % denominator
  if 2 * rest < denominator then quotient
  else if denominator < 2 * rest then quotient + 1
  else quotient + quotient % 2

/-- The binary exponent at which a positive quotient has fifty-three integer bits, or the least
exponent of a 64-bit number if that is greater. The estimate from the bit lengths is one too large
at most. -/
def scale (numerator denominator : Nat) : Int :=
  let estimate : Int := (Nat.log2 numerator : Int) - (Nat.log2 denominator : Int) - 52
  let fits : Bool :=
    if 0 ≤ estimate then decide (denominator * Nat.pow 2 (52 + estimate.toNat) ≤ numerator)
    else decide (denominator * Nat.pow 2 52 ≤ numerator * Nat.pow 2 (-estimate).toNat)
  max (-1074) (if fits then estimate else estimate - 1)

/-- The magnitude bits nearest to a positive quotient. Exponent and fraction are laid out so that
a fraction which rounds up to the next power of two carries into the exponent. -/
def nearest (numerator denominator : Nat) : Nat :=
  let k := scale numerator denominator
  let fraction :=
    if 0 ≤ k then roundQuotient numerator (denominator * Nat.pow 2 k.toNat)
    else roundQuotient (numerator * Nat.pow 2 (-k).toNat) denominator
  (k + 1074).toNat * Nat.pow 2 52 + fraction

/-- The number nearest to `mantissa · 10 ^ exponent`, or none where that is beyond every finite
number. Exponents far outside the range are settled by the count of digits alone. -/
def ofDecimal? (mantissa : Nat) (exponent : Int) : Option Binary64 :=
  if mantissa = 0 then some ⟨0⟩
  else
    let magnitude : Int := (Nat.toDigits 10 mantissa).length + exponent
    if 310 < magnitude then none
    else if magnitude < -330 then some ⟨0⟩
    else
      let bits :=
        if 0 ≤ exponent then nearest (mantissa * Nat.pow 10 exponent.toNat) 1
        else nearest mantissa (Nat.pow 10 (-exponent).toNat)
      if bits < infinityBits then some ⟨UInt64.ofNat bits⟩ else none

end Binary64

end RadioLifecycle
