import SlideDeck.Number.Power

/-!
# Binary64 by exact arithmetic

A finite binary64 number is `m · 2 ^ q` with natural `m < 2 ^ 53` and `-1074 ≤ q ≤ 971`. `roundRatio`
finds the binary64 number nearest to a ratio of natural numbers, a tie going to the even neighbour,
by exact integer division, and `magnitude` reads `m` and `q` back from the bits.
-/

namespace SlideDeck.Number

/-- The bits of positive infinity. -/
def infinityBits : Nat := 0x7FF0000000000000

/-- The quotient rounded to the nearest natural number, a tie to the even one. -/
def divideEven (num den : Nat) : Nat :=
  let quotient := num / den
  let twice := 2 * (num % den)
  if twice < den ∨ (twice = den ∧ quotient % 2 = 0) then quotient else quotient + 1

/-- The ratio scaled by `2 ^ (-exponent)` and rounded to a natural number. -/
def scaled (num den : Nat) (exponent : Int) : Nat :=
  divideEven (num * 2 ^ (-exponent).toNat) (den * 2 ^ exponent.toNat)

/-- The exponent of the last place of the binary64 numbers around the ratio: the quotient by that
power of two has 53 binary digits, unless the ratio is subnormal. -/
def lastPlace (num den : Nat) : Int :=
  let estimate := max (-1074) ((num.log2 : Int) - den.log2 - 53)
  let quotient := (num * 2 ^ (-estimate).toNat) / (den * 2 ^ estimate.toNat)
  if quotient < 2 ^ 53 then estimate else estimate + 1

/-- The bits of the binary64 number nearest to `num / den`, a tie going to the even neighbour and a
number too large for binary64 to infinity. -/
def roundRatio (num den : Nat) : Nat :=
  if num = 0 then 0
  else
    let exponent := lastPlace num den
    let significand := scaled num den exponent
    let bits :=
      if significand < 2 ^ 52 then significand
      else (exponent + 1074).toNat * 2 ^ 52 + significand
    min bits infinityBits

/-- The number with the given sign and the given bits of its absolute value. -/
def ofMagnitude (negative : Bool) (bits : Nat) : Float :=
  Float.ofBits (UInt64.ofNat (if negative then 2 ^ 63 + bits else bits))

/-- Whether the sign bit is set. -/
def isNegative (x : Float) : Bool := 2 ^ 63 ≤ x.toBits.toNat

/-- The bits of the absolute value. -/
def magnitudeBits (x : Float) : Nat := x.toBits.toNat % 2 ^ 63

/-- The natural number `m` and the exponent `q` for which the bits stand for `m · 2 ^ q`. -/
def magnitude (bits : Nat) : Nat × Int :=
  let biased : Nat := bits / 2 ^ 52
  let fraction : Nat := bits % 2 ^ 52
  if biased = 0 then (fraction, -1074) else (2 ^ 52 + fraction, (biased : Int) - 1075)

/-- The binary64 number nearest to a natural number. -/
def ofNat (n : Nat) : Float := ofMagnitude false (roundRatio n 1)

/-- The binary64 number nearest to an integer. -/
def ofInt (n : Int) : Float := ofMagnitude (n < 0) (roundRatio n.natAbs 1)

/-- The binary64 number nearest to `significand · 10 ^ exponent`. A power of ten far outside the
range of binary64 is decided by the count of digits alone. -/
def ofDecimal (negative : Bool) (significand : Nat) (exponent : Int) : Float :=
  let digits : Int := (Nat.toDigits 10 significand).length
  ofMagnitude negative <|
    if significand = 0 ∨ digits + exponent < -400 then 0
    else if 400 < digits + exponent then infinityBits
    else roundRatio (significand * 10 ^ exponent.toNat) (10 ^ (-exponent).toNat)

end SlideDeck.Number
