import SlideDeck.Number.Binary64
import SlideDeck.Number.Shortest

/-!
# Numbers without exponents

A binary64 number as text for a reader: the shortest decimal that reads back, with all its digits in
their places and no more of them than needed.
-/

namespace SlideDeck.Number

/-- A decimal with its digits in their places. -/
def Decimal.positional (d : Decimal) : List Char :=
  let digits := Nat.toDigits 10 d.digits
  if 0 ≤ d.exponent then digits ++ List.replicate d.exponent.toNat '0'
  else
    let places := d.exponent.natAbs
    let padded := List.replicate (places + 1 - digits.length) '0' ++ digits
    padded.take (padded.length - places) ++ '.' :: padded.drop (padded.length - places)

/-- A number as text, positional and as short as possible. -/
def positional (x : Float) : List Char :=
  let sign : List Char := if isNegative x then ['-'] else []
  let bits := magnitudeBits x
  if infinityBits < bits then "NaN".toList
  else if bits = infinityBits then sign ++ "inf".toList
  else if bits = 0 then sign ++ ['0']
  else sign ++ (shortest bits).positional

end SlideDeck.Number
