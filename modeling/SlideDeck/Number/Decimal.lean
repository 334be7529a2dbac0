import SlideDeck.Number.Binary64
import SlideDeck.Text.DecimalDigit

/-!
# Reading numbers

Digits are read as natural numbers, and the decimal notation of a binary64 number, with an optional
sign, fraction and exponent or one of the words for infinity and not-a-number, as the number nearest
to the decimal value.
-/

namespace SlideDeck.Number

/-- The value of ASCII digits, or nothing if some character is no digit or there is none. -/
def natural? (digits : List Char) : Option Nat :=
  if digits.isEmpty then none
  else digits.foldl (fun value c => do
    let value ← value
    let digit ← Text.asciiDigit? c
    pure (10 * value + digit)) (some 0)

/-- A sign and what follows it; no sign counts as plus. -/
def takeSign : List Char → Bool × List Char
  | '+' :: rest => (false, rest)
  | '-' :: rest => (true, rest)
  | text => (false, text)

/-- An unsigned number below `2 ^ 32`, which may have a plus sign. -/
def unsigned32? (text : List Char) : Option UInt32 := do
  let digits := match text with
    | '+' :: rest => rest
    | _ => text
  let value ← natural? digits
  if value < 2 ^ 32 then some (UInt32.ofNat value) else none

/-- A number from `-2 ^ 63` to `2 ^ 63 - 1`, which may have a sign. -/
def signed64? (text : List Char) : Option Int := do
  let (negative, digits) := takeSign text
  let value ← natural? digits
  if negative then
    if value ≤ 2 ^ 63 then some (-(value : Int)) else none
  else if value < 2 ^ 63 then some value else none

/-- The exponent after the mark `e` or `E`; no mark counts as zero. -/
def exponent? : List Char → Option Int
  | [] => some 0
  | mark :: rest =>
    if mark = 'e' ∨ mark = 'E' then do
      let (negative, digits) := takeSign rest
      let value ← natural? digits
      pure (if negative then -(value : Int) else value)
    else none

/-- An unsigned decimal number: digits with an optional point among them or at an end, and an
optional exponent. At least one digit stands before the exponent. -/
def decimal? (negative : Bool) (text : List Char) : Option Float := do
  let whole := text.takeWhile Char.isDigit
  let rest := text.dropWhile Char.isDigit
  let (fraction, rest) := match rest with
    | '.' :: rest => (rest.takeWhile Char.isDigit, rest.dropWhile Char.isDigit)
    | _ => ([], rest)
  let significand ← natural? (whole ++ fraction)
  let exponent ← exponent? rest
  pure (ofDecimal negative significand (exponent - fraction.length))

/-- A binary64 number in decimal notation, or `inf`, `infinity` or `nan` in any case. -/
def float? (text : List Char) : Option Float :=
  let (negative, rest) := takeSign text
  let word := String.ofList (rest.map Char.toLower)
  if word = "inf" ∨ word = "infinity" then some (ofMagnitude negative infinityBits)
  else if word = "nan" then some (ofMagnitude negative (infinityBits + 2 ^ 51))
  else decimal? negative rest

end SlideDeck.Number
