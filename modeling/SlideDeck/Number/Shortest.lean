import SlideDeck.Number.Binary64

/-!
# The shortest decimal that reads back

Of the decimals that round to a binary64 number, `shortest` takes one with the fewest digits, and of
those the one nearest to the number. How its digits are laid out is up to whoever prints it.
-/

namespace SlideDeck.Number

/-- A decimal `digits · 10 ^ exponent`. -/
structure Decimal where
  digits : Nat
  exponent : Int
deriving Repr, DecidableEq

/-- The bits of the binary64 number nearest to a decimal. -/
def Decimal.round (d : Decimal) : Nat :=
  roundRatio (d.digits * 10 ^ d.exponent.toNat) (10 ^ (-d.exponent).toNat)

/-- The neighbours of `num / den` among the multiples of `10 ^ exponent`, with twice the remainder
of the lower one against the divisor to tell which is nearer. -/
def neighbours (num den : Nat) (exponent : Int) : Decimal × Decimal × Ordering :=
  let n := num * 10 ^ (-exponent).toNat
  let d := den * 10 ^ exponent.toNat
  let quotient := n / d
  (⟨quotient, exponent⟩, ⟨quotient + 1, exponent⟩, compare (2 * (n % d)) d)

/-- A neighbour of `num / den` on the grid of multiples of `10 ^ exponent` that rounds to `bits`, the
nearer one if both do, and the even one of two that are equally near. -/
def onGrid? (bits num den : Nat) (exponent : Int) : Option Decimal :=
  let (lower, upper, nearer) := neighbours num den exponent
  match lower.round == bits, upper.round == bits with
  | true, true =>
    match nearer with
    | .lt => some lower
    | .gt => some upper
    | .eq => some (if lower.digits % 2 = 0 then lower else upper)
  | true, false => some lower
  | false, true => some upper
  | false, false => none

/-- The count of digits of the whole part of `num / den`, or minus the count of zeros that follow
its point. -/
def decimalPlaces (num den : Nat) : Int :=
  let estimate : Int := ((num.log2 : Int) - den.log2) * 30103 / 100000
  let reaches (places : Int) : Bool := den * 10 ^ places.toNat ≤ num * 10 ^ (-places).toNat
  if reaches (estimate + 1) then estimate + 2
  else if reaches estimate then estimate + 1
  else if reaches (estimate - 1) then estimate
  else estimate - 1

/-- The decimal without zeros at the end of its digits. -/
def Decimal.stripZeros (d : Decimal) : Decimal :=
  if d.digits ≠ 0 ∧ d.digits % 10 = 0 then stripZeros ⟨d.digits / 10, d.exponent + 1⟩ else d
termination_by d.digits
decreasing_by omega

/-- A decimal of the fewest digits that rounds to the finite number with these bits. Seventeen
digits always suffice. -/
def shortest (bits : Nat) : Decimal :=
  let (m, q) := magnitude bits
  if m = 0 then ⟨0, 0⟩
  else
    let num := m * 2 ^ q.toNat
    let den := 2 ^ (-q).toNat
    let places := decimalPlaces num den
    let found := (List.range 17).findSome? fun n : Nat => onGrid? bits num den (places - (n + 1))
    (found.getD ⟨0, 0⟩).stripZeros

end SlideDeck.Number
