import SlideDeck.Number.Binary64

/-!
# Scalars

Sizes and ranges are computed in binary64. The definitions ask only for a `Scalar`, so that the same
definitions over the rational numbers say what the computation means without rounding.
-/

namespace SlideDeck.Number

/-! ## Rounding to integers -/

/-- The integer nearest to `m · 2 ^ q`, a tie going away from zero. -/
def roundScaled (m : Nat) (q : Int) : Nat :=
  if 0 ≤ q then m * 2 ^ q.toNat
  else (2 * m + 2 ^ (-q).toNat) / (2 * 2 ^ (-q).toNat)

/-- The integer nearest to a number, a tie going away from zero. Not-a-number counts as zero, and an
infinity as a number beyond all finite ones. -/
def roundAway (x : Float) : Int :=
  if x.isNaN then 0
  else
    let (m, q) := magnitude (magnitudeBits x)
    let rounded : Int := roundScaled m q
    if isNegative x then -rounded else rounded

/-- The greatest integer that is not above a number, with zero for not-a-number. -/
def floorInt (x : Float) : Int :=
  if x.isNaN then 0
  else
    let (m, q) := magnitude (magnitudeBits x)
    let value : Int := if isNegative x then -(m : Int) else m
    if 0 ≤ q then value * 2 ^ q.toNat else value / 2 ^ (-q).toNat

/-- The least integer that is not below a number, with zero for not-a-number. -/
def ceilInt (x : Float) : Int := -floorInt (-x)

/-- The number in an interval that is nearest to a number. -/
def clamp (low high : Int) (n : Int) : Int := max low (min high n)

/-! ## Scalars -/

/-- A type of numbers to compute with. -/
class Scalar (α : Type) extends Add α, Sub α, Mul α, Div α where
  ofInt : Int → α
  /-- Whether the first number is less than the second. -/
  below : α → α → Bool
  isNumber : α → Bool
  isFinite : α → Bool
  /-- The nearest integer, a tie going away from zero. -/
  round : α → Int

/-- Binary64 as the scalars of all computations. -/
instance : Scalar Float where
  ofInt := ofInt
  below x y := x < y
  isNumber x := !x.isNaN
  isFinite x := x.isFinite
  round := roundAway

/-- The rational numbers as scalars without rounding. -/
instance : Scalar Rat where
  ofInt n := n
  below x y := x < y
  isNumber _ := true
  isFinite _ := true
  round x := if x < 0 then -(-x + 1 / 2).floor else (x + 1 / 2).floor

namespace Scalar

variable {α : Type} [Scalar α]

/-- The lesser of two numbers. -/
def lesser (x y : α) : α := if below y x then y else x

/-- The greater of two numbers. -/
def greater (x y : α) : α := if below x y then y else x

/-- The least number of a list, passing over what is not a number. -/
def least? (values : List α) : Option α :=
  match values.filter isNumber with
  | [] => none
  | first :: rest => some (rest.foldl lesser first)

/-- The greatest number of a list, passing over what is not a number. -/
def greatest? (values : List α) : Option α :=
  match values.filter isNumber with
  | [] => none
  | first :: rest => some (rest.foldl greater first)

end Scalar

end SlideDeck.Number
