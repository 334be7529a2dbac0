import SlideDeck.Number.Scalar

/-!
# Axes

The range of an axis is that of the data, widened by a twentieth on each side, or by one if the data
hardly varies. `pixel` places a value on an axis that runs from one pixel to another.
-/

namespace SlideDeck.Chart

open Number (Scalar)

/-- The range of an axis. -/
structure Range (α : Type) where
  low : α
  high : α
deriving Repr

variable {α : Type} [Scalar α]

/-- The range of values that are known to lie between two numbers. -/
def Range.around (low high : α) : Range α :=
  let span := high - low
  let hardlyVaries : α := Scalar.ofInt 1 / Scalar.ofInt (2 ^ 52)
  if Scalar.below hardlyVaries span then
    let margin := span * (Scalar.ofInt 1 / Scalar.ofInt 20)
    ⟨low - margin, high + margin⟩
  else ⟨low - Scalar.ofInt 1, high + Scalar.ofInt 1⟩

/-- The range of an axis for values; from zero to one if they have no finite bounds. -/
def Range.ofValues (values : List α) : Range α :=
  match Scalar.least? values, Scalar.greatest? values with
  | some low, some high =>
    if Scalar.isFinite low && Scalar.isFinite high then .around low high
    else ⟨Scalar.ofInt 0, Scalar.ofInt 1⟩
  | _, _ => ⟨Scalar.ofInt 0, Scalar.ofInt 1⟩

/-- The pixel of a value before it is kept on the axis. Fractions are cut off toward the start of
the axis, with a thousandth of a pixel to spare. -/
def place (range : Range Float) (first last : Int) (value : Float) : Int :=
  if range.low == range.high then (last - first).tdiv 2
  else
    let part := (value - range.low) / (range.high - range.low)
    let length := last - first
    if length = 0 then last
    else if part.isInf then if 0 < part then last else first
    else if 0 < length then first + Number.floorInt (Number.ofInt length * part + 0.001)
    else first + Number.ceilInt (Number.ofInt length * part - 0.001)

/-- The pixel of a value on an axis whose lowest value lies at `first` and whose highest at `last`. -/
def pixel (range : Range Float) (first last : Int) (value : Float) : Int :=
  Number.clamp (min first last) (max first last) (place range first last value)

end SlideDeck.Chart
