import Mathlib.Algebra.Order.Field.Rat
import Mathlib.Algebra.Order.Round
import Mathlib.Data.Rat.Floor
import Mathlib.Tactic.Linarith
import SlideDeck.Number.Scalar

/-!
# Computing without rounding

Over the rational numbers the operations of a `Scalar` are those of an ordered field: the lesser of two
numbers is their minimum, and the least of a list is its minimum. Numbers that are not negative are rounded
to the nearest integer as `round` does it.
-/

namespace SlideDeck.Number

/-! ## The least and the greatest number -/

namespace Scalar

/-- Without anything that is no number, the lesser of two is their minimum. -/
theorem lesser_eq_min (x y : Rat) : lesser x y = min x y := by
  rw [lesser, min_def]
  simp only [below, decide_eq_true_eq, ← not_le]
  by_cases h : x ≤ y
  · rw [if_neg (not_not_intro h), if_pos h]
  · rw [if_pos h, if_neg h]

/-- The greater of two is their maximum. -/
theorem greater_eq_max (x y : Rat) : greater x y = max x y := by
  rw [greater, max_def]
  simp only [below, decide_eq_true_eq]
  rcases lt_trichotomy x y with h | rfl | h
  · rw [if_pos h, if_pos h.le]
  · rw [if_neg (lt_irrefl x), if_pos le_rfl]
  · rw [if_neg (not_lt_of_gt h), if_neg (not_le_of_gt h)]

/-- Every rational is a number. -/
theorem filter_isNumber (values : List Rat) : values.filter isNumber = values :=
  List.filter_eq_self.2 fun _ _ => rfl

/-- The least of values is their minimum. -/
theorem least?_eq_min? (values : List Rat) : least? values = values.min? := by
  rw [least?, filter_isNumber, funext₂ lesser_eq_min]
  cases values <;> rfl

/-- The greatest of values is their maximum. -/
theorem greatest?_eq_max? (values : List Rat) : greatest? values = values.max? := by
  rw [greatest?, filter_isNumber, funext₂ greater_eq_max]
  cases values <;> rfl

end Scalar

/-! ## The nearest integer -/

/-- Halves are rounded up as long as nothing is negative. -/
theorem round_of_nonneg {x : Rat} (h : 0 ≤ x) : Scalar.round x = round x := by
  rw [round_eq]
  exact if_neg (not_lt_of_ge h)

/-- What is not negative is not rounded to something that is. -/
theorem round_nonneg {x : Rat} (h : 0 ≤ x) : 0 ≤ Scalar.round x := by
  rw [round_of_nonneg h, round_eq, Int.floor_nonneg]
  linarith

/-- Rounding does not pass an integer. -/
theorem round_le {x : Rat} {n : Int} (h : 0 ≤ x) (hn : x ≤ n) : Scalar.round x ≤ n := by
  rw [round_of_nonneg h, round_eq, ← Int.lt_add_one_iff, Int.floor_lt]
  push_cast
  linarith

/-- An integer is rounded to itself. -/
theorem round_int {n : Int} (h : 0 ≤ n) : Scalar.round (n : Rat) = n := by
  rw [round_of_nonneg (Int.cast_nonneg h), round_intCast]

end SlideDeck.Number
