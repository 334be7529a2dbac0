import Mathlib.Tactic.NormNum
import Mathlib.Tactic.Ring
import SlideDeck.Chart.Axis
import SlideDeck.Proofs.Number.Exact

/-!
# The range of an axis

Over the rational numbers, where nothing is rounded, the range of an axis is that of the data with a margin of
a twentieth of its span on each side. Values whose span is at most `negligible` are given a margin of one
instead, as are values that are all equal. `Range.ofValues_encloses_and_padded_iff` says which values these are, and what
holds of both margins: that the range is not empty and that all values lie strictly inside.
-/

namespace SlideDeck.Chart

open Number

/-- The least and the greatest of a list of values. -/
structure Bounds (values : List Rat) (low high : Rat) : Prop where
  low_mem : low ∈ values
  high_mem : high ∈ values
  between : ∀ value ∈ values, low ≤ value ∧ value ≤ high

/-- The least value is at most the greatest. -/
theorem Bounds.le {values : List Rat} {low high : Rat} (h : Bounds values low high) : low ≤ high :=
  (h.between high h.high_mem).1

/-- Values have only one least and one greatest. -/
theorem Bounds.unique {values : List Rat} {low high low' high' : Rat} (h : Bounds values low high)
    (h' : Bounds values low' high') : low = low' ∧ high = high' :=
  ⟨le_antisymm (h.between low' h'.low_mem).1 (h'.between low h.low_mem).1,
    le_antisymm (h'.between high h.high_mem).2 (h.between high' h'.high_mem).2⟩

/-- Values have bounds, and the range is drawn around these. -/
theorem Range.exists_bounds {values : List Rat} (h : values ≠ []) :
    ∃ low high, Bounds values low high ∧ Range.ofValues values = Range.around low high := by
  obtain ⟨low, hlow⟩ := Option.ne_none_iff_exists'.1 (mt List.min?_eq_none_iff.1 h)
  obtain ⟨high, hhigh⟩ := Option.ne_none_iff_exists'.1 (mt List.max?_eq_none_iff.1 h)
  obtain ⟨hlow_mem, hlow_le⟩ := List.min?_eq_some_iff.1 hlow
  obtain ⟨hhigh_mem, hhigh_le⟩ := List.max?_eq_some_iff.1 hhigh
  refine ⟨low, high, ⟨hlow_mem, hhigh_mem, fun value hvalue => ⟨hlow_le value hvalue, hhigh_le value hvalue⟩⟩, ?_⟩
  rw [ofValues, Scalar.least?_eq_min?, Scalar.greatest?_eq_max?, hlow, hhigh]
  rfl

/-- The range of values depends on the least and the greatest of them alone. -/
theorem Range.ofValues_eq_around {values : List Rat} {low high : Rat} (h : Bounds values low high) :
    Range.ofValues values = Range.around low high := by
  obtain ⟨low', high', h', hrange⟩ := exists_bounds (List.ne_nil_of_mem h.low_mem)
  obtain ⟨rfl, rfl⟩ := h.unique h'
  exact hrange

/-! ## Margins -/

/-- The span up to which values count as equal. -/
def negligible : Rat := 1 / 2 ^ 52

/-- The range with the margin that the span calls for: a twentieth of the span, or one if there is none. -/
def Range.padded (low high : Rat) : Range Rat :=
  if low < high then ⟨low - (high - low) / 20, high + (high - low) / 20⟩ else ⟨low - 1, high + 1⟩

/-- The range with a margin of one. -/
def Range.widened (low high : Rat) : Range Rat := ⟨low - 1, high + 1⟩

theorem negligible_pos : 0 < negligible := by norm_num [negligible]

theorem negligible_lt : negligible < 20 := by norm_num [negligible]

/-- The bound in the code is the distance from one to the next number of 64 bits. -/
theorem negligible_eq : (Scalar.ofInt 1 / Scalar.ofInt (2 ^ 52) : Rat) = negligible := by
  norm_num [Scalar.ofInt, negligible]

/-- A margin is a twentieth of the span on either side. -/
theorem Range.padded_of_lt {low high : Rat} (h : low < high) :
    Range.padded low high = ⟨low - (high - low) / 20, high + (high - low) / 20⟩ := if_pos h

/-- Values that are all equal get a margin of one. -/
theorem Range.padded_self (value : Rat) : Range.padded value value = Range.widened value value :=
  if_neg (lt_irrefl value)

/-- A span that is not negligible calls for a margin of its own. -/
theorem Range.around_of_lt {low high : Rat} (h : negligible < high - low) :
    Range.around low high = Range.padded low high := by
  have hbelow : Scalar.below negligible (high - low) = true := decide_eq_true h
  have hmargin : (high - low) * (Scalar.ofInt 1 / Scalar.ofInt 20) = (high - low) / 20 := by
    simp [Scalar.ofInt, div_eq_mul_inv]
  rw [padded_of_lt (by linarith [negligible_pos])]
  simp only [around, negligible_eq, hbelow, ite_true, hmargin]

/-- A negligible span gets a margin of one. -/
theorem Range.around_of_le {low high : Rat} (h : high - low ≤ negligible) :
    Range.around low high = Range.widened low high := by
  have hbelow : Scalar.below negligible (high - low) = false := decide_eq_false (not_lt_of_ge h)
  simp only [around, negligible_eq, hbelow, Bool.false_eq_true, ite_false]
  rfl

/-- Both margins leave something of the axis on either side of the bounds. -/
theorem Range.around_strictly (low high : Rat) :
    (Range.around low high).low < low ∧ high < (Range.around low high).high := by
  rcases lt_or_ge negligible (high - low) with hlt | hle
  · have hspan := negligible_pos.trans hlt
    rw [around_of_lt hlt, padded_of_lt (by linarith)]
    constructor <;> linarith
  · rw [around_of_le hle]
    constructor <;> simp [widened]

/-- The margin is the one that the span calls for, unless the span is negligible but not zero. -/
theorem Range.around_eq_padded_iff {low high : Rat} (h : low ≤ high) :
    Range.around low high = Range.padded low high ↔ low = high ∨ negligible < high - low := by
  constructor
  · intro heq
    by_contra hnot
    obtain ⟨hne, hle⟩ := not_or.1 hnot
    rw [around_of_le (not_lt.1 hle), padded_of_lt (lt_of_le_of_ne h hne)] at heq
    -- a twentieth of a negligible span is not one
    have hmargin : low - 1 = low - (high - low) / 20 := congrArg Range.low heq
    linarith [negligible_lt, not_lt.1 hle]
  · rintro (rfl | hlt)
    · rw [around_of_le (by rw [sub_self]; exact negligible_pos.le), padded_self]
    · exact around_of_lt hlt

/-- The data takes ten elevenths of the axis exactly if its span is not negligible. -/
theorem Range.span_iff {low high : Rat} :
    high - low = 10 / 11 * ((Range.around low high).high - (Range.around low high).low) ↔
      negligible < high - low := by
  constructor
  · intro hspan
    by_contra hle
    rw [around_of_le (not_lt.1 hle)] at hspan
    simp only [widened] at hspan
    linarith [negligible_lt, not_lt.1 hle]
  · intro hlt
    rw [around_of_lt hlt, padded_of_lt (by linarith [negligible_pos])]
    ring

/-! ## The range of values -/

/-- Values have a least and a greatest, and all of them lie strictly inside the range, which is not empty. The
margin is the one that the span calls for if the values are all equal or their span is more than `negligible`,
and the data takes ten elevenths of the axis only in the second case. In all others the margin is one. -/
theorem Range.ofValues_encloses_and_padded_iff {values : List Rat} (h : values ≠ []) :
    ∃ low high, Bounds values low high ∧
      (Range.ofValues values).low < (Range.ofValues values).high ∧
      (∀ value ∈ values, (Range.ofValues values).low < value ∧ value < (Range.ofValues values).high) ∧
      (Range.ofValues values = Range.padded low high ↔ low = high ∨ negligible < high - low) ∧
      (high - low ≤ negligible → Range.ofValues values = Range.widened low high) ∧
      (high - low = 10 / 11 * ((Range.ofValues values).high - (Range.ofValues values).low) ↔
        negligible < high - low) := by
  obtain ⟨low, high, hbounds, hrange⟩ := exists_bounds h
  obtain ⟨hlow, hhigh⟩ := around_strictly low high
  rw [hrange]
  refine ⟨low, high, hbounds, hlow.trans_le (hbounds.le.trans hhigh.le), fun value hvalue => ?_,
    around_eq_padded_iff hbounds.le, around_of_le, span_iff⟩
  obtain ⟨hleast, hgreatest⟩ := hbounds.between value hvalue
  exact ⟨hlow.trans_le hleast, hgreatest.trans_lt hhigh⟩

/-- Values whose span is just above what counts as negligible. -/
theorem Range.ofValues_padded_small : ([1 / 2 ^ 53, 1 / 2 ^ 51, 0] : List Rat) ≠ [] ∧
    Range.ofValues ([1 / 2 ^ 53, 1 / 2 ^ 51, 0] : List Rat) = Range.padded 0 (1 / 2 ^ 51) := by
  have hne : ([1 / 2 ^ 53, 1 / 2 ^ 51, 0] : List Rat) ≠ [] := List.cons_ne_nil _ _
  have hsmall : Bounds [1 / 2 ^ 53, 1 / 2 ^ 51, 0] 0 (1 / 2 ^ 51) := ⟨by simp, by simp, by norm_num⟩
  obtain ⟨low, high, hbounds, -, -, hpadded, -⟩ := Range.ofValues_encloses_and_padded_iff hne
  obtain ⟨rfl, rfl⟩ := hbounds.unique hsmall
  exact ⟨hne, hpadded.2 (.inr (by norm_num [negligible]))⟩

/-- Values that differ by less than that are drawn as if they were equal, in the middle of the axis. -/
theorem Range.not_padded_negligible : Bounds [0, 1 / 2 ^ 53] 0 (1 / 2 ^ 53) ∧
    Range.ofValues ([0, 1 / 2 ^ 53] : List Rat) = Range.widened 0 (1 / 2 ^ 53) ∧
    Range.ofValues ([0, 1 / 2 ^ 53] : List Rat) ≠ Range.padded 0 (1 / 2 ^ 53) := by
  have hbounds : Bounds [0, 1 / 2 ^ 53] 0 (1 / 2 ^ 53) := ⟨by simp, by simp, by norm_num⟩
  have hspan : (1 / 2 ^ 53 : Rat) - 0 ≤ negligible := by norm_num [negligible]
  refine ⟨hbounds, ?_, ?_⟩
  · rw [ofValues_eq_around hbounds, around_of_le hspan]
  · rw [ofValues_eq_around hbounds, Ne, around_eq_padded_iff hbounds.le]
    exact not_or_intro (by norm_num) (not_lt_of_ge hspan)

end SlideDeck.Chart
