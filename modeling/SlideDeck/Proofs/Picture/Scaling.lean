import Mathlib.Tactic.FieldSimp
import Mathlib.Tactic.Positivity
import SlideDeck.Proofs.Number.Exact
import SlideDeck.Proofs.Presentation.Addition

/-!
# Scaled pictures

A picture of known size is scaled down by one factor, at most one, and each side is then rounded. Over the
rational numbers, where only this last step rounds, the result fits the area and the picture (`fits_fit`),
and its sides are in proportion up to that rounding. The same holds of the stand-in of a vector image
(`isStandIn_standInSize`). `fits_isStandIn_isInside` puts both together, with the place of a picture on a slide.
-/

namespace SlideDeck

namespace Picture

open Number

/-! ## Lengths in whole units -/

section Lengths

variable {length : Rat} {n : Int}

/-- Cutting off a fraction of a unit keeps a length within whole units. -/
theorem wholeUnits_le (h : 0 ≤ length) (hn : length ≤ n) : wholeUnits length ≤ n := by
  have hround := round_le h hn
  have hnonneg := round_nonneg h
  rw [wholeUnits, clamp]
  omega

/-- It makes no length negative. -/
theorem wholeUnits_nonneg (h : 0 ≤ length) : 0 ≤ wholeUnits length := by
  have hnonneg := round_nonneg h
  rw [wholeUnits, clamp]
  omega

/-- A length that a word holds is rounded to the nearest integer. -/
theorem wholeUnits_eq_round (h : 0 ≤ length) (hn : length ≤ n) (hword : n < 2 ^ 63) :
    wholeUnits length = round length := by
  have hround := round_le h hn
  have hnonneg := round_nonneg h
  rw [← round_of_nonneg h, wholeUnits, clamp]
  omega

end Lengths

/-! ## The factor -/

/-- The factor that scales one size down to another as far as needed. -/
def factor (own area : Extent) : Rat := min (min (area.cx / own.cx) (area.cy / own.cy)) 1

/-- Whether a size lies within another one. -/
def Extent.Within (size area : Extent) : Prop := size.cx ≤ area.cx ∧ size.cy ≤ area.cy

/-- Whether a size has an area. -/
def Extent.IsPositive (size : Extent) : Prop := 0 < size.cx ∧ 0 < size.cy

section Factor

variable {own area : Extent}

theorem factor_le_one : factor own area ≤ 1 := min_le_right _ _

/-- A picture is not turned around. -/
theorem factor_nonneg (hown : own.IsPositive) (harea : area.IsPositive) : 0 ≤ factor own area :=
  le_min (le_min (div_nonneg (Int.cast_nonneg harea.1.le) (Int.cast_nonneg hown.1.le))
    (div_nonneg (Int.cast_nonneg harea.2.le) (Int.cast_nonneg hown.2.le))) zero_le_one

/-- A scaled picture is as wide as its area at most. -/
theorem cx_mul_factor_le (hown : own.IsPositive) : own.cx * factor own area ≤ area.cx := by
  have hpos : (0 : Rat) < own.cx := Int.cast_pos.2 hown.1
  calc (own.cx : Rat) * factor own area ≤ own.cx * (area.cx / own.cx) :=
        mul_le_mul_of_nonneg_left ((min_le_left _ _).trans (min_le_left _ _)) hpos.le
    _ = area.cx := mul_div_cancel₀ _ hpos.ne'

/-- It is as high as its area at most. -/
theorem cy_mul_factor_le (hown : own.IsPositive) : own.cy * factor own area ≤ area.cy := by
  have hpos : (0 : Rat) < own.cy := Int.cast_pos.2 hown.2
  calc (own.cy : Rat) * factor own area ≤ own.cy * (area.cy / own.cy) :=
        mul_le_mul_of_nonneg_left ((min_le_left _ _).trans (min_le_right _ _)) hpos.le
    _ = area.cy := mul_div_cancel₀ _ hpos.ne'

/-- Nothing is scaled that lies within the area as it is. -/
theorem factor_eq_one (hown : own.IsPositive) (h : own.Within area) : factor own area = 1 := by
  have hcx : (1 : Rat) ≤ area.cx / own.cx :=
    (one_le_div₀ (Int.cast_pos.2 hown.1)).2 (Int.cast_le.2 h.1)
  have hcy : (1 : Rat) ≤ area.cy / own.cy :=
    (one_le_div₀ (Int.cast_pos.2 hown.2)).2 (Int.cast_le.2 h.2)
  exact min_eq_right (le_min hcx hcy)

/-- All else is scaled so that one of its sides is that of the area. -/
theorem mul_factor_eq_or (hown : own.IsPositive) (h : ¬ own.Within area) :
    own.cx * factor own area = area.cx ∨ own.cy * factor own area = area.cy := by
  have hcx : (own.cx : Rat) ≠ 0 := Int.cast_ne_zero.2 hown.1.ne'
  have hcy : (own.cy : Rat) ≠ 0 := Int.cast_ne_zero.2 hown.2.ne'
  -- one of the two ratios is below one, so that the factor is the lesser of the ratios
  have hfactor : factor own area = min ((area.cx : Rat) / own.cx) (area.cy / own.cy) := by
    refine min_eq_left ?_
    rcases not_and_or.1 h with hx | hy
    · exact (min_le_left _ _).trans
        ((div_le_one₀ (Int.cast_pos.2 hown.1)).2 (Int.cast_le.2 (not_le.1 hx).le))
    · exact (min_le_right _ _).trans
        ((div_le_one₀ (Int.cast_pos.2 hown.2)).2 (Int.cast_le.2 (not_le.1 hy).le))
  rw [hfactor]
  rcases min_choice ((area.cx : Rat) / own.cx) (area.cy / own.cy) with hmin | hmin <;> rw [hmin]
  · exact .inl (mul_div_cancel₀ _ hcx)
  · exact .inr (mul_div_cancel₀ _ hcy)

end Factor

/-! ## Pictures of known size -/

/-- The own size of a picture. -/
def Pixels.extent (p : Pixels) : Extent := ⟨p.width * unitsPerPixel, p.height * unitsPerPixel⟩

/-- A size to which a picture is scaled for an area. -/
structure Fits (p : Pixels) (area size : Extent) : Prop where
  nonneg : 0 ≤ size.cx ∧ 0 ≤ size.cy
  within_area : size.Within area
  within_own : size.Within p.extent
  eq_own : p.extent.Within area → size = p.extent
  fills : ¬ p.extent.Within area → size.cx = area.cx ∨ size.cy = area.cy
  /-- Both sides are off by half a unit at most. -/
  in_proportion : 2 * |size.cx * p.height - size.cy * p.width| ≤ p.width + p.height

/-- A picture of known size is scaled by one factor in both directions. -/
theorem fit_of_known {pixels : Option Pixels} {p : Pixels} (h : known pixels = some p) (area : Extent) :
    fit Rat pixels area = ⟨wholeUnits (p.extent.cx * factor p.extent area),
      wholeUnits (p.extent.cy * factor p.extent area)⟩ := by
  rw [fit, h]
  simp only [Scalar.lesser_eq_min]
  rfl

/-- A size without an empty side is known. -/
theorem known_eq_some {p : Pixels} (hwidth : 0 < p.width) (hheight : 0 < p.height) :
    known (some p) = some p := by
  simp [known, hwidth, hheight]

/-- A size with an empty side counts as not known. -/
theorem known_eq_none {pixels : Option Pixels} (h : ∀ p ∈ pixels, p.width = 0 ∨ p.height = 0) :
    known pixels = none := by
  rw [known, Option.filter_eq_none_iff]
  intro p hp
  rcases h p hp with hzero | hzero <;> simp [hzero]

/-- Two products of which each is off by half of the other's factor. -/
theorem abs_sub_le {a b x y : Rat} {w h : Nat} (ha : |x - a| ≤ 1 / 2) (hb : |y - b| ≤ 1 / 2)
    (hxy : x * h = y * w) : 2 * |a * h - b * w| ≤ w + h := by
  have hsplit : a * h - b * w = (y - b) * w - (x - a) * h := by
    rw [sub_mul, sub_mul, hxy]
    ring
  have hw : |(y - b) * w| ≤ 1 / 2 * w := by
    rw [abs_mul, Nat.abs_cast]
    exact mul_le_mul_of_nonneg_right hb (Nat.cast_nonneg w)
  have hh : |(x - a) * h| ≤ 1 / 2 * h := by
    rw [abs_mul, Nat.abs_cast]
    exact mul_le_mul_of_nonneg_right ha (Nat.cast_nonneg h)
  rw [hsplit]
  linarith [abs_sub ((y - b) * w) ((x - a) * h)]

/-- A picture of some pixels has a size on the slide. -/
theorem Pixels.isPositive_extent {p : Pixels} (hwidth : 0 < p.width) (hheight : 0 < p.height) :
    p.extent.IsPositive := by
  simp only [extent, Extent.IsPositive, unitsPerPixel]
  omega

/-- Sizes of 32 bits in pixels are sizes of 64 bits in whole units. -/
theorem Pixels.extent_lt {p : Pixels} (h : p.width < 2 ^ 32 ∧ p.height < 2 ^ 32) :
    p.extent.cx < 2 ^ 63 ∧ p.extent.cy < 2 ^ 63 := by
  simp only [extent, unitsPerPixel]
  omega

/-- A scaled picture fits its area as it should. -/
theorem fits_fit {p : Pixels} {area : Extent} (hwidth : 0 < p.width) (hheight : 0 < p.height)
    (hword : p.width < 2 ^ 32 ∧ p.height < 2 ^ 32) (harea : area.IsPositive) :
    Fits p area (fit Rat (some p) area) := by
  have hown := p.isPositive_extent hwidth hheight
  set s := factor p.extent area with hs
  have hnonneg : 0 ≤ s := factor_nonneg hown harea
  have hcx : (0 : Rat) ≤ p.extent.cx * s := mul_nonneg (Int.cast_nonneg hown.1.le) hnonneg
  have hcy : (0 : Rat) ≤ p.extent.cy * s := mul_nonneg (Int.cast_nonneg hown.2.le) hnonneg
  have hcxown : p.extent.cx * s ≤ p.extent.cx :=
    mul_le_of_le_one_right (Int.cast_nonneg hown.1.le) factor_le_one
  have hcyown : p.extent.cy * s ≤ p.extent.cy :=
    mul_le_of_le_one_right (Int.cast_nonneg hown.2.le) factor_le_one
  -- the words do not cut anything off
  have hcxround := wholeUnits_eq_round hcx hcxown (Pixels.extent_lt hword).1
  have hcyround := wholeUnits_eq_round hcy hcyown (Pixels.extent_lt hword).2
  rw [fit_of_known (known_eq_some hwidth hheight), ← hs]
  constructor
  case nonneg => exact ⟨wholeUnits_nonneg hcx, wholeUnits_nonneg hcy⟩
  case within_area =>
    exact ⟨wholeUnits_le hcx (cx_mul_factor_le hown), wholeUnits_le hcy (cy_mul_factor_le hown)⟩
  case within_own => exact ⟨wholeUnits_le hcx hcxown, wholeUnits_le hcy hcyown⟩
  case eq_own =>
    intro hwithin
    rw [hcxround, hcyround, hs, factor_eq_one hown hwithin, mul_one, mul_one, round_intCast, round_intCast]
  case fills =>
    intro hbeyond
    refine (mul_factor_eq_or hown hbeyond).imp (fun heq => ?_) fun heq => ?_
    · rw [hcxround, heq, round_intCast]
    · rw [hcyround, heq, round_intCast]
  case in_proportion =>
    have hsides : p.extent.cx * s * p.height = p.extent.cy * s * p.width := by
      simp only [Pixels.extent]
      push_cast
      ring
    have hbound := abs_sub_le (abs_sub_round _) (abs_sub_round _) hsides
    rw [hcxround, hcyround]
    exact_mod_cast hbound

/-- A picture whose size is not known fills its area. -/
theorem fit_of_unknown {pixels : Option Pixels} (h : ∀ p ∈ pixels, p.width = 0 ∨ p.height = 0)
    (area : Extent) : fit Rat pixels area = area := by
  rw [fit, known_eq_none h]

/-! ## Stand-ins -/

/-- A side of the stand-in for a picture, by the longest side of the picture. -/
def standInSide (longest side : Nat) : Nat :=
  max 1 (Scalar.round (side * min ((maxStandIn : Rat) / longest) 1)).toNat

/-- Both sides of a stand-in come from the longer side of the picture. -/
theorem standInSize_some {p : Pixels} (hwidth : 0 < p.width) (hheight : 0 < p.height) :
    standInSize Rat (some p) = ⟨standInSide (max p.width p.height) p.width,
      standInSide (max p.width p.height) p.height⟩ := by
  rw [standInSize, known_eq_some hwidth hheight]
  simp only [Scalar.lesser_eq_min]
  rfl

/-- The longest side of a picture, scaled for its stand-in. -/
theorem mul_scale_eq {longest : Nat} (h : 0 < longest) :
    (longest : Rat) * min ((maxStandIn : Rat) / longest) 1 = (min maxStandIn longest : Nat) := by
  have hpos : (0 : Rat) < longest := Nat.cast_pos.2 h
  rw [mul_min_of_nonneg _ _ hpos.le, mul_div_cancel₀ _ hpos.ne', mul_one, Nat.cast_min]

/-- The longer side of a stand-in is that of the picture, up to the most that it may have. -/
theorem standInSide_self {longest : Nat} (h : 0 < longest) :
    standInSide longest longest = min maxStandIn longest := by
  have hround : Scalar.round ((min maxStandIn longest : Nat) : Rat) = (min maxStandIn longest : Nat) :=
    round_int (Int.natCast_nonneg _)
  rw [standInSide, mul_scale_eq h, hround, maxStandIn]
  omega

/-- No side of it is longer than that. -/
theorem standInSide_le {longest side : Nat} (h : 0 < longest) (hside : side ≤ longest) :
    standInSide longest side ≤ min maxStandIn longest := by
  have hscale : (0 : Rat) ≤ min ((maxStandIn : Rat) / longest) 1 := by positivity
  have hle : (side : Rat) * min ((maxStandIn : Rat) / longest) 1 ≤ ((min maxStandIn longest : Nat) : Int) := by
    rw [Int.cast_natCast, ← mul_scale_eq h]
    exact mul_le_mul_of_nonneg_right (Nat.cast_le.2 hside) hscale
  have hround := round_le (mul_nonneg (Nat.cast_nonneg side) hscale) hle
  rw [standInSide, maxStandIn] at *
  omega

/-- A small picture has a stand-in of its own size. -/
theorem standInSide_of_le {longest side : Nat} (h : 0 < side) (hside : side ≤ longest)
    (hlongest : longest ≤ maxStandIn) : standInSide longest side = side := by
  have hscale : min ((maxStandIn : Rat) / longest) 1 = 1 :=
    min_eq_right ((one_le_div₀ (Nat.cast_pos.2 (h.trans_le hside))).2 (Nat.cast_le.2 hlongest))
  have hround : Scalar.round ((side : Nat) : Rat) = side := round_int (Int.natCast_nonneg _)
  rw [standInSide, hscale, mul_one, hround]
  omega

/-- A size that a stand-in for a picture may have. -/
structure IsStandIn (p size : Pixels) : Prop where
  width_mem : 1 ≤ size.width ∧ size.width ≤ 64
  height_mem : 1 ≤ size.height ∧ size.height ≤ 64
  longer_eq : max size.width size.height = min 64 (max p.width p.height)
  eq_self : p.width ≤ 64 → p.height ≤ 64 → size = p

/-- The size of a stand-in is what it should be. -/
theorem isStandIn_standInSize {p : Pixels} (hwidth : 0 < p.width) (hheight : 0 < p.height) :
    IsStandIn p (standInSize Rat (some p)) := by
  have hlongest : 0 < max p.width p.height := hwidth.trans_le (le_max_left _ _)
  have hwide := standInSide_le hlongest (le_max_left p.width p.height)
  have hhigh := standInSide_le hlongest (le_max_right p.width p.height)
  rw [standInSize_some hwidth hheight]
  refine ⟨⟨le_max_left _ _, hwide.trans (min_le_left _ _)⟩,
    ⟨le_max_left _ _, hhigh.trans (min_le_left _ _)⟩, le_antisymm (max_le hwide hhigh) ?_, fun hw hh => ?_⟩
  · -- the longer side of the picture is that of the stand-in
    rcases max_choice p.width p.height with hmax | hmax
    · refine le_max_of_le_left ?_
      rw [hmax, standInSide_self hwidth]
      rfl
    · refine le_max_of_le_right ?_
      rw [hmax, standInSide_self hheight]
      rfl
  · rw [standInSide_of_le hwidth (le_max_left _ _) (max_le hw hh),
      standInSide_of_le hheight (le_max_right _ _) (max_le hw hh)]

/-- A picture whose size is not known has a single pixel as its stand-in. -/
theorem standInSize_of_unknown {pixels : Option Pixels} (h : ∀ p ∈ pixels, p.width = 0 ∨ p.height = 0) :
    standInSize Rat pixels = ⟨1, 1⟩ := by
  have hsome : standInSize Rat pixels = standInSize Rat (some ⟨1, 1⟩) := by
    rw [standInSize, standInSize, known_eq_none h]
    rfl
  rw [hsome]
  exact (isStandIn_standInSize Nat.one_pos Nat.one_pos).eq_self (by decide) (by decide)

end Picture

/-! ## Pictures on slides -/

/-- Whether a frame lies on a slide. -/
def Slide.Frame.IsInside (frame : Slide.Frame) (slide : Picture.Extent) : Prop :=
  (0 ≤ frame.x ∧ 0 ≤ frame.cx ∧ frame.x + frame.cx ≤ slide.cx) ∧
    (0 ≤ frame.y ∧ 0 ≤ frame.cy ∧ frame.y + frame.cy ≤ slide.cy)

namespace Deck

open Number Picture

/-- A length that is no shorter than what is taken off is shortened by it. -/
theorem shorten_of_le {length less : Int} (h : less ≤ length) : shorten length less = length - less :=
  if_neg (by omega)

/-- The area below the title lies on the slide, unless the slide is too small for it. -/
theorem isInside_contentFrame {deck : Deck} (hwidth : 2880000 ≤ deck.slideSize.cx)
    (hheight : 1800000 ≤ deck.slideSize.cy) : deck.contentFrame.IsInside deck.slideSize := by
  -- no difference of such lengths wraps around
  have hwide : shorten deck.slideSize.cx 2520000 = deck.slideSize.cx - 2520000 :=
    shorten_of_le (by omega)
  have hhigh : shorten (shorten deck.slideSize.cy 1080000) 360000 = deck.slideSize.cy - 1440000 := by
    rw [shorten_of_le (by omega : 1080000 ≤ deck.slideSize.cy), shorten_of_le (by omega)]
    omega
  simp only [Slide.Frame.IsInside, contentFrame, unitsPerCentimetre, Int.reduceMul, Int.reduceDiv, hwide,
    hhigh]
  omega

/-- The area below the title has a size on every slide. -/
theorem isPositive_contentFrame (deck : Deck) :
    (⟨deck.contentFrame.cx, deck.contentFrame.cy⟩ : Extent).IsPositive := by
  simp only [Extent.IsPositive, contentFrame, unitsPerCentimetre]
  omega

/-- A picture lies where its area does. -/
theorem isInside_pictureFrame {area : Slide.Frame} {slide : Extent} (hinside : area.IsInside slide)
    (hpositive : (⟨area.cx, area.cy⟩ : Extent).IsPositive) {pixels : Option Pixels}
    (hword : ∀ p ∈ pixels, p.width < 2 ^ 32 ∧ p.height < 2 ^ 32) :
    (pictureFrame Rat area pixels).IsInside slide := by
  by_cases hunknown : ∀ p ∈ pixels, p.width = 0 ∨ p.height = 0
  · have hsame : pictureFrame Rat area pixels = area := by
      rw [pictureFrame, fit_of_unknown hunknown]
    rw [hsame]
    exact hinside
  · obtain ⟨p, hp, hsides⟩ : ∃ p ∈ pixels, ¬ (p.width = 0 ∨ p.height = 0) := by simpa using hunknown
    obtain ⟨hwidth, hheight⟩ := not_or.1 hsides
    obtain rfl : pixels = some p := hp
    have hfits := fits_fit (Nat.pos_of_ne_zero hwidth) (Nat.pos_of_ne_zero hheight) (hword p rfl) hpositive
    obtain ⟨hcx, hcy⟩ := hfits.nonneg
    obtain ⟨hcxarea, hcyarea⟩ := hfits.within_area
    obtain ⟨⟨hx, -, hright⟩, hy, -, hbottom⟩ := hinside
    exact ⟨⟨hx, hcx, (Int.add_le_add_left hcxarea _).trans hright⟩,
      hy, hcy, (Int.add_le_add_left hcyarea _).trans hbottom⟩

end Deck

namespace Picture

/-- A picture of known size is scaled down as far as its area calls for, with its proportions kept up to
rounding, and so is its stand-in. One that is not known or has no area fills the area, with a single pixel as
its stand-in. On every slide with room for the margins the picture lies on the slide. -/
theorem fits_isStandIn_isInside {pixels : Option Pixels} (hword : ∀ p ∈ pixels, p.width < 2 ^ 32 ∧ p.height < 2 ^ 32) :
    (∀ p ∈ pixels, 0 < p.width → 0 < p.height →
      (∀ area : Extent, area.IsPositive → Fits p area (fit Rat pixels area)) ∧
      IsStandIn p (standInSize Rat pixels)) ∧
    ((∀ p ∈ pixels, p.width = 0 ∨ p.height = 0) →
      (∀ area : Extent, fit Rat pixels area = area) ∧ standInSize Rat pixels = ⟨1, 1⟩) ∧
    ∀ deck : Deck, 2880000 ≤ deck.slideSize.cx → 1800000 ≤ deck.slideSize.cy →
      (Deck.pictureFrame Rat deck.contentFrame pixels).IsInside deck.slideSize := by
  refine ⟨fun p hp hwidth hheight => ?_, fun hunknown => ⟨fit_of_unknown hunknown, standInSize_of_unknown hunknown⟩,
    fun deck hwide hhigh => ?_⟩
  · obtain rfl : pixels = some p := hp
    exact ⟨fun _ harea => fits_fit hwidth hheight (hword p rfl) harea, isStandIn_standInSize hwidth hheight⟩
  · exact Deck.isInside_pictureFrame (Deck.isInside_contentFrame hwide hhigh) deck.isPositive_contentFrame hword

/-- A picture that is much higher than wide. -/
theorem fits_isStandIn_high : (∀ p ∈ some (⟨3, 1000⟩ : Pixels), p.width < 2 ^ 32 ∧ p.height < 2 ^ 32) ∧
    Fits ⟨3, 1000⟩ ⟨360000, 360000⟩ ⟨1080, 360000⟩ ∧ IsStandIn ⟨3, 1000⟩ ⟨1, 64⟩ := by
  have hword : ∀ p ∈ some (⟨3, 1000⟩ : Pixels), p.width < 2 ^ 32 ∧ p.height < 2 ^ 32 := by
    rintro p hp
    obtain rfl : (⟨3, 1000⟩ : Pixels) = p := Option.some.inj hp
    decide
  have hfit : fit Rat (some ⟨3, 1000⟩) ⟨360000, 360000⟩ = ⟨1080, 360000⟩ := by decide +kernel
  have hstandIn : standInSize Rat (some ⟨3, 1000⟩) = ⟨1, 64⟩ := by decide +kernel
  obtain ⟨hknown, -, -⟩ := fits_isStandIn_isInside hword
  obtain ⟨hfits, hsmall⟩ := hknown ⟨3, 1000⟩ rfl (by decide) (by decide)
  rw [hstandIn] at hsmall
  refine ⟨hword, ?_, hsmall⟩
  rw [← hfit]
  exact hfits ⟨360000, 360000⟩ ⟨by decide, by decide⟩

end Picture

end SlideDeck
