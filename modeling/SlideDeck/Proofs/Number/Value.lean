import Mathlib
import SlideDeck.Proofs.Number.Exact

/-!
# The values of binary64 numbers

A finite binary64 number stands for a rational number (`value?`), and the bits of its absolute value are
read as the significand and the exponent of that (`unpack_eq`). So `roundAway` rounds the value itself, without
any rounding before (`roundAway_of_finite`).
-/

namespace SlideDeck.Number

open Float.Model (UnpackedFloat)
open Float.Model.UnpackedFloat (Sign)

/-- The number that a finite binary64 number stands for. -/
def value? (x : Float) : Option Rat :=
  match x.toModel.unpack with
  | .finite sign significand exponent _ => some (sign.apply significand * (2 : Rat) ^ exponent)
  | .zero _ => some 0
  | .infinity _ | .notANumber => none

/-- A float has a value if it is finite. -/
theorem isSome_value? (x : Float) : (value? x).isSome = x.isFinite := by
  show (value? x).isSome = x.toModel.unpack.isFinite
  rw [value?]
  cases x.toModel.unpack <;> rfl

/-- The sign as the sign bit gives it. -/
def signOf (x : Float) : Sign := if isNegative x then .negative else .positive

/-- The exponent is what is above the lowest 52 bits. -/
theorem toNat_unpackExponent (x : Float) :
    (@Float.Model.UnpackedFloat.unpackExponent .binary64 x.toModel.toBits.toBitVec).toNat
      = magnitudeBits x / 2 ^ 52 := by
  rw [Float.Model.UnpackedFloat.unpackExponent, BitVec.toNat_cast, BitVec.extractLsb_toNat,
    magnitudeBits, Nat.shiftRight_eq_div_pow]
  show x.toBits.toNat / 2 ^ 52 % 2 ^ 11 = x.toBits.toNat % 2 ^ 63 / 2 ^ 52
  omega

/-- The mantissa is what the lowest 52 bits hold. -/
theorem toNat_unpackMantissa (x : Float) :
    (@Float.Model.UnpackedFloat.unpackMantissa .binary64 x.toModel.toBits.toBitVec).toNat
      = magnitudeBits x % 2 ^ 52 := by
  rw [Float.Model.UnpackedFloat.unpackMantissa, BitVec.toNat_cast, BitVec.extractLsb_toNat,
    magnitudeBits, Nat.shiftRight_eq_div_pow]
  show x.toBits.toNat / 2 ^ 0 % 2 ^ 52 = x.toBits.toNat % 2 ^ 63 % 2 ^ 52
  omega

/-- The sign is the highest bit. -/
theorem ofBitVec_unpackSign (x : Float) :
    Sign.ofBitVec (@Float.Model.UnpackedFloat.unpackSign .binary64 x.toModel.toBits.toBitVec)
      = signOf x := by
  have hlt : x.toBits.toNat < 2 ^ 64 := x.toBits.toNat_lt
  have hbit : (@Float.Model.UnpackedFloat.unpackSign .binary64
      x.toModel.toBits.toBitVec).toNat = x.toBits.toNat / 2 ^ 63 := by
    rw [Float.Model.UnpackedFloat.unpackSign, BitVec.toNat_cast, BitVec.extractLsb_toNat,
      Nat.shiftRight_eq_div_pow]
    show x.toBits.toNat / 2 ^ 63 % 2 ^ 1 = x.toBits.toNat / 2 ^ 63
    omega
  rw [Sign.ofBitVec, signOf, isNegative]
  by_cases hneg : 2 ^ 63 ≤ x.toBits.toNat
  · rw [if_neg, if_pos (decide_eq_true hneg)]
    intro hzero
    rw [hzero] at hbit
    have : (0#1).toNat = 0 := rfl
    omega
  · rw [if_pos, if_neg (by simpa using hneg)]
    refine BitVec.eq_of_toNat_eq ?_
    rw [hbit]
    show _ = 0
    omega

/-- An unpacked float is decided by its fields, whatever the proof that it has a mantissa. -/
theorem finite_congr {sign : Sign} {m n : Nat} {p q : Int} (hm : 0 < m) (hn : 0 < n) (h : m = n)
    (h' : p = q) : UnpackedFloat.finite sign m p hm = .finite sign n q hn := by
  subst h h'
  rfl

/-- What the bits of a number stand for. -/
theorem unpack_eq (x : Float) : x.toModel.unpack =
    if magnitudeBits x / 2 ^ 52 = 2047 then
      if magnitudeBits x % 2 ^ 52 = 0 then .infinity (signOf x) else .notANumber
    else if h : 0 < (magnitude (magnitudeBits x)).1 then
      .finite (signOf x) (magnitude (magnitudeBits x)).1 (magnitude (magnitudeBits x)).2 h
    else .zero (signOf x) := by
  have hexponent := toNat_unpackExponent x
  have hmantissa := toNat_unpackMantissa x
  rw [Float.Model.unpack, UnpackedFloat.unpack]
  simp only [ofBitVec_unpackSign, ← BitVec.toNat_inj, hexponent, hmantissa]
  show (if magnitudeBits x / 2 ^ 52 = 2047 then _ else if magnitudeBits x / 2 ^ 52 = 0 then _ else _) = _
  by_cases hall : magnitudeBits x / 2 ^ 52 = 2047
  · rw [if_pos hall, if_pos hall]
    rfl
  rw [if_neg hall, if_neg hall]
  by_cases hnone : magnitudeBits x / 2 ^ 52 = 0
  · have hmagnitude : magnitude (magnitudeBits x) = (magnitudeBits x % 2 ^ 52, -1074) := by
      rw [magnitude]
      exact if_pos hnone
    rw [if_pos hnone]
    simp only [hmagnitude]
    by_cases hempty : magnitudeBits x % 2 ^ 52 = 0
    · rw [dif_pos (by rw [hempty]; rfl), dif_neg (by omega)]
    · rw [dif_neg (by simpa using hempty), dif_pos (by omega)]
      exact finite_congr _ _ rfl (by rw [hnone]; rfl)
  · have hmagnitude : magnitude (magnitudeBits x)
        = (2 ^ 52 + magnitudeBits x % 2 ^ 52, ((magnitudeBits x / 2 ^ 52 : Nat) : Int) - 1075) := by
      rw [magnitude]
      exact if_neg hnone
    rw [if_neg hnone]
    simp only [hmagnitude]
    rw [dif_pos (by omega)]
    refine finite_congr _ _ ?_ rfl
    rw [BitVec.toNat_append, hmantissa]
    exact (Nat.two_pow_add_eq_or_of_lt (Nat.mod_lt _ (Nat.two_pow_pos 52)) 1).symm

/-- The numbers above zero are the positive ones and positive infinity. -/
theorem pos_iff {x : Float} : 0 < x ↔
    x.toModel.unpack = .infinity .positive ∨ ∃ m q h, x.toModel.unpack = .finite .positive m q h := by
  have hzero : (0 : Float).toModel.unpack = .zero .positive := rfl
  have hlt : 0 < x ↔ (UnpackedFloat.zero .positive).lt x.toModel.unpack = true := by
    rw [← hzero]
    exact decide_eq_true_iff
  rw [hlt]
  cases x.toModel.unpack with
  | notANumber => simp [UnpackedFloat.lt, UnpackedFloat.compare]
  | infinity sign => cases sign <;> simp [UnpackedFloat.lt, UnpackedFloat.compare]
  | zero sign => simp [UnpackedFloat.lt, UnpackedFloat.compare]
  | finite sign m q h => cases sign <;> simp [UnpackedFloat.lt, UnpackedFloat.compare, h]

/-! ## Rounding -/

/-- Rounding a scaled integer is rounding the rational number that it stands for. -/
theorem roundScaled_eq_round (m : Nat) (q : Int) :
    (roundScaled m q : Int) = round ((m : Rat) * (2 : Rat) ^ q) := by
  rw [roundScaled]
  by_cases hq : 0 ≤ q
  · -- the number is an integer
    obtain ⟨k, rfl⟩ := Int.eq_ofNat_of_zero_le hq
    rw [if_pos hq, Int.toNat_natCast, zpow_natCast]
    have hcast : (m : Rat) * 2 ^ k = ((m * 2 ^ k : Nat) : Rat) := by push_cast; rfl
    rw [hcast, round_natCast]
  · obtain ⟨k, rfl⟩ : ∃ k : Nat, q = -k := ⟨q.natAbs, by omega⟩
    rw [if_neg hq, neg_neg, Int.toNat_natCast, round_eq, zpow_neg, zpow_natCast]
    have hsum : (m : Rat) * (2 ^ k)⁻¹ + 1 / 2 = ((2 * m + 2 ^ k : Nat) : Rat) / ((2 * 2 ^ k : Nat) : Rat) := by
      push_cast
      field_simp
    rw [hsum, Rat.floor_natCast_div_natCast]
    rfl

/-- Scaling up makes nothing smaller. -/
theorem le_roundScaled (m : Nat) {q : Int} (h : 0 ≤ q) : m ≤ roundScaled m q := by
  rw [roundScaled, if_pos h]
  exact Nat.le_mul_of_pos_right m (Nat.two_pow_pos _)

/-- What is neither negative nor not-a-number is rounded by its significand and exponent. -/
theorem roundAway_of_nonneg {x : Float} (hnan : x.isNaN = false) (hsign : signOf x = .positive) :
    roundAway x = roundScaled (magnitude (magnitudeBits x)).1 (magnitude (magnitudeBits x)).2 := by
  have hpositive : isNegative x = false := by
    by_contra hneg
    rw [signOf, if_pos (Bool.not_eq_false _ ▸ hneg)] at hsign
    cases hsign
  rw [roundAway, hnan]
  simp only [hpositive, Bool.false_eq_true, ite_false]

/-- A positive number is rounded to the integer nearest to its value, a tie going up. -/
theorem roundAway_of_finite {x : Float} {m : Nat} {q : Int} {h : 0 < m}
    (hunpack : x.toModel.unpack = .finite .positive m q h) :
    roundAway x = round ((m : Rat) * (2 : Rat) ^ q) := by
  have hnan : x.isNaN = false := by
    show x.toModel.unpack.isNaN = false
    rw [hunpack]
    rfl
  rw [unpack_eq] at hunpack
  split at hunpack
  · split at hunpack <;> cases hunpack
  split at hunpack
  · obtain ⟨hsign, rfl, rfl⟩ := UnpackedFloat.finite.inj hunpack
    rw [roundAway_of_nonneg hnan hsign, roundScaled_eq_round]
  · cases hunpack

/-- Positive infinity is rounded to an integer of more than 52 bits. -/
theorem le_roundAway_of_infinity {x : Float} (hunpack : x.toModel.unpack = .infinity .positive) :
    2 ^ 52 ≤ roundAway x := by
  have hnan : x.isNaN = false := by
    show x.toModel.unpack.isNaN = false
    rw [hunpack]
    rfl
  rw [unpack_eq] at hunpack
  split at hunpack
  · next hall =>
    split at hunpack
    · next hempty =>
      have hmagnitude : magnitude (magnitudeBits x) = (2 ^ 52, 972) := by
        rw [magnitude, if_neg (by omega), hall, hempty]
        rfl
      rw [roundAway_of_nonneg hnan (UnpackedFloat.infinity.inj hunpack), hmagnitude]
      exact Int.ofNat_le.2 (le_roundScaled (2 ^ 52) (by decide))
    · cases hunpack
  · split at hunpack <;> cases hunpack

end SlideDeck.Number
