import SlideDeck.Number.Decimal

/-!
# Reading back printed numbers

A natural number is printed as ASCII digits, of which there is at least one. Reading them gives the
number back, so that no two numbers are printed alike.
-/

namespace SlideDeck.Number

/-- A natural number is written with digits alone. -/
theorem isDigit_of_mem_toString {n : Nat} {c : Char} (h : c ∈ (toString n).toList) :
    c.isDigit = true := by
  rw [Nat.toString_eq_repr, Nat.toList_repr] at h
  exact Nat.isDigit_of_mem_toDigits (by decide) (by decide) h

/-- Different numbers are written differently. -/
theorem toString_injective {m n : Nat} (h : toString m = toString n) : m = n := by
  have hdigits : Nat.toDigits 10 m = Nat.toDigits 10 n := by
    simpa only [Nat.toString_eq_repr, Nat.toList_repr] using congrArg String.toList h
  rw [← Nat.ofDigitChars_ten_toDigits (n := m), hdigits, Nat.ofDigitChars_ten_toDigits]

/-- Reading digits is a fold without failure. -/
theorem foldl_asciiDigit {digits : List Char} (h : ∀ c ∈ digits, c.isDigit = true) (value : Nat) :
    digits.foldl (fun value c => do
      let value ← value
      let digit ← Text.asciiDigit? c
      pure (10 * value + digit)) (some value) = some (Nat.ofDigitChars 10 digits value) := by
  induction digits generalizing value with
  | nil => simp
  | cons c digits ih =>
    have hc : Text.asciiDigit? c = some (c.toNat - '0'.toNat) := if_pos (h c List.mem_cons_self)
    rw [List.foldl_cons, Nat.ofDigitChars_cons]
    simp only [hc, Option.bind_eq_bind, Option.bind_some, Option.pure_def]
    exact ih (fun d hd => h d (List.mem_cons_of_mem c hd)) _

/-- A number is read as what was written. -/
theorem natural?_toString (n : Nat) : natural? (toString n).toList = some n := by
  rw [natural?, if_neg (by simp),
    foldl_asciiDigit (fun c hc => isDigit_of_mem_toString hc), Nat.toString_eq_repr,
    Nat.toList_repr, Nat.ofDigitChars_ten_toDigits]

/-- A number that fits into 32 bits is read back from its digits. -/
theorem unsigned32?_toString {n : Nat} (h : n < 2 ^ 32) :
    unsigned32? (toString n).toList = some (UInt32.ofNat n) := by
  have hdigits : ∀ rest, (toString n).toList ≠ '+' :: rest := by
    intro rest heq
    have hplus := isDigit_of_mem_toString (n := n) (c := '+') (heq ▸ List.mem_cons_self)
    exact absurd hplus (by decide)
  unfold unsigned32?
  split
  · next rest heq => exact absurd heq (hdigits rest)
  · simp only [natural?_toString, Option.bind_eq_bind, Option.bind_some, if_pos h]

end SlideDeck.Number
