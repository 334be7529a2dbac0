import Mathlib.Data.List.Basic
import SlideDeck.Picture.Format

/-!
# Lowercase words

Besides the capital letters of ASCII, only the Kelvin sign has a letter of ASCII as its lowercase. A text
has an ASCII word without the letter k as its lowercase if it is that word in some mixture of ASCII cases, and
only then (`lowercase_eq_iff`). This is so for the extensions of all image formats.
-/

namespace SlideDeck.Text

/-- Whether a character is the letter k or not of ASCII at all. -/
def isOutside (c : Char) : Bool := 0x80 ≤ c.toNat || c = 'k'

/-- Whether a word has no such character can be computed. -/
theorem isOutside_eq_false_of_all {word : List Char} (h : word.all (fun c => !isOutside c) = true) :
    ∀ c ∈ word, isOutside c = false :=
  fun c hc => by simpa using List.all_eq_true.1 h c hc

/-- A code point that is no surrogate is the number of its character. -/
theorem toNat_ofNat {n : Nat} (h : n < 0xD800 ∨ 0xDFFF < n ∧ n < 0x110000) : (Char.ofNat n).toNat = n := by
  rw [Char.ofNat, dif_pos h]
  rfl

/-! ## Single characters -/

/-- The first capital letters are those of ASCII. All others but the Kelvin sign have their lowercase beyond
ASCII, within the range of characters. -/
theorem capitalRuns_cases : ∀ run ∈ capitalRuns, run.2.1 < 0x80 ∨ run = (0x212A, 0x212A, 1, -8383) ∨
    0x80 ≤ run.1 + run.2.2.2 ∧ (run.2.1 + run.2.2.2 < 0xD800 ∨
      0xDFFF < run.1 + run.2.2.2 ∧ run.2.1 + run.2.2.2 < 0x110000) := by
  decide +kernel

/-- In ASCII the two ways to lowercase a character agree. -/
theorem lowercaseChar_ofNat : ∀ n < 0x80, lowercaseChar (Char.ofNat n) = (Char.ofNat n).toLower := by
  decide +kernel

/-- So they do on every character below 128. -/
theorem lowercaseChar_of_lt {c : Char} (h : c.toNat < 0x80) : lowercaseChar c = c.toLower := by
  have hchar := lowercaseChar_ofNat c.toNat h
  rwa [Char.ofNat_toNat] at hchar

/-- Above that, one of them changes nothing. -/
theorem toLower_of_le {c : Char} (h : 0x80 ≤ c.toNat) : c.toLower = c := by
  unfold Char.toLower
  split
  · next hcapital =>
    have hlast : c.toNat ≤ 'Z'.toNat := hcapital.2
    have hvalue : 'Z'.toNat = 90 := rfl
    omega
  · rfl

/-- The lowercase of a character outside ASCII is k or outside ASCII as well. -/
theorem isOutside_lowercaseChar {c : Char} (h : 0x80 ≤ c.toNat) : isOutside (lowercaseChar c) = true := by
  rw [lowercaseChar]
  split
  · next first last step shift hfind =>
    have hrange := List.find?_some hfind
    simp only [Bool.and_eq_true, decide_eq_true_eq] at hrange
    obtain ⟨⟨hfirst, hlast⟩, -⟩ := hrange
    rcases capitalRuns_cases _ (List.mem_of_find?_eq_some hfind) with hascii | hkelvin | ⟨hlow, hvalid⟩
    · exact absurd h (by simp only at hascii; omega)
    · -- the Kelvin sign is the only character of its run
      simp only [Prod.mk.injEq] at hkelvin
      obtain ⟨rfl, rfl, -, rfl⟩ := hkelvin
      have hsign : c.toNat = 0x212A := by omega
      rw [hsign]
      decide
    · simp only at hlow hvalid
      rw [isOutside, toNat_ofNat (by omega), Bool.or_eq_true, decide_eq_true_eq]
      omega
  · rw [isOutside, Bool.or_eq_true, decide_eq_true_eq]
    exact .inl h

/-! ## Words -/

/-- In its place in a text, a character goes to its small letter of ASCII, or both go beyond such words. -/
theorem lowercaseAt_cases (before : List Char) (c : Char) (after : List Char) :
    lowercaseAt before c after = [c.toLower] ∨
      isOutside c.toLower = true ∧ ∃ d ∈ lowercaseAt before c after, isOutside d = true := by
  rcases Nat.lt_or_ge c.toNat 0x80 with hascii | hbeyond
  · have hsigma : c ≠ 'Σ' := by
      rintro rfl
      exact absurd hascii (by decide)
    have hdotted : c ≠ 'İ' := by
      rintro rfl
      exact absurd hascii (by decide)
    exact .inl (by rw [lowercaseAt, if_neg hsigma, if_neg hdotted, lowercaseChar_of_lt hascii])
  · refine .inr ⟨by rw [toLower_of_le hbeyond, isOutside, decide_eq_true hbeyond, Bool.true_or], ?_⟩
    rw [lowercaseAt]
    split
    · split <;> exact ⟨_, List.mem_singleton_self _, by decide⟩
    · split
      · exact ⟨Char.ofNat 0x307, List.mem_cons_of_mem _ (List.mem_singleton_self _), by decide⟩
      · exact ⟨_, List.mem_singleton_self _, isOutside_lowercaseChar hbeyond⟩

/-- Behind any text, the lowercase is the word just when it is so letter by letter in ASCII. -/
theorem lowercaseFrom_eq_iff {word : List Char} (h : ∀ c ∈ word, isOutside c = false)
    (before text : List Char) : lowercaseFrom before text = word ↔ text.map Char.toLower = word := by
  induction text generalizing before word with
  | nil => rfl
  | cons c text ih =>
    rw [lowercaseFrom, List.map_cons]
    rcases lowercaseAt_cases before c text with hsmall | ⟨hsmall, d, hd, houtside⟩
    · rw [hsmall, List.singleton_append]
      match word, h with
      | [], _ => exact iff_of_false (List.cons_ne_nil _ _) (List.cons_ne_nil _ _)
      | first :: word, h =>
        rw [List.cons.injEq, List.cons.injEq, ih fun other hother => h other (List.mem_cons_of_mem first hother)]
    · refine iff_of_false ?_ ?_ <;> rintro rfl
      · exact absurd (h d (List.mem_append_left _ hd)) (by rw [houtside]; decide)
      · exact absurd (h _ List.mem_cons_self) (by rw [hsmall]; decide)

/-- A text has the word for its lowercase just when it has it letter by letter in ASCII. -/
theorem lowercase_eq_iff {word : List Char} (h : ∀ c ∈ word, isOutside c = false) (text : List Char) :
    lowercase text = word ↔ text.map Char.toLower = word := lowercaseFrom_eq_iff h [] text

end SlideDeck.Text

namespace SlideDeck.Picture.Format

/-- The extensions of images are in ASCII and have no k. -/
theorem isOutside_extension (format : Format) :
    ∀ c ∈ format.extension.toList, Text.isOutside c = false :=
  Text.isOutside_eq_false_of_all (by cases format <;> decide)

/-- They are in lowercase. -/
theorem map_toLower_extension (format : Format) :
    format.extension.toList.map Char.toLower = format.extension.toList := by
  cases format <;> decide

/-- The extension of vector images is that of no other format. -/
theorem ofExtension?_eq_svg_iff {extension : List Char} :
    ofExtension? extension = some .svg ↔ extension.map Char.toLower = "svg".toList := by
  have hword : ∀ word, ofLowercase? word = some .svg ↔ word = "svg".toList := by
    refine fun word => ⟨fun h => ?_, ?_⟩
    · by_contra hother
      rw [ofLowercase?, if_neg hother] at h
      split_ifs at h <;> cases h
    · rintro rfl
      rfl
  rw [ofExtension?, hword]
  exact Text.lowercase_eq_iff (isOutside_extension .svg) extension

/-- No two formats have the same extension. -/
theorem extension_injective {a b : Format} (h : a.extension = b.extension) : a = b := by
  have hsame := congrArg (fun extension => ofLowercase? extension.toList) h
  simpa [ofLowercase?_extension] using hsame

end SlideDeck.Picture.Format
