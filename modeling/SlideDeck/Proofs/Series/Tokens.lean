import Mathlib.Data.List.Induction
import Mathlib.Data.List.TakeWhile
import Mathlib.Data.Nat.Digits.Defs
import SlideDeck.Proofs.Outcome
import SlideDeck.Series.Basic

/-!
# The numbers of a line are determined by the line

A line has one reading as numbers and gaps between them, if numbers are as long as they can be and begin
with a sign where one is written: a gap holds no digit, and nothing at its ends belongs to the number
there. `cut` finds this reading (`reads_iff`), so that every digit of a line is in one of its numbers. The
numbers have values if all of their digits are ASCII digits, and otherwise the first of them that has
another digit is reported (`reads_iff_and_values_iff`).

## Shape of the proof

* `takeToken?_eq_some_iff`: the number that is taken from the start of a text is the one that ends where
  it ends, so that a number is found again wherever a reading puts it.
* `Spaced.cut_chars_eq`: every reading is the one that is found, along the recursion of `cut`.
* `spaced_cut`: what is found is a reading, along the same recursion.
-/

namespace SlideDeck.Series

open Text (isDecimalDigit)

/-! ## Numbers -/

namespace Token

/-- Whether a token is written as a number is: an optional sign, digits, and an optional point with
further digits or none. -/
structure IsNumber (token : Token) : Prop where
  isSign_of_sign : ∀ c ∈ token.sign, isSign c = true
  whole_ne_nil : token.whole ≠ []
  isDecimalDigit_of_whole : ∀ c ∈ token.whole, isDecimalDigit c = true
  isDecimalDigit_of_fraction : ∀ digits ∈ token.fraction, ∀ c ∈ digits, isDecimalDigit c = true

/-- Whether a number cannot go on with the text behind it. -/
def EndsBefore (token : Token) (rest : List Char) : Prop :=
  ∀ c ∈ rest.head?, isDecimalDigit c = false ∧ (token.fraction = none → c ≠ '.')

end Token

/-- A sign is no digit. -/
theorem not_isDecimalDigit_of_isSign {c : Char} (h : isSign c = true) : isDecimalDigit c = false := by
  rw [isSign, Bool.or_eq_true, decide_eq_true_eq, decide_eq_true_eq] at h
  rcases h with rfl | rfl <;> decide

/-- Digits up to a character that is none. -/
theorem span_digits {digits rest : List Char} (hdigits : ∀ c ∈ digits, isDecimalDigit c = true)
    (hrest : ∀ c ∈ rest.head?, isDecimalDigit c = false) :
    (digits ++ rest).takeWhile isDecimalDigit = digits ∧
      (digits ++ rest).dropWhile isDecimalDigit = rest := by
  rw [List.takeWhile_append_of_pos hdigits, List.dropWhile_append_of_pos hdigits]
  cases rest with
  | nil => simp
  | cons c rest => simp [hrest c rfl]

/-- What is left behind a run of digits begins with none. -/
theorem not_isDecimalDigit_head?_dropWhile (text : List Char) :
    ∀ c ∈ (text.dropWhile isDecimalDigit).head?, isDecimalDigit c = false := by
  intro c hc
  have hhead := List.head?_dropWhile_not isDecimalDigit text
  rw [Option.mem_def.1 hc] at hhead
  exact hhead

/-- A number is taken as a whole from a text in which it cannot go on. -/
theorem takeUnsigned_append {token : Token} {rest : List Char} (h : token.IsNumber)
    (hrest : token.EndsBefore rest) :
    takeUnsigned token.sign
      (token.whole ++ ((token.fraction.map ('.' :: ·)).getD [] ++ rest)) = (token, rest) := by
  obtain ⟨sign, whole, fraction⟩ := token
  have hwhole := h.isDecimalDigit_of_whole
  cases fraction with
  | none =>
    obtain ⟨htake, hdrop⟩ := span_digits hwhole fun c hc => (hrest c hc).1
    have hpoint : ∀ after, rest ≠ '.' :: after := by
      rintro after rfl
      exact (hrest '.' rfl).2 rfl rfl
    rw [takeUnsigned, Option.map_none, Option.getD_none, List.nil_append, htake, hdrop]
    split
    · exact absurd rfl (hpoint _)
    · rfl
  | some digits =>
    have hdot : ∀ c ∈ ('.' :: (digits ++ rest)).head?, isDecimalDigit c = false := by
      intro c hc
      obtain rfl := Option.some.inj hc
      decide
    obtain ⟨htake, hdrop⟩ := span_digits hwhole hdot
    obtain ⟨htake', hdrop'⟩ := span_digits (h.isDecimalDigit_of_fraction digits rfl)
      fun c hc => (hrest c hc).1
    rw [takeUnsigned, Option.map_some, Option.getD_some, List.cons_append, htake, hdrop]
    simp only [htake', hdrop']

/-- What is taken is a number that cannot go on with the rest. -/
theorem isNumber_takeUnsigned (sign : Option Char) (text : List Char)
    (hsign : ∀ c ∈ sign, isSign c = true) (htext : ∃ c ∈ text.head?, isDecimalDigit c = true) :
    (takeUnsigned sign text).1.IsNumber ∧
      (takeUnsigned sign text).1.EndsBefore (takeUnsigned sign text).2 := by
  obtain ⟨c, hc, hdigit⟩ := htext
  obtain ⟨tail, rfl⟩ := List.head?_eq_some_iff.1 hc
  have hne : (c :: tail).takeWhile isDecimalDigit ≠ [] := by
    rw [List.takeWhile_cons_of_pos hdigit]
    exact List.cons_ne_nil _ _
  have hwhole : ∀ d ∈ (c :: tail).takeWhile isDecimalDigit, isDecimalDigit d = true :=
    fun d hd => List.mem_takeWhile_imp hd
  have hhead := not_isDecimalDigit_head?_dropWhile (c :: tail)
  rw [takeUnsigned]
  split
  · next rest hrest =>
    refine ⟨⟨hsign, hne, hwhole, ?_⟩, fun d hd => ⟨?_, fun hnone => absurd hnone (Option.some_ne_none _)⟩⟩
    · rintro digits hdigits d hd
      obtain rfl := Option.some.inj hdigits
      exact List.mem_takeWhile_imp hd
    · exact not_isDecimalDigit_head?_dropWhile rest d hd
  · next hpoint =>
    refine ⟨⟨hsign, hne, hwhole, fun _ hnone => absurd hnone (Option.not_mem_none _)⟩,
      fun d hd => ⟨hhead d hd, ?_⟩⟩
    rintro - rfl
    obtain ⟨after, hafter⟩ := List.head?_eq_some_iff.1 hd
    exact hpoint after hafter

/-- A token is written as its sign, its whole part and its fraction. -/
theorem chars_eq_append (token : Token) : token.chars
    = token.sign.toList ++ (token.whole ++ (token.fraction.map ('.' :: ·)).getD []) := by
  obtain ⟨sign, whole, fraction⟩ := token
  cases fraction <;> simp [Token.chars]

/-- The number at the start of a text is the one that is written there and cannot go on. -/
theorem takeToken?_eq_some_iff {text rest : List Char} {token : Token} :
    takeToken? text = some (token, rest) ↔
      text = token.chars ++ rest ∧ token.IsNumber ∧ token.EndsBefore rest := by
  constructor
  · intro h
    refine ⟨(takeToken?_chars h).symm, ?_⟩
    cases text with
    | nil => cases h
    | cons c tail =>
      rw [takeToken?] at h
      split at h
      · next hdigit =>
        have hnumber := isNumber_takeUnsigned none (c :: tail)
          (fun _ hnone => absurd hnone (Option.not_mem_none _)) ⟨c, rfl, hdigit⟩
        rwa [Option.some.inj h] at hnumber
      · split at h
        · next hsign =>
          obtain ⟨hsign, hnext⟩ := hsign
          obtain ⟨d, hd, hdigit⟩ : ∃ d ∈ tail.head?, isDecimalDigit d = true := by
            cases tail with
            | nil => cases hnext
            | cons d tail => exact ⟨d, rfl, hnext⟩
          have hnumber := isNumber_takeUnsigned (some c) tail
            (fun s hs => Option.some.inj hs ▸ hsign) ⟨d, hd, hdigit⟩
          rwa [Option.some.inj h] at hnumber
        · cases h
  · rintro ⟨rfl, hnumber, hrest⟩
    have htaken := takeUnsigned_append hnumber hrest
    obtain ⟨first, whole, hwhole⟩ := List.exists_cons_of_ne_nil hnumber.whole_ne_nil
    have hfirst : isDecimalDigit first = true :=
      hnumber.isDecimalDigit_of_whole first (hwhole ▸ List.mem_cons_self)
    rw [chars_eq_append, List.append_assoc, List.append_assoc]
    rw [hwhole, List.cons_append] at htaken ⊢
    cases hsign : token.sign with
    | none =>
      rw [hsign] at htaken
      rw [Option.toList_none, List.nil_append, takeToken?, if_pos hfirst, htaken]
    | some sign =>
      rw [hsign] at htaken
      have hisSign := hnumber.isSign_of_sign sign hsign
      rw [Option.toList_some, List.singleton_append, takeToken?,
        if_neg (by rw [not_isDecimalDigit_of_isSign hisSign]; exact Bool.false_ne_true),
        if_pos ⟨hisSign, hfirst⟩, htaken]

/-- No token begins at a character that is neither a digit nor a sign in front of one. -/
theorem takeToken?_cons_eq_none_iff {c : Char} {text : List Char} :
    takeToken? (c :: text) = none ↔
      isDecimalDigit c = false ∧ (isSign c = true → ∀ d ∈ text.head?, isDecimalDigit d = false) := by
  rw [takeToken?]
  split
  · next hdigit => simp [hdigit]
  · next hdigit =>
    rw [Bool.not_eq_true] at hdigit
    cases text with
    | nil => simp [hdigit]
    | cons d text => cases hsign : isSign c <;> cases hnext : isDecimalDigit d <;> simp [hdigit, hnext]

/-- A number with no sign begins with a digit. -/
theorem Token.IsNumber.exists_head?_of_unsigned {token : Token} (h : token.IsNumber)
    (hsign : token.sign = none) (rest : List Char) :
    ∃ d ∈ (token.chars ++ rest).head?, isDecimalDigit d = true := by
  obtain ⟨first, whole, hwhole⟩ := List.exists_cons_of_ne_nil h.whole_ne_nil
  refine ⟨first, ?_, h.isDecimalDigit_of_whole first (hwhole ▸ List.mem_cons_self)⟩
  rw [chars_eq_append, hsign, hwhole]
  rfl

/-- A number with a sign begins with the sign. -/
theorem head?_chars_of_signed {token : Token} {sign : Char} (hsign : token.sign = some sign)
    (rest : List Char) : (token.chars ++ rest).head? = some sign := by
  rw [chars_eq_append, hsign]
  rfl

/-! ## Gaps -/

/-- Whether a gap may stand between two numbers. At the start of a line there is no number before it, and
at the end of a line none behind it. -/
structure IsGap (before : Option Token) (gap : List Char) (after : Option Token) : Prop where
  not_digit : ∀ c ∈ gap, isDecimalDigit c = false
  /-- A sign at the end of the gap would belong to the number behind it. -/
  not_sign : ∀ token ∈ after, token.sign = none → ∀ c ∈ gap.getLast?, isSign c = false
  /-- A point at the start of the gap would belong to the number before it. -/
  not_point : ∀ token ∈ before, token.fraction = none → ∀ c ∈ gap.head?, c ≠ '.'
  /-- The digits of two numbers are kept apart by the gap, or else by the sign of the latter. -/
  signed : ∀ _first ∈ before, ∀ second ∈ after, gap = [] → second.sign ≠ none

/-- Whether numbers, each with the gap before it, and the gap at the end follow each other as they may,
behind an earlier number or at the start of a line. -/
def Spaced : Option Token → List (List Char × Token) → List Char → Prop
  | before, [], rest => IsGap before rest none
  | before, (gap, token) :: later, rest =>
    IsGap before gap (some token) ∧ token.IsNumber ∧ Spaced (some token) later rest

/-- Whether a cut is a reading of a line: it is the line, and its numbers and gaps are where they may be. -/
structure Cut.Reads (cut : Cut) (line : List Char) : Prop where
  chars_eq : cut.chars = line
  spaced : Spaced none cut.tokens cut.rest

/-- A line with no token is what is left of it. -/
theorem Cut.chars_nil (rest : List Char) : (Cut.mk [] rest).chars = rest := rfl

/-- A line begins with the gap and the token that are cut off first. -/
theorem Cut.chars_mk_cons (gap : List Char) (token : Token) (later : List (List Char × Token))
    (rest : List Char) :
    (Cut.mk ((gap, token) :: later) rest).chars = gap ++ (token.chars ++ (Cut.mk later rest).chars) := by
  simp [Cut.chars]

/-- A further character at the start of a gap that no number reaches. -/
theorem IsGap.cons {before after : Option Token} {c : Char} {gap : List Char} (h : IsGap none gap after)
    (hdigit : isDecimalDigit c = false)
    (hsign : gap = [] → ∀ token ∈ after, token.sign = none → isSign c = false)
    (hpoint : ∀ token ∈ before, token.fraction = none → c ≠ '.') : IsGap before (c :: gap) after where
  not_digit := List.forall_mem_cons.2 ⟨hdigit, h.not_digit⟩
  not_sign := by
    intro token htoken hunsigned d hd
    cases gap with
    | nil => exact Option.some.inj hd ▸ hsign rfl token htoken hunsigned
    | cons e gap =>
      rw [List.getLast?_cons_cons] at hd
      exact h.not_sign token htoken hunsigned d hd
  not_point := fun token htoken hnone d hd => Option.some.inj hd ▸ hpoint token htoken hnone
  signed := fun _ _ _ _ hnil => absurd hnil (List.cons_ne_nil _ _)

/-- The rest of a gap is a gap, with no token next to it in front. -/
theorem IsGap.tail {before after : Option Token} {c : Char} {gap : List Char}
    (h : IsGap before (c :: gap) after) : IsGap none gap after where
  not_digit := (List.forall_mem_cons.1 h.not_digit).2
  not_sign := by
    intro token htoken hunsigned d hd
    refine h.not_sign token htoken hunsigned d ?_
    rw [List.getLast?_cons, Option.mem_def.1 hd]
    rfl
  not_point := fun _ hnone => absurd hnone (Option.not_mem_none _)
  signed := fun _ hnone => absurd hnone (Option.not_mem_none _)

/-- A number cannot go on with what may stand behind it. -/
theorem Spaced.endsBefore {token : Token} {later : List (List Char × Token)} {rest : List Char}
    (h : Spaced (some token) later rest) : token.EndsBefore (Cut.mk later rest).chars := by
  -- what follows starts with a gap, or with the sign of the next number if there is no gap
  have hgap : ∀ {gap : List Char} {after : Option Token}, IsGap (some token) gap after →
      ∀ c ∈ gap.head?, isDecimalDigit c = false ∧ (token.fraction = none → c ≠ '.') :=
    fun hgap c hc => ⟨hgap.not_digit c (List.mem_of_mem_head? hc),
      fun hnone => hgap.not_point token rfl hnone c hc⟩
  cases later with
  | nil => exact hgap h
  | cons entry later =>
    obtain ⟨gap, next⟩ := entry
    obtain ⟨hfirst, hnumber, -⟩ := h
    rw [Cut.chars_mk_cons]
    cases gap with
    | cons c gap => exact fun d hd => hgap hfirst d hd
    | nil =>
      intro c hc
      obtain ⟨sign, hsign⟩ := Option.ne_none_iff_exists'.1 (hfirst.signed token rfl next rfl rfl)
      rw [List.nil_append, head?_chars_of_signed hsign] at hc
      obtain rfl := Option.some.inj hc
      have hisSign := hnumber.isSign_of_sign sign hsign
      refine ⟨not_isDecimalDigit_of_isSign hisSign, ?_⟩
      rintro - rfl
      exact absurd hisSign (by decide)

/-! ## Readings -/

/-- Where a token begins, it is the next one. -/
theorem cut_of_takeToken?_eq_some {text rest : List Char} {token : Token}
    (h : takeToken? text = some (token, rest)) : cut text = (cut rest).cons token := by
  cases text with
  | nil => cases h
  | cons c text =>
    rw [cut]
    split
    · next found after hfound =>
      rw [h] at hfound
      obtain ⟨rfl, rfl⟩ := Prod.mk.inj (Option.some.inj hfound)
      rfl
    · next hnone => cases h.symm.trans hnone

/-- Where none begins, the character belongs to the gap. -/
theorem cut_of_takeToken?_eq_none {c : Char} {text : List Char} (h : takeToken? (c :: text) = none) :
    cut (c :: text) = (cut text).skip c := by
  rw [cut]
  split
  · next found after hfound => cases h.symm.trans hfound
  · rfl

/-- Numbers and gaps that may follow each other are found where they are. -/
theorem Spaced.cut_chars_eq {before : Option Token} {tokens : List (List Char × Token)} {rest : List Char}
    (h : Spaced before tokens rest) : cut (Cut.mk tokens rest).chars = ⟨tokens, rest⟩ := by
  induction tokens generalizing before with
  | nil =>
    rw [Cut.chars_nil]
    replace h : IsGap before rest none := h
    induction rest generalizing before with
    | nil => rw [cut]
    | cons c rest ih =>
      have hnone : takeToken? (c :: rest) = none :=
        takeToken?_cons_eq_none_iff.2 ⟨h.not_digit c List.mem_cons_self,
          fun _ d hd => h.not_digit d (List.mem_cons_of_mem c (List.mem_of_mem_head? hd))⟩
      rw [cut_of_takeToken?_eq_none hnone, ih h.tail]
      rfl
  | cons entry later ih =>
    obtain ⟨gap, token⟩ := entry
    obtain ⟨hgap, hnumber, hlater⟩ := h
    rw [Cut.chars_mk_cons]
    induction gap generalizing before with
    | nil =>
      have hfound := takeToken?_eq_some_iff.2 ⟨rfl, hnumber, hlater.endsBefore⟩
      rw [List.nil_append, cut_of_takeToken?_eq_some hfound, ih hlater]
      rfl
    | cons c gap ihgap =>
      -- a sign at the end of the gap is followed by one of the number, and any other by the gap
      have hnext : isSign c = true →
          ∀ d ∈ (gap ++ (token.chars ++ (Cut.mk later rest).chars)).head?, isDecimalDigit d = false := by
        intro hsign d hd
        cases gap with
        | cons e gap =>
          obtain rfl := Option.some.inj hd
          exact hgap.not_digit e (List.mem_cons_of_mem c List.mem_cons_self)
        | nil =>
          cases htoken : token.sign with
          | none => rw [hgap.not_sign token rfl htoken c rfl] at hsign; cases hsign
          | some sign =>
            rw [List.nil_append, head?_chars_of_signed htoken] at hd
            obtain rfl := Option.some.inj hd
            exact not_isDecimalDigit_of_isSign (hnumber.isSign_of_sign sign htoken)
      have hnone := takeToken?_cons_eq_none_iff.2 ⟨hgap.not_digit c List.mem_cons_self, hnext⟩
      rw [List.cons_append, cut_of_takeToken?_eq_none hnone, ihgap hgap.tail]
      rfl

/-- A further character before numbers and gaps, at which no number starts. -/
theorem Spaced.skip {before : Option Token} {c : Char} {found : Cut}
    (h : Spaced none found.tokens found.rest) (hdigit : isDecimalDigit c = false)
    (hsign : isSign c = true → ∀ d ∈ found.chars.head?, isDecimalDigit d = false)
    (hpoint : ∀ token ∈ before, token.fraction = none → c ≠ '.') :
    Spaced before (found.skip c).tokens (found.skip c).rest := by
  obtain ⟨tokens, rest⟩ := found
  cases tokens with
  | nil => exact IsGap.cons h hdigit (fun _ _ hnone => nomatch hnone) hpoint
  | cons entry later =>
    obtain ⟨gap, token⟩ := entry
    obtain ⟨hgap, hnumber, hlater⟩ := h
    refine ⟨hgap.cons hdigit ?_ hpoint, hnumber, hlater⟩
    rintro rfl _ hsame hunsigned
    obtain rfl := Option.some.inj hsame
    by_contra hc
    obtain ⟨d, hd, hisDigit⟩ := hnumber.exists_head?_of_unsigned hunsigned (Cut.mk later rest).chars
    rw [Cut.chars_mk_cons, List.nil_append] at hsign
    rw [hsign (Bool.not_eq_false _ ▸ hc) d hd] at hisDigit
    cases hisDigit

/-- The numbers that are found follow each other as they may, behind a number that ends there. -/
theorem spaced_cut {before : Option Token} {text : List Char}
    (h : ∀ token ∈ before, token.EndsBefore text) : Spaced before (cut text).tokens (cut text).rest := by
  fun_induction cut text generalizing before with
  | case1 => exact ⟨by simp, by simp, by simp, by simp⟩
  | case2 c rest token after hfound ih =>
    obtain ⟨htext, hnumber, hends⟩ := takeToken?_eq_some_iff.1 hfound
    refine ⟨⟨by simp, by simp, by simp, ?_⟩, hnumber, ih fun _ htoken => Option.some.inj htoken ▸ hends⟩
    -- a number without sign starts with a digit, with which the number before it could go on
    intro first hfirst second hsecond _ hunsigned
    obtain rfl := Option.some.inj hsecond
    obtain ⟨d, hd, hdigit⟩ := hnumber.exists_head?_of_unsigned hunsigned after
    rw [← htext] at hd
    rw [(h first hfirst d hd).1] at hdigit
    cases hdigit
  | case3 c rest hnone ih =>
    obtain ⟨hdigit, hsign⟩ := takeToken?_cons_eq_none_iff.1 hnone
    rw [← cut_chars rest] at hsign
    have hspaced : Spaced none (cut rest).tokens (cut rest).rest :=
      ih fun _ hnone => absurd hnone (Option.not_mem_none _)
    exact hspaced.skip hdigit hsign fun token htoken => (h token htoken c rfl).2

/-- A line is read in one way only, as it is cut. -/
theorem reads_iff {reading : Cut} {line : List Char} : reading.Reads line ↔ reading = cut line := by
  constructor
  · rintro ⟨rfl, hspaced⟩
    exact hspaced.cut_chars_eq.symm
  · rintro rfl
    exact ⟨cut_chars line, spaced_cut fun _ hnone => absurd hnone (Option.not_mem_none _)⟩

example : cut "1.2.3--4x".toList = ⟨[([], ⟨none, ['1'], some ['2']⟩), (['.'], ⟨none, ['3'], none⟩),
    (['-'], ⟨some '-', ['4'], none⟩)], ['x']⟩ := by
  cbv

/-! ## Digits and values -/

/-- The digits of a number are all the digits in it. -/
theorem Token.IsNumber.filter_chars {token : Token} (h : token.IsNumber) :
    token.chars.filter isDecimalDigit = token.digits := by
  have hsign : token.sign.toList.filter isDecimalDigit = [] := by
    rw [List.filter_eq_nil_iff]
    intro c hc
    rw [not_isDecimalDigit_of_isSign (h.isSign_of_sign c (Option.mem_toList.1 hc))]
    exact Bool.false_ne_true
  have hwhole := List.filter_eq_self.2 h.isDecimalDigit_of_whole
  rw [chars_eq_append, List.filter_append, List.filter_append, hsign, hwhole, List.nil_append, digits]
  cases hfraction : token.fraction with
  | none => rfl
  | some digits =>
    have hpoint : ¬ isDecimalDigit '.' = true := by decide
    rw [Option.map_some, Option.getD_some, List.filter_cons_of_neg hpoint,
      List.filter_eq_self.2 (h.isDecimalDigit_of_fraction digits hfraction), Option.getD_some]

/-- The digits of a line are those of its numbers, in order. -/
theorem Spaced.filter_chars {before : Option Token} {tokens : List (List Char × Token)} {rest : List Char}
    (h : Spaced before tokens rest) :
    (Cut.mk tokens rest).chars.filter isDecimalDigit = (tokens.map (·.2)).flatMap Token.digits := by
  have hgap : ∀ {before after : Option Token} {gap : List Char}, IsGap before gap after →
      gap.filter isDecimalDigit = [] := fun hgap =>
    List.filter_eq_nil_iff.2 fun c hc => by rw [hgap.not_digit c hc]; exact Bool.false_ne_true
  induction tokens generalizing before with
  | nil => exact hgap h
  | cons entry later ih =>
    obtain ⟨gap, token⟩ := entry
    obtain ⟨hfirst, hnumber, hlater⟩ := h
    rw [Cut.chars_mk_cons, List.filter_append, List.filter_append, hgap hfirst, hnumber.filter_chars,
      ih hlater]
    rfl

namespace Token

/-- Whether all digits of a number are ASCII digits. -/
def IsAscii (token : Token) : Prop := ∀ c ∈ token.digits, c.isDigit = true

instance (token : Token) : Decidable token.IsAscii :=
  inferInstanceAs (Decidable (∀ c ∈ token.digits, c.isDigit = true))

/-- The number that the digits of a number write in base ten, without the point. -/
def significand (token : Token) : Nat :=
  Nat.ofDigits 10 ((token.digits.map fun c => c.toNat - '0'.toNat).reverse)

/-- The value of a number: its digits in base ten with as many decimal places as it has digits behind
the point, converted to a binary64 number with its sign. -/
def decimal (token : Token) : Float :=
  Number.ofDecimal (token.sign == some '-') token.significand
    (-((token.fraction.getD []).length : Int))

/-- A natural number is read from ASCII digits, with their value to base ten. -/
theorem natural?_eq_some_iff {digits : List Char} {n : Nat} :
    natural? digits = some n ↔ (∀ c ∈ digits, c.isDigit = true) ∧
      n = Nat.ofDigits 10 ((digits.map fun c => c.toNat - '0'.toNat).reverse) := by
  -- a further digit at the end is the last place of the number
  induction digits using List.reverseRecOn generalizing n with
  | nil =>
    refine ⟨fun h => ⟨List.forall_mem_nil _, (Option.some.inj h).symm⟩, fun h => congrArg some h.2.symm⟩
  | append_singleton digits c ih =>
    have hstep : natural? (digits ++ [c])
        = (natural? digits).bind fun value => (Text.asciiDigit? c).map (10 * value + ·) := by
      rw [natural?, List.foldlM_append]
      refine congrArg (Option.bind _) (funext fun value => ?_)
      simp
    have hdigits : ((digits ++ [c]).map fun d => d.toNat - '0'.toNat).reverse
        = (c.toNat - '0'.toNat) :: (digits.map fun d => d.toNat - '0'.toNat).reverse := by simp
    rw [hstep, hdigits, Nat.ofDigits_cons, Option.bind_eq_some_iff]
    constructor
    · rintro ⟨value, hvalue, hlast⟩
      obtain ⟨hascii, rfl⟩ := ih.1 hvalue
      rw [Text.asciiDigit?] at hlast
      split at hlast
      · next hc =>
        refine ⟨?_, ?_⟩
        · rw [List.forall_mem_append]
          exact ⟨hascii, List.forall_mem_singleton.2 hc⟩
        · rw [← Option.some.inj hlast, Nat.add_comm]
      · cases hlast
    · rintro ⟨hascii, rfl⟩
      rw [List.forall_mem_append, List.forall_mem_singleton] at hascii
      refine ⟨_, ih.2 ⟨hascii.1, rfl⟩, ?_⟩
      rw [Text.asciiDigit?, if_pos hascii.2, Option.map_some, Nat.add_comm]

/-- The numbers with ASCII digits have their decimal values, and no others have any. -/
theorem value?_eq_some_iff {token : Token} {value : Float} :
    token.value? = some value ↔ token.IsAscii ∧ value = token.decimal := by
  have hbind : token.value? = (natural? token.digits).bind fun n =>
      some (Number.ofDecimal (token.sign == some '-') n (-((token.fraction.getD []).length : Int))) := rfl
  rw [hbind, Option.bind_eq_some_iff]
  constructor
  · rintro ⟨n, hn, hvalue⟩
    obtain ⟨hascii, rfl⟩ := natural?_eq_some_iff.1 hn
    exact ⟨hascii, (Option.some.inj hvalue).symm⟩
  · rintro ⟨hascii, rfl⟩
    exact ⟨_, natural?_eq_some_iff.2 ⟨hascii, rfl⟩, rfl⟩

/-- A token has no value when one of its digits is not in ASCII. -/
theorem value?_eq_none_iff {token : Token} : token.value? = none ↔ ¬ token.IsAscii := by
  rw [Option.eq_none_iff_forall_ne_some]
  constructor
  · intro hnone hascii
    exact hnone _ (value?_eq_some_iff.2 ⟨hascii, rfl⟩)
  · intro hascii value hvalue
    exact hascii (value?_eq_some_iff.1 hvalue).1

end Token

/-- Tokens have values when all of them are in ASCII. -/
theorem values_eq_ok_iff {tokens : List Token} {found : List Float} :
    values tokens = .ok found ↔ (∀ token ∈ tokens, token.IsAscii) ∧ found = tokens.map Token.decimal := by
  induction tokens generalizing found with
  | nil => simp [values, eq_comm]
  | cons token tokens ih =>
    rw [values, List.forall_mem_cons, List.map_cons]
    split
    · next hnone => simp [Token.value?_eq_none_iff.1 hnone]
    · next value hvalue =>
      obtain ⟨hascii, rfl⟩ := Token.value?_eq_some_iff.1 hvalue
      rw [map_eq_ok_iff]
      simp only [ih, hascii, true_and]
      constructor
      · rintro ⟨_, ⟨hrest, rfl⟩, rfl⟩
        exact ⟨hrest, rfl⟩
      · rintro ⟨hrest, rfl⟩
        exact ⟨_, ⟨hrest, rfl⟩, rfl⟩

/-- What is reported is the first number with a digit that is no ASCII digit. -/
theorem values_eq_error_iff {tokens : List Token} {fault : Fault} :
    values tokens = .error fault ↔ ∃ before token after, tokens = before ++ token :: after ∧
      (∀ earlier ∈ before, earlier.IsAscii) ∧ ¬ token.IsAscii ∧
      fault = .badNumber (String.ofList token.chars) := by
  induction tokens with
  | nil => simp [values]
  | cons first tokens ih =>
    rw [values]
    split
    · next hnone =>
      have hfirst := Token.value?_eq_none_iff.1 hnone
      constructor
      · intro h
        exact ⟨[], first, tokens, rfl, by simp, hfirst, (Except.error.inj h).symm⟩
      · rintro ⟨before, token, after, heq, hbefore, -, rfl⟩
        cases before with
        | nil => rw [(List.cons.inj heq).1]
        | cons earlier before =>
          exact absurd ((List.cons.inj heq).1 ▸ hbefore earlier List.mem_cons_self) hfirst
    · next value hvalue =>
      have hfirst := (Token.value?_eq_some_iff.1 hvalue).1
      rw [map_eq_error_iff, ih]
      constructor
      · rintro ⟨before, token, after, rfl, hbefore, htoken, hfault⟩
        exact ⟨first :: before, token, after, rfl, List.forall_mem_cons.2 ⟨hfirst, hbefore⟩, htoken,
          hfault⟩
      · rintro ⟨before, token, after, heq, hbefore, htoken, hfault⟩
        cases before with
        | nil => exact absurd ((List.cons.inj heq).1 ▸ hfirst) htoken
        | cons earlier before =>
          exact ⟨before, token, after, (List.cons.inj heq).2, (List.forall_mem_cons.1 hbefore).2,
            htoken, hfault⟩

/-- The numbers of a line are those of its only reading, they have all of its digits in order, and they
have values if all of these are ASCII digits. -/
theorem reads_iff_and_values_iff (line : List Char) :
    (∀ reading : Cut, reading.Reads line ↔ reading = cut line) ∧
      (tokens line).flatMap Token.digits = line.filter isDecimalDigit ∧
      (∀ found, values (tokens line) = .ok found ↔
        (∀ token ∈ tokens line, token.IsAscii) ∧ found = (tokens line).map Token.decimal) ∧
      ∀ fault, values (tokens line) = .error fault ↔
        ∃ before token after, tokens line = before ++ token :: after ∧
          (∀ earlier ∈ before, earlier.IsAscii) ∧ ¬ token.IsAscii ∧
          fault = .badNumber (String.ofList token.chars) := by
  have hreads := reads_iff.2 (Eq.refl (cut line))
  refine ⟨fun _ => reads_iff, ?_, fun _ => values_eq_ok_iff, fun _ => values_eq_error_iff⟩
  rw [tokens, ← hreads.spaced.filter_chars]
  exact congrArg (List.filter isDecimalDigit) hreads.chars_eq

end SlideDeck.Series
