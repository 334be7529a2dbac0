import SlideDeck.Number.Binary64
import SlideDeck.Text.DecimalDigit

/-!
# The numbers of a line

A line is cut into numbers and the gaps between them. A number is an optional sign, digits, and an
optional point with further digits; numbers are as long as possible and are found from left to right.
Digits of all scripts belong to numbers, but only ASCII digits have a value.
-/

namespace SlideDeck.Series

/-- A number as it is written. -/
structure Token where
  /-- The sign, if one is written. -/
  sign : Option Char
  whole : List Char
  /-- The digits behind the point, if there is a point. -/
  fraction : Option (List Char)
deriving Repr, DecidableEq

namespace Token

/-- The characters of a number. -/
def chars (token : Token) : List Char :=
  token.sign.toList ++ token.whole ++
    match token.fraction with
    | none => []
    | some digits => '.' :: digits

/-- The digits of a number, those before the point and those behind it. -/
def digits (token : Token) : List Char := token.whole ++ token.fraction.getD []

/-- The natural number that digits write, if all of them are ASCII digits. -/
def natural? (digits : List Char) : Option Nat :=
  digits.foldlM (fun value c => (Text.asciiDigit? c).map (10 * value + ·)) 0

/-- The value of a number: the binary64 number nearest to it. -/
def value? (token : Token) : Option Float := do
  let significand ← natural? token.digits
  pure (Number.ofDecimal (token.sign == some '-') significand
    (-((token.fraction.getD []).length : Int)))

end Token

/-! ## Finding numbers -/

/-- Whether a character is a sign. -/
def isSign (c : Char) : Bool := c = '+' || c = '-'

/-- The number at the start of a text whose sign has been read, and the rest. The text starts with a
digit, so the number has at least one. -/
def takeUnsigned (sign : Option Char) (text : List Char) : Token × List Char :=
  let whole := text.takeWhile Text.isDecimalDigit
  match text.dropWhile Text.isDecimalDigit with
  | '.' :: rest =>
    (⟨sign, whole, some (rest.takeWhile Text.isDecimalDigit)⟩, rest.dropWhile Text.isDecimalDigit)
  | rest => (⟨sign, whole, none⟩, rest)

/-- The number at the start of a text and the rest, if a number starts there. -/
def takeToken? : List Char → Option (Token × List Char)
  | [] => none
  | c :: rest =>
    if Text.isDecimalDigit c then some (takeUnsigned none (c :: rest))
    else if isSign c ∧ (rest.head?.map Text.isDecimalDigit).getD false then
      some (takeUnsigned (some c) rest)
    else none

/-- A line cut into numbers, each behind the gap before it, and the gap at the end. -/
structure Cut where
  tokens : List (List Char × Token)
  rest : List Char
deriving Repr, DecidableEq

namespace Cut

/-- A further character at the start of the first gap. -/
def skip (c : Char) (cut : Cut) : Cut :=
  match cut.tokens with
  | [] => { cut with rest := c :: cut.rest }
  | (gap, token) :: tokens => { cut with tokens := (c :: gap, token) :: tokens }

/-- A further number before the first gap. -/
def cons (token : Token) (cut : Cut) : Cut := { cut with tokens := ([], token) :: cut.tokens }

/-- The line that was cut. -/
def chars (cut : Cut) : List Char :=
  cut.tokens.flatMap (fun (gap, token) => gap ++ token.chars) ++ cut.rest

/-- A character put in front of the gap stands in front of the text. -/
@[simp] theorem chars_skip (c : Char) (cut : Cut) : (cut.skip c).chars = c :: cut.chars := by
  obtain ⟨tokens, rest⟩ := cut
  cases tokens <;> simp [skip, chars]

/-- So does a token put in front of the others. -/
@[simp] theorem chars_cons (token : Token) (cut : Cut) :
    (cut.cons token).chars = token.chars ++ cut.chars := by
  simp [cons, chars]

end Cut

/-- Cutting a number off loses no character. -/
theorem takeUnsigned_chars (sign : Option Char) (text : List Char) :
    (takeUnsigned sign text).1.chars ++ (takeUnsigned sign text).2 = sign.toList ++ text := by
  simp only [takeUnsigned]
  split
  · next rest h =>
    have hwhole := List.takeWhile_append_dropWhile (p := Text.isDecimalDigit) (l := text)
    have hfraction := List.takeWhile_append_dropWhile (p := Text.isDecimalDigit) (l := rest)
    rw [h] at hwhole
    simp only [Token.chars, List.append_assoc, List.cons_append, hfraction, hwhole]
  · have hwhole := List.takeWhile_append_dropWhile (p := Text.isDecimalDigit) (l := text)
    simp only [Token.chars, List.append_assoc, List.nil_append, hwhole]

/-- Nor does cutting a token off. -/
theorem takeToken?_chars {text rest : List Char} {token : Token}
    (h : takeToken? text = some (token, rest)) : token.chars ++ rest = text := by
  cases text with
  | nil => simp [takeToken?] at h
  | cons c tail =>
    rw [takeToken?] at h
    split at h
    · simp only [Option.some.injEq] at h
      simpa [h] using takeUnsigned_chars none (c :: tail)
    · split at h
      · simp only [Option.some.injEq] at h
        simpa [h] using takeUnsigned_chars (some c) tail
      · simp at h

/-- A token has characters. -/
theorem takeToken?_length {text rest : List Char} {token : Token}
    (h : takeToken? text = some (token, rest)) : rest.length < text.length := by
  have hchars := congrArg List.length (takeToken?_chars h)
  rw [List.length_append] at hchars
  suffices 0 < token.chars.length by omega
  cases text with
  | nil => simp [takeToken?] at h
  | cons c tail =>
    rw [takeToken?] at h
    split at h
    · next hdigit =>
      simp only [Option.some.injEq] at h
      have hwhole : token.whole = (c :: tail).takeWhile Text.isDecimalDigit := by
        have hfst := congrArg Prod.fst h
        simp only [takeUnsigned] at hfst
        split at hfst <;> exact hfst ▸ rfl
      simp only [Token.chars, hwhole, List.takeWhile_cons, hdigit, if_true, List.length_append,
        List.length_cons]
      omega
    · split at h
      · simp only [Option.some.injEq] at h
        have hsign : token.sign = some c := by
          have hfst := congrArg Prod.fst h
          simp only [takeUnsigned] at hfst
          split at hfst <;> exact hfst ▸ rfl
        simp only [Token.chars, hsign, Option.toList_some, List.length_append, List.length_cons]
        omega
      · simp at h

/-- The numbers of a line, with the gaps between them. -/
def cut (text : List Char) : Cut :=
  match text with
  | [] => ⟨[], []⟩
  | c :: rest =>
    match _h : takeToken? (c :: rest) with
    | some (token, after) => (cut after).cons token
    | none => (cut rest).skip c
termination_by text.length
decreasing_by
  · exact takeToken?_length _h
  · simp

/-- The numbers of a line, from left to right. -/
def tokens (text : List Char) : List Token := (cut text).tokens.map (·.2)

/-- Cutting a text into tokens loses no character. -/
theorem cut_chars (text : List Char) : (cut text).chars = text := by
  fun_induction cut text with
  | case1 => rfl
  | case2 c rest token after h ih => rw [Cut.chars_cons, ih, takeToken?_chars h]
  | case3 c rest _ ih => rw [Cut.chars_skip, ih]

end SlideDeck.Series
