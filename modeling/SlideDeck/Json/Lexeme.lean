import SlideDeck.Json.Basic
import SlideDeck.Number.Decimal

/-!
# The lexemes of a JSON document

A document is a sequence of marks, literals, numbers and strings, with spaces, tabs and line ends
between them. `lexemes?` finds them by the grammar of RFC 8259, without leniency: no leading zeros,
no raw control characters in strings, and no escape of half a surrogate pair.

A number with a fraction or an exponent takes as many digits as fit into an unsigned 64-bit
significand, which is then multiplied or divided by a power of ten in binary64; a number whose result
is not finite is none.
-/

namespace SlideDeck.Json

/-- A lexeme of a JSON document. -/
inductive Lexeme where
  | openBracket | closeBracket | openBrace | closeBrace | comma | colon
  | null | true | false
  | number (value : Number)
  | string (value : String)

/-! ## Numbers -/

/-- The significand with one more digit, if that still fits into 64 bits. -/
def extend? (significand digit : Nat) : Option Nat :=
  let next := 10 * significand + digit
  if next < 2 ^ 64 then some next else none

/-- The significand extended by leading digits as long as it fits into 64 bits, and how many digits
it took. -/
def extendWhile (significand : Nat) : List Char → Nat × Nat
  | [] => (significand, 0)
  | c :: digits =>
    match extend? significand (c.toNat - '0'.toNat) with
    | none => (significand, 0)
    | some next =>
      let (last, taken) := extendWhile next digits
      (last, taken + 1)

/-- The number times ten to the exponent, by one multiplication or division in binary64 for every
308 decimal places; nothing if it exceeds binary64. -/
def scale? (x : Float) (exponent : Int) : Option Float :=
  let power (k : Nat) : Float := SlideDeck.Number.ofDecimal false 1 k
  if 0 ≤ exponent then
    if exponent ≤ 308 then
      let y := x * power exponent.toNat
      if y.isInf then none else some y
    else if x == 0 then some x else none
  else if -308 ≤ exponent then some (x / power exponent.natAbs)
  else if x == 0 then some x
  else scale? (x / power 308) (exponent + 308)
termination_by exponent.natAbs
decreasing_by omega

/-- The value of a number with the given whole digits, fraction digits and exponent, either of
which may be absent. -/
def numberOf? (negative : Bool) (whole : List Char) (fraction : Option (List Char))
    (exponent : Option (Bool × List Char)) : Option Number := do
  let (significand, taken) := extendWhile 0 whole
  let beyond := whole.length - taken
  if fraction.isNone && exponent.isNone && beyond == 0 then
    if !negative then return .integer significand
    else if 0 < significand ∧ significand ≤ 2 ^ 63 then return .integer (-(significand : Int))
  let (significand, places) := extendWhile significand (fraction.getD [])
  let shift ← match exponent with
    | none => some (0 : Int)
    | some (down, digits) => do
      let value ← SlideDeck.Number.natural? digits
      pure (if down then -(value : Int) else value)
  let x ← scale? (SlideDeck.Number.ofNat significand) (beyond - places + shift)
  pure (.float (if negative then -x else x))

/-- The digits at the start of the text, of which there must be one, and the rest. -/
def takeDigits? (text : List Char) : Option (List Char × List Char) :=
  let digits := text.takeWhile Char.isDigit
  if digits.isEmpty then none else some (digits, text.dropWhile Char.isDigit)

/-- The fraction at the start of the text, if it starts with a point. -/
def takeFraction? : List Char → Option (Option (List Char) × List Char)
  | '.' :: rest => do
    let (digits, rest) ← takeDigits? rest
    pure (some digits, rest)
  | text => some (none, text)

/-- The exponent at the start of the text, if it starts with `e` or `E`. -/
def takeExponent? : List Char → Option (Option (Bool × List Char) × List Char)
  | mark :: rest =>
    if mark = 'e' ∨ mark = 'E' then do
      let (down, rest) := SlideDeck.Number.takeSign rest
      let (digits, rest) ← takeDigits? rest
      pure (some (down, digits), rest)
    else some (none, mark :: rest)
  | [] => some (none, [])

/-- A minus sign and what follows it. -/
def takeMinus : List Char → Bool × List Char
  | '-' :: rest => (Bool.true, rest)
  | text => (Bool.false, text)

/-- The number at the start of the text, and the rest. -/
def takeNumber? (text : List Char) : Option (Number × List Char) := do
  let (negative, rest) := takeMinus text
  let (whole, rest) ← takeDigits? rest
  if whole.head? = some '0' ∧ whole.length ≠ 1 then none
  let (fraction, rest) ← takeFraction? rest
  let (exponent, rest) ← takeExponent? rest
  let value ← numberOf? negative whole fraction exponent
  pure (value, rest)

/-- Taking digits makes the text shorter. -/
theorem takeDigits?_length {text rest digits : List Char}
    (h : takeDigits? text = some (digits, rest)) : rest.length < text.length := by
  simp only [takeDigits?] at h
  split at h
  · simp at h
  · next hne =>
    obtain ⟨rfl, rfl⟩ := by simpa using h
    have hsplit := congrArg List.length (List.takeWhile_append_dropWhile (p := Char.isDigit) (l := text))
    rw [List.length_append] at hsplit
    have hpos : 0 < (text.takeWhile Char.isDigit).length := by
      cases hw : text.takeWhile Char.isDigit with
      | nil => simp [hw] at hne
      | cons => simp
    omega

/-- A fraction may be missing, so that the text need not get shorter. -/
theorem takeFraction?_length {text rest : List Char} {fraction : Option (List Char)}
    (h : takeFraction? text = some (fraction, rest)) : rest.length ≤ text.length := by
  unfold takeFraction? at h
  split at h
  · simp only [Option.bind_eq_bind, Option.bind_eq_some_iff, Prod.exists, Option.pure_def,
      Option.some.injEq, Prod.mk.injEq] at h
    obtain ⟨_, _, hd, _, rfl⟩ := h
    have := takeDigits?_length hd
    simp only [List.length_cons]
    omega
  · simp only [Option.some.injEq, Prod.mk.injEq] at h
    exact h.2 ▸ Nat.le_refl _

/-- A sign may be missing. -/
theorem takeSign_length (text : List Char) :
    (SlideDeck.Number.takeSign text).2.length ≤ text.length := by
  unfold SlideDeck.Number.takeSign
  split <;> simp

/-- An exponent may be missing. -/
theorem takeExponent?_length {text rest : List Char} {exponent : Option (Bool × List Char)}
    (h : takeExponent? text = some (exponent, rest)) : rest.length ≤ text.length := by
  unfold takeExponent? at h
  split at h
  · next mark tail =>
    split at h
    · simp only [Option.bind_eq_bind, Option.bind_eq_some_iff, Prod.exists, Option.pure_def,
        Option.some.injEq, Prod.mk.injEq] at h
      obtain ⟨_, _, hd, _, rfl⟩ := h
      have hdigits := takeDigits?_length hd
      have hsign := takeSign_length tail
      simp only [List.length_cons]
      omega
    · simp only [Option.some.injEq, Prod.mk.injEq] at h
      exact h.2 ▸ Nat.le_refl _
  · simp only [Option.some.injEq, Prod.mk.injEq] at h
    simp [← h.2]

theorem takeMinus_length (text : List Char) : (takeMinus text).2.length ≤ text.length := by
  unfold takeMinus
  split <;> simp

/-- A number has a digit at least. -/
theorem takeNumber?_length {text rest : List Char} {value : Number}
    (h : takeNumber? text = some (value, rest)) : rest.length < text.length := by
  have htext := takeMinus_length text
  simp only [takeNumber?, Option.bind_eq_bind, Option.bind_eq_some_iff, Prod.exists] at h
  obtain ⟨whole, rest₁, h₁, h⟩ := h
  have hwhole := takeDigits?_length h₁
  split at h
  · simp at h
  · simp only [Option.bind_eq_some_iff, Prod.exists, Option.pure_def,
      Option.some.injEq, Prod.mk.injEq] at h
    obtain ⟨fraction, rest₂, h₂, exponent, rest₃, h₃, _, _, _, rfl⟩ := h
    have hfraction := takeFraction?_length h₂
    have hexponent := takeExponent?_length h₃
    omega

/-! ## Strings -/

/-- The value of a hexadecimal digit. -/
def hexDigit? (c : Char) : Option Nat :=
  if c.isDigit then some (c.toNat - '0'.toNat)
  else if 'a' ≤ c ∧ c ≤ 'f' then some (c.toNat - 'a'.toNat + 10)
  else if 'A' ≤ c ∧ c ≤ 'F' then some (c.toNat - 'A'.toNat + 10)
  else none

/-- The four hexadecimal digits at the start of the text, and the rest. -/
def takeUnit? : List Char → Option (Nat × List Char)
  | a :: b :: c :: d :: rest => do
    let a ← hexDigit? a
    let b ← hexDigit? b
    let c ← hexDigit? c
    let d ← hexDigit? d
    pure (((a * 16 + b) * 16 + c) * 16 + d, rest)
  | _ => none

/-- The character of an escape whose `\u` has been read, and the rest. A character beyond 16 bits
takes two escapes, the halves of a surrogate pair. -/
def takeEscapedUnit? (text : List Char) : Option (Char × List Char) := do
  let (unit, rest) ← takeUnit? text
  if unit < 0xD800 ∨ 0xDFFF < unit then pure (Char.ofNat unit, rest)
  else if 0xDC00 ≤ unit then none
  else match rest with
    | '\\' :: 'u' :: rest => do
      let (low, rest) ← takeUnit? rest
      if 0xDC00 ≤ low ∧ low ≤ 0xDFFF then
        pure (Char.ofNat (0x10000 + (unit - 0xD800) * 0x400 + (low - 0xDC00)), rest)
      else none
    | _ => none

/-- The character of an escape whose backslash has been read, and the rest. -/
def takeEscape? : List Char → Option (Char × List Char)
  | '"' :: rest => some ('"', rest)
  | '\\' :: rest => some ('\\', rest)
  | '/' :: rest => some ('/', rest)
  | 'b' :: rest => some (Char.ofNat 8, rest)
  | 'f' :: rest => some (Char.ofNat 12, rest)
  | 'n' :: rest => some ('\n', rest)
  | 'r' :: rest => some ('\r', rest)
  | 't' :: rest => some ('\t', rest)
  | 'u' :: rest => takeEscapedUnit? rest
  | _ => none

/-- A code unit is written with digits, which are taken off. -/
theorem takeUnit?_length {text rest : List Char} {n : Nat} (h : takeUnit? text = some (n, rest)) :
    rest.length < text.length := by
  unfold takeUnit? at h
  split at h
  · simp only [Option.bind_eq_bind, Option.bind_eq_some_iff, Option.pure_def, Option.some.injEq,
      Prod.mk.injEq] at h
    obtain ⟨_, _, _, _, _, _, _, _, _, rfl⟩ := h
    simp only [List.length_cons]
    omega
  · simp at h

/-- An escaped character takes one code unit or two. -/
theorem takeEscapedUnit?_length {text rest : List Char} {c : Char}
    (h : takeEscapedUnit? text = some (c, rest)) : rest.length < text.length := by
  unfold takeEscapedUnit? at h
  simp only [Option.bind_eq_bind, Option.bind_eq_some_iff, Prod.exists] at h
  obtain ⟨unit, rest₁, h₁, h⟩ := h
  have hlen := takeUnit?_length h₁
  split at h
  · simp only [Option.pure_def, Option.some.injEq, Prod.mk.injEq] at h
    exact h.2 ▸ hlen
  · split at h
    · simp at h
    · split at h
      · next rest₂ =>
        simp only [Option.bind_eq_some_iff, Prod.exists] at h
        obtain ⟨low, rest₃, h₂, h⟩ := h
        have hlow := takeUnit?_length h₂
        split at h
        · simp only [Option.pure_def, Option.some.injEq, Prod.mk.injEq] at h
          simp only [List.length_cons] at hlen
          rw [← h.2]
          omega
        · simp at h
      · simp at h

/-- An escape takes a character at least. -/
theorem takeEscape?_length {text rest : List Char} {c : Char}
    (h : takeEscape? text = some (c, rest)) : rest.length < text.length := by
  unfold takeEscape? at h
  split at h <;> first
    | (simp only [Option.some.injEq, Prod.mk.injEq] at h; rw [← h.2]; simp)
    | exact Nat.lt_succ_of_lt (takeEscapedUnit?_length h)
    | simp at h

/-- The characters of a string whose opening quote has been read, and what follows its closing
quote. -/
def takeString? (text : List Char) : Option (List Char × List Char) :=
  match text with
  | [] => none
  | '"' :: rest => some ([], rest)
  | '\\' :: rest =>
    match _h : takeEscape? rest with
    | none => none
    | some (c, rest) => (takeString? rest).map fun (chars, rest) => (c :: chars, rest)
  | c :: rest =>
    if c.toNat < 0x20 then none
    else (takeString? rest).map fun (chars, rest) => (c :: chars, rest)
termination_by text.length
decreasing_by
  · have := takeEscape?_length _h
    simp only [List.length_cons]
    omega
  · simp

/-- A string ends in a quote, which is taken off with it. -/
theorem takeString?_length {text chars rest : List Char}
    (h : takeString? text = some (chars, rest)) : rest.length < text.length := by
  fun_induction takeString? text generalizing chars with
  | case1 => simp at h
  | case2 => simp_all
  | case3 => simp at h
  | case4 rest₀ c rest₁ hescape ih =>
    obtain ⟨⟨chars', rest'⟩, htail, heq⟩ := Option.map_eq_some_iff.1 h
    obtain ⟨rfl, rfl⟩ := by simpa using heq
    have := ih htail
    have := takeEscape?_length hescape
    simp only [List.length_cons]
    omega
  | case5 => simp at h
  | case6 c rest₀ _ _ _ ih =>
    obtain ⟨⟨chars', rest'⟩, htail, heq⟩ := Option.map_eq_some_iff.1 h
    obtain ⟨rfl, rfl⟩ := by simpa using heq
    have := ih htail
    simp only [List.length_cons]
    omega

/-! ## Documents -/

/-- The blanks of JSON. -/
def isSpace (c : Char) : Bool := c = ' ' ∨ c = '\t' ∨ c = '\n' ∨ c = '\r'

/-- The lexemes of a text, or nothing if some part of it is none. -/
def lexemes? (text : List Char) : Option (List Lexeme) :=
  match text with
  | [] => some []
  | '[' :: rest => (lexemes? rest).map (.openBracket :: ·)
  | ']' :: rest => (lexemes? rest).map (.closeBracket :: ·)
  | '\x7b' :: rest => (lexemes? rest).map (.openBrace :: ·)
  | '\x7d' :: rest => (lexemes? rest).map (.closeBrace :: ·)
  | ',' :: rest => (lexemes? rest).map (.comma :: ·)
  | ':' :: rest => (lexemes? rest).map (.colon :: ·)
  | 'n' :: 'u' :: 'l' :: 'l' :: rest => (lexemes? rest).map (.null :: ·)
  | 't' :: 'r' :: 'u' :: 'e' :: rest => (lexemes? rest).map (.true :: ·)
  | 'f' :: 'a' :: 'l' :: 's' :: 'e' :: rest => (lexemes? rest).map (.false :: ·)
  | '"' :: rest =>
    match _h : takeString? rest with
    | none => none
    | some (chars, rest) => (lexemes? rest).map (.string (String.ofList chars) :: ·)
  | c :: rest =>
    if isSpace c then lexemes? rest
    else match _h : takeNumber? (c :: rest) with
      | none => none
      | some (value, rest) => (lexemes? rest).map (.number value :: ·)
termination_by text.length
decreasing_by
  all_goals first
    | (simp only [List.length_cons]; omega)
    | (simp only [List.length_cons]; have hrest := takeString?_length _h; omega)
    | exact takeNumber?_length _h

end SlideDeck.Json
