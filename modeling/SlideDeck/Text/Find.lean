/-!
# Finding a text within a text

`cutFirst` and `cutLast` split a text at the first and at the last occurrence of a pattern.
-/

namespace SlideDeck.Text

/-- What follows the pattern at the start of the text, if the text starts with it. -/
def dropStart? : (pattern text : List Char) → Option (List Char)
  | [], text => some text
  | _ :: _, [] => none
  | p :: pattern, c :: text => if p = c then dropStart? pattern text else none

/-- What precedes and what follows the first occurrence of the pattern. -/
def cutFirst (pattern : List Char) : (text : List Char) → Option (List Char × List Char)
  | [] => if pattern.isEmpty then some ([], []) else none
  | c :: text =>
    match dropStart? pattern (c :: text) with
    | some rest => some ([], rest)
    | none => (cutFirst pattern text).map fun (before, after) => (c :: before, after)

/-- What precedes and what follows the last occurrence of the pattern. -/
def cutLast (pattern : List Char) : (text : List Char) → Option (List Char × List Char)
  | [] => if pattern.isEmpty then some ([], []) else none
  | c :: text =>
    match cutLast pattern text with
    | some (before, after) => some (c :: before, after)
    | none => (dropStart? pattern (c :: text)).map fun rest => ([], rest)

/-- The pattern is dropped from a text that begins with it. -/
theorem dropStart?_eq_some_iff {pattern text rest : List Char} :
    dropStart? pattern text = some rest ↔ text = pattern ++ rest := by
  induction pattern generalizing text with
  | nil => simp [dropStart?, eq_comm]
  | cons p pattern ih =>
    cases text with
    | nil => simp [dropStart?]
    | cons c text =>
      by_cases h : p = c
      · simp [dropStart?, h, ih]
      · simp [dropStart?, h, Ne.symm h]

/-- The two sides of the first match and the pattern make the text. -/
theorem eq_of_cutFirst {pattern text before after : List Char}
    (h : cutFirst pattern text = some (before, after)) : text = before ++ pattern ++ after := by
  induction text generalizing before with
  | nil =>
    rw [cutFirst] at h
    split at h
    · simp_all
    · simp at h
  | cons c text ih =>
    rw [cutFirst] at h
    split at h
    · next rest hrest =>
      obtain ⟨rfl, rfl⟩ := by simpa using h
      simpa using dropStart?_eq_some_iff.1 hrest
    · obtain ⟨⟨b, a⟩, hcut, heq⟩ := Option.map_eq_some_iff.1 h
      obtain ⟨rfl, rfl⟩ := by simpa using heq
      simp [ih hcut]

/-- So do those of the last match. -/
theorem eq_of_cutLast {pattern text before after : List Char}
    (h : cutLast pattern text = some (before, after)) : text = before ++ pattern ++ after := by
  induction text generalizing before with
  | nil =>
    rw [cutLast] at h
    split at h
    · simp_all
    · simp at h
  | cons c text ih =>
    rw [cutLast] at h
    split at h
    · next b a hcut =>
      obtain ⟨rfl, rfl⟩ := by simpa using h
      simp [ih hcut]
    · obtain ⟨rest, hrest, heq⟩ := Option.map_eq_some_iff.1 h
      obtain ⟨rfl, rfl⟩ := by simpa using heq
      simpa using dropStart?_eq_some_iff.1 hrest

end SlideDeck.Text
