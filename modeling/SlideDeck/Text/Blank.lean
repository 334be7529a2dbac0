import SlideDeck.Text.Ranges

/-!
# Blank characters and lines

A blank is a character with the property `White_Space` of the Unicode standard. Trimming drops
blanks at both ends, and a line is blank when trimming leaves nothing of it.
-/

namespace SlideDeck.Text

/-- The characters with the property `White_Space`. -/
def blanks : Ranges :=
  [(0x09, 0x0D), (0x20, 0x20), (0x85, 0x85), (0xA0, 0xA0), (0x1680, 0x1680), (0x2000, 0x200A),
    (0x2028, 0x2029), (0x202F, 0x202F), (0x205F, 0x205F), (0x3000, 0x3000)]

/-- Whether a character has the property `White_Space`. -/
def isBlank (c : Char) : Bool := blanks.contains c

/-- The text without the blanks at its ends. -/
def trim (text : List Char) : List Char :=
  ((text.dropWhile isBlank).reverse.dropWhile isBlank).reverse

/-- Whether the text consists of blanks only, so that trimming leaves nothing of it. -/
def allBlank (text : List Char) : Bool := text.all isBlank

/-- Nothing is left behind the blanks of a text when it is all blank. -/
theorem dropWhile_isBlank_eq_nil_iff {text : List Char} :
    text.dropWhile isBlank = [] ↔ allBlank text = true := by
  induction text with
  | nil => simp [allBlank]
  | cons c rest ih =>
    cases h : isBlank c
    · simp [allBlank, h]
    · rw [List.dropWhile_cons_of_pos h, ih, allBlank, allBlank, List.all_cons, h, Bool.true_and]

/-- Nothing is left of a text between its blanks when it is all blank. -/
theorem trim_eq_nil_iff {text : List Char} : trim text = [] ↔ allBlank text = true := by
  rw [← dropWhile_isBlank_eq_nil_iff]
  constructor
  · intro h
    match hd : text.dropWhile isBlank with
    | [] => rfl
    | c :: rest =>
      have hc : isBlank c = false := by
        have := List.head?_dropWhile_not isBlank text
        simpa [hd] using this
      have hall : (c :: rest).reverse.dropWhile isBlank = [] := by
        simpa [trim, hd] using h
      rw [dropWhile_isBlank_eq_nil_iff, allBlank, List.all_eq_true] at hall
      simp [hall c (by simp)] at hc
  · intro h
    simp [trim, h]

end SlideDeck.Text
