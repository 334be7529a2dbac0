/-!
# Splitting text

`splitAt` cuts a text at every occurrence of a separating character, and `lines` cuts it at line
ends, which are written LF or CRLF.
-/

namespace SlideDeck.Text

/-- The pieces of a list between the elements that satisfy `p`; there is always at least one. -/
def splitWhere (p : Char → Bool) : List Char → List (List Char)
  | [] => [[]]
  | c :: rest =>
    if p c then [] :: splitWhere p rest
    else match splitWhere p rest with
      | [] => [[c]]
      | piece :: pieces => (c :: piece) :: pieces

/-- The pieces of a text between the occurrences of a separator. -/
def splitAt (separator : Char) (text : List Char) : List (List Char) :=
  splitWhere (· == separator) text

/-- The pieces, with a separator between each two of them. -/
def join (separator : List Char) : List (List Char) → List Char
  | [] => []
  | [piece] => piece
  | piece :: pieces => piece ++ separator ++ join separator pieces

/-- A line without the CR that precedes its LF. -/
def dropReturn (line : List Char) : List Char :=
  if line.getLast? = some '\r' then line.dropLast else line

/-- The lines of a text. A line ends at LF or CRLF; a CR elsewhere belongs to its line, and what
follows the last line end is a line only if there is something there. -/
def lines (text : List Char) : List (List Char) :=
  let pieces := splitAt '\n' text
  let whole := pieces.dropLast.map dropReturn
  match pieces.getLast? with
  | none | some [] => whole
  | some rest => whole ++ [rest]

/-- The text with each CRLF written as a single LF. -/
def joinReturns : List Char → List Char
  | '\r' :: '\n' :: rest => '\n' :: joinReturns rest
  | c :: rest => c :: joinReturns rest
  | [] => []

/-- Every text has a piece. -/
theorem splitWhere_ne_nil (p : Char → Bool) (text : List Char) : splitWhere p text ≠ [] := by
  induction text with
  | nil => simp [splitWhere]
  | cons c rest ih =>
    rw [splitWhere]
    split
    · simp
    · split <;> simp

/-- The pieces of a text make it again. -/
theorem join_splitAt (separator : Char) (text : List Char) :
    join [separator] (splitAt separator text) = text := by
  unfold splitAt
  induction text with
  | nil => rfl
  | cons c rest ih =>
    have hne := splitWhere_ne_nil (· == separator) rest
    by_cases hc : c = separator
    · subst hc
      match hs : splitWhere (· == c) rest with
      | [] => exact absurd hs hne
      | piece :: pieces => simp [splitWhere, hs, join, hs ▸ ih]
    · match hs : splitWhere (· == separator) rest with
      | [] => exact absurd hs hne
      | [piece] =>
        rw [hs] at ih
        simp [splitWhere, hs, hc, join] at ih ⊢
        exact ih
      | piece :: next :: pieces =>
        rw [hs] at ih
        simp [splitWhere, hs, hc, join] at ih ⊢
        exact ih

end SlideDeck.Text
