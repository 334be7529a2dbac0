/-!
# Sets of characters given by ranges

The character classes of the Unicode standard are tables of ranges of code points. A table here is
a list of such ranges, both ends included, and `Ranges.contains` is membership in their union.
-/

namespace SlideDeck.Text

/-- A set of characters: the union of ranges of code points, both ends of a range included. -/
abbrev Ranges := List (Nat × Nat)

/-- Whether a character lies in one of the ranges. -/
def Ranges.contains (ranges : Ranges) (c : Char) : Bool :=
  ranges.any fun range => range.1 ≤ c.toNat && c.toNat ≤ range.2

end SlideDeck.Text
