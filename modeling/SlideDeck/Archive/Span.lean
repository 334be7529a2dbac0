import SlideDeck.Number.Power

/-!
# Spans of numbers

A symbol may stand for a span of numbers, one of which is picked by bits that follow.
-/

namespace SlideDeck.Archive

/-- A number by its least value and the count of bits that are added to it. -/
structure Span where
  least : Nat
  extra : Nat

/-- The spans with these counts of bits, each of which starts where the one before ends. -/
def spansFrom (least : Nat) : (extras : List Nat) → List Span
  | [] => []
  | extra :: rest => ⟨least, extra⟩ :: spansFrom (least + 2 ^ extra) rest

end SlideDeck.Archive
