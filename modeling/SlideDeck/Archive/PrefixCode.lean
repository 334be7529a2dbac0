import SlideDeck.Archive.Decoding
import SlideDeck.Number.Power

/-!
# Prefix codes

A prefix code gives symbols code words none of which begins another. The codes here are fixed by the
lengths of their words alone: shorter words come first, and of equally long words those of lower symbols.
-/

namespace SlideDeck.Archive

/-- A prefix code: how many words there are of each length from one bit on, and the symbols in the order
of their words. -/
structure PrefixCode where
  counts : List Nat
  symbols : Array Nat

namespace PrefixCode

/-- The code in which the symbols have words of the given lengths, up to `most`. Those of length zero
have none. -/
def ofLengths (most : Nat) (lengths : List Nat) : PrefixCode :=
  let ofLength (length : Nat) : List Nat :=
    (lengths.zipIdx.filter (·.1 == length)).map (·.2)
  let symbols := (List.range' 1 most).map ofLength
  ⟨symbols.map List.length, symbols.flatten.toArray⟩

/-- Of the bit patterns that are as long as the longest words, how many begin with a word. -/
def covered (counts : List Nat) : Nat := counts.foldl (fun total count => 2 * total + count) 0

/-- Whether each sequence of bits begins with a word, and with one only. -/
def isComplete (code : PrefixCode) : Bool := covered code.counts == 2 ^ code.counts.length

/-- Reads a symbol whose word is longer than what has been read of it. Of the words of the next length
`first` is the least; `index` symbols have shorter words. -/
def symbolFrom (bit : Decoder Nat) (symbols : Array Nat) :
    (counts : List Nat) → (index first word : Nat) → Decoder Nat
  | [], _, _, _ => throw .damaged
  | count :: counts, index, first, word => do
    let word := 2 * word + (← bit)
    if word < first + count then
      match symbols[index + (word - first)]? with
      | some symbol => pure symbol
      | none => throw .damaged
    else symbolFrom bit symbols counts (index + count) (2 * (first + count)) word

/-- Reads a symbol, with bits as `bit` reads them. -/
def symbol (code : PrefixCode) (bit : Decoder Nat) : Decoder Nat :=
  symbolFrom bit code.symbols code.counts 0 0 0

end PrefixCode

end SlideDeck.Archive
