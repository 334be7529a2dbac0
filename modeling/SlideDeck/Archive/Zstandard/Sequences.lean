import SlideDeck.Archive.Span
import SlideDeck.Archive.Zstandard.StateCode

/-!
# Sequences

What a block repeats is told by its sequences: each takes some literals over and then repeats bytes from
farther back. The numbers of a sequence are written in three state codes, by symbols that stand for spans
of numbers. A code may be a common one, that of a single symbol, one that the block brings, or the one of
the block before.
-/

namespace SlideDeck.Archive.Zstandard

/-! ## Codes -/

/-- A number of sequences: the common code of its symbols, the last symbol, and how many states a code may
have. -/
structure Field where
  common : StateCode
  last : Nat
  maxLog : Nat

/-- How many literals are taken over. -/
def literalField : Field where
  common := .ofShares 6 <|
    [4, 3] ++ List.replicate 11 2 ++ [1, 1, 1] ++ List.replicate 9 2 ++ [3, 2, 1, 1, 1, 1, 1] ++
    List.replicate 4 (-1)
  last := 35
  maxLog := 9

/-- How far back the bytes to repeat are. -/
def distanceField : Field where
  common := .ofShares 5 <|
    List.replicate 6 1 ++ [2, 2, 2] ++ List.replicate 15 1 ++ List.replicate 5 (-1)
  last := 31
  maxLog := 8

/-- How many bytes are repeated. -/
def lengthField : Field where
  common := .ofShares 6 <|
    [1, 4, 3] ++ List.replicate 6 2 ++ List.replicate 37 1 ++ List.replicate 7 (-1)
  last := 52
  maxLog := 9

/-- The counts of literals that symbols stand for. -/
def literalSpans : Array Span :=
  (spansFrom 0 (List.replicate 16 0 ++
    [1, 1, 1, 1, 2, 2, 3, 3, 4, 6, 7, 8, 9, 10, 11, 12, 13, 14, 15, 16])).toArray

/-- The counts of repeated bytes that symbols stand for. -/
def lengthSpans : Array Span :=
  (spansFrom 3 (List.replicate 32 0 ++
    [1, 1, 1, 1, 2, 2, 3, 3, 4, 4, 5, 7, 8, 9, 10, 11, 12, 13, 14, 15, 16])).toArray

/-- The codes of the numbers of sequences. -/
structure Codes where
  literals : StateCode
  distances : StateCode
  lengths : StateCode

/-- Reads a code at an offset, in the way of that number, and where it ends. -/
def code? (field : Field) (way : Nat) (before : Option StateCode) (content : ByteArray) (offset : Nat) :
    Option (StateCode × Nat) :=
  match way with
  | 0 => some (field.common, offset)
  | 1 => do
    let symbol := (← content[offset]?).toNat
    if field.last < symbol then none
    pure (.constant symbol, offset + 1)
  | 2 => do
    let (code, size) ←
      StateCode.ofDescription? (content.extract offset content.size) field.last field.maxLog
    pure (code, offset + size)
  | _ => before.map (·, offset)

/-- Reads the codes behind an offset, at which the ways are told in which they are given, and where they
end. -/
def codes? (before : Option Codes) (content : ByteArray) (offset : Nat) : Option (Codes × Nat) := do
  let way (place : Nat) : Nat := bitsAt content (8 * offset + place) 2
  if way 0 ≠ 0 then none
  let (literals, next) ←
    code? literalField (way 6) (before.map (·.literals)) content (offset + 1)
  let (distances, next) ← code? distanceField (way 4) (before.map (·.distances)) content next
  let (lengths, stop) ← code? lengthField (way 2) (before.map (·.lengths)) content next
  pure (⟨literals, distances, lengths⟩, stop)

/-! ## Reading -/

/-- A sequence: how many literals it takes over, what it tells of the distance, and how many bytes it
repeats. -/
structure Sequence where
  literals : Nat
  distance : Nat
  length : Nat

/-- The states of the walks through three codes. -/
structure Walks where
  literals : Nat
  distances : Nat
  lengths : Nat

/-- Reads the number that a symbol stands for, which has a span. -/
def spanned? (spans : Array Span) (symbol : Nat) (bits : Backward) : Option (Nat × Backward) := do
  let span ← spans[symbol]?
  let (more, bits) ← bits.read? span.extra
  pure (span.least + more, bits)

/-- Reads the sequence at a state of the walks. -/
def sequence? (codes : Codes) (walks : Walks) (bits : Backward) : Option (Sequence × Backward) := do
  let wide := (codes.distances.state walks.distances).symbol
  let (more, bits) ← bits.read? wide
  let (length, bits) ← spanned? lengthSpans (codes.lengths.state walks.lengths).symbol bits
  let (literals, bits) ← spanned? literalSpans (codes.literals.state walks.literals).symbol bits
  pure (⟨literals, 2 ^ wide + more, length⟩, bits)

/-- Reads so many sequences, at the end of which the bits must end. The walks go on between two. -/
def sequencesFrom? (codes : Codes) : (count : Nat) → Walks → Backward → (reversed : List Sequence) →
    Option (List Sequence)
  | 0, _, bits, reversed => if bits.left = 0 then some reversed.reverse else none
  | count + 1, walks, bits, reversed => do
    let (sequence, bits) ← sequence? codes walks bits
    if count = 0 then sequencesFrom? codes 0 walks bits (sequence :: reversed)
    else
      let (literals, bits) ← codes.literals.next? walks.literals bits
      let (lengths, bits) ← codes.lengths.next? walks.lengths bits
      let (distances, bits) ← codes.distances.next? walks.distances bits
      sequencesFrom? codes count ⟨literals, distances, lengths⟩ bits (sequence :: reversed)

/-- Reads so many sequences from bytes. -/
def packedSequences? (codes : Codes) (count : Nat) (packed : ByteArray) : Option (List Sequence) := do
  let bits ← Backward.ofBytes? packed
  let (literals, bits) ← codes.literals.first? bits
  let (distances, bits) ← codes.distances.first? bits
  let (lengths, bits) ← codes.lengths.first? bits
  sequencesFrom? codes count ⟨literals, distances, lengths⟩ bits []

/-- Reads how many sequences there are, and where the count ends. -/
def sequenceCount? (content : ByteArray) (offset : Nat) : Option (Nat × Nat) := do
  let first := (← content[offset]?).toNat
  if first < 128 then pure (first, offset + 1)
  else
    let second := (← content[offset + 1]?).toNat
    if first < 255 then pure (256 * (first - 128) + second, offset + 2)
    else
      let third := (← content[offset + 2]?).toNat
      pure (second + 256 * third + 0x7F00, offset + 3)

/-- The sequences of a block, which start at an offset, and their codes. -/
def sequences (content : ByteArray) (offset : Nat) (before : Option Codes) :
    Except Stop (List Sequence × Option Codes) := do
  let some (count, offset) := sequenceCount? content offset | .error .cut
  if count = 0 then
    demand (offset == content.size) .damaged
    pure ([], before)
  else
    demand (offset < content.size) .cut
    let (codes, offset) ← orDamaged (codes? before content offset)
    let sequences ← orDamaged (packedSequences? codes count (content.extract offset content.size))
    pure (sequences, some codes)

/-! ## Distances -/

/-- The distances of late, the last one first. -/
structure Recent where
  first : Nat
  second : Nat
  third : Nat

/-- The distances before the first sequence. -/
def Recent.start : Recent := ⟨1, 4, 8⟩

/-- The distance of a sequence, and those of late behind it. The numbers up to 3 mean one of late, or of
a sequence without literals the one after it; the last of them is then one below the last distance. -/
def Recent.distance (recent : Recent) (sequence : Sequence) : Nat × Recent :=
  if 3 < sequence.distance then
    (sequence.distance - 3, ⟨sequence.distance - 3, recent.first, recent.second⟩)
  else
    match if sequence.literals = 0 then sequence.distance + 1 else sequence.distance with
    | 1 => (recent.first, recent)
    | 2 => (recent.second, ⟨recent.second, recent.first, recent.third⟩)
    | 3 => (recent.third, ⟨recent.third, recent.first, recent.second⟩)
    | _ => (recent.first - 1, ⟨recent.first - 1, recent.first, recent.second⟩)

end SlideDeck.Archive.Zstandard
