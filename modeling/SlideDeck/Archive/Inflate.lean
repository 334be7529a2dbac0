import SlideDeck.Archive.PrefixCode
import SlideDeck.Archive.Span

/-!
# Inflating

Entries of an archive are mostly deflated: a stream of bits in blocks, each of which holds plain bytes
or symbols of two prefix codes. A symbol stands for a byte, for the end of the block, or for a length,
which a symbol of the other code follows that says how far back the bytes to repeat lie.
-/

namespace SlideDeck.Archive

/-- Writes plain bytes, which start at the next whole byte behind their length and its complement. -/
def plainBytes : Decoder Unit := do
  skipToByte
  let length ← lowBits 16
  let complement ← lowBits 16
  require (length + complement == 65535)
  copy length

/-! ## Lengths and distances -/

/-- The lengths that the symbols from 257 on stand for. The last one is an exception. -/
def lengthSpans : List Span :=
  spansFrom 3
    [0, 0, 0, 0, 0, 0, 0, 0, 1, 1, 1, 1, 2, 2, 2, 2, 3, 3, 3, 3, 4, 4, 4, 4, 5, 5, 5, 5] ++
  [⟨258, 0⟩]

/-- The distances that the symbols of the other code stand for. -/
def distanceSpans : List Span :=
  spansFrom 1
    [0, 0, 0, 0, 1, 1, 2, 2, 3, 3, 4, 4, 5, 5, 6, 6, 7, 7, 8, 8, 9, 9, 10, 10, 11, 11, 12, 12, 13, 13]

/-- Reads the rest of a number that a symbol stands for. -/
def spanned (spans : List Span) (symbol : Nat) : Decoder Nat :=
  match spans[symbol]? with
  | none => throw .damaged
  | some span => do
    let more ← lowBits span.extra
    pure (span.least + more)

/-! ## Blocks -/

/-- The codes of a block: that of bytes and lengths, and that of distances. -/
structure BlockCodes where
  literals : PrefixCode
  distances : PrefixCode

/-- Writes what the symbols of a block stand for up to its end, of which there are at most `limit`. -/
def symbols (codes : BlockCodes) : (limit : Nat) → Decoder Unit
  | 0 => throw .damaged
  | limit + 1 => do
    let symbol ← codes.literals.symbol lowBit
    if symbol < 256 then
      write (UInt8.ofNat symbol)
      symbols codes limit
    else if symbol = 256 then pure ()
    else do
      let length ← spanned lengthSpans (symbol - 257)
      let distance ← spanned distanceSpans (← codes.distances.symbol lowBit)
      repeatBack distance length
      symbols codes limit

/-- The codes of blocks that bring none. -/
def fixedCodes : BlockCodes where
  literals := .ofLengths 15 <|
    List.replicate 144 8 ++ List.replicate 112 9 ++ List.replicate 24 7 ++ List.replicate 8 8
  distances := .ofLengths 15 (List.replicate 32 5)

/-- The order in which a block gives the lengths of the code words for its code lengths. -/
def lengthOrder : List Nat := [16, 17, 18, 0, 8, 7, 9, 6, 10, 5, 11, 4, 12, 3, 13, 2, 14, 1, 15]

/-- Reads code lengths, until there are `count` of them. Each symbol gives at least one. -/
def codeLengths (code : PrefixCode) (count : Nat) : (limit : Nat) → List Nat → Decoder (List Nat)
  | 0, _ => throw .damaged
  | limit + 1, reversed =>
    if reversed.length = count then pure reversed.reverse
    else if count < reversed.length then throw .damaged
    else do
      let symbol ← code.symbol lowBit
      if symbol < 16 then codeLengths code count limit (symbol :: reversed)
      -- 16 repeats the last length, 17 and 18 stand for some and for many zeros
      else if symbol = 16 then
        match reversed with
        | [] => throw .damaged
        | last :: _ =>
          let times := 3 + (← lowBits 2)
          codeLengths code count limit (List.replicate times last ++ reversed)
      else do
        let times ← if symbol = 17 then (3 + ·) <$> lowBits 3 else (11 + ·) <$> lowBits 7
        codeLengths code count limit (List.replicate times 0 ++ reversed)

/-- The code of symbols with words of the given lengths. It must be complete, but a code of a single
symbol, or of none, has no use for all of its words. -/
def codeOf (lengths : List Nat) : Decoder PrefixCode := do
  let code := PrefixCode.ofLengths 15 lengths
  require (code.isComplete || code.symbols.size ≤ 1)
  pure code

/-- Reads the codes that a block brings. -/
def ownCodes : Decoder BlockCodes := do
  let literals := 257 + (← lowBits 5)
  let distances := 1 + (← lowBits 5)
  let given := 4 + (← lowBits 4)
  -- the last symbols of both codes stand for nothing
  require (literals ≤ 286 && distances ≤ 30)
  let lengths ← (List.range given).mapM fun _ => lowBits 3
  let table := lengthOrder.zip lengths
  let code ← codeOf ((List.range 19).map fun n => (table.lookup n).getD 0)
  require code.isComplete
  let all ← codeLengths code (literals + distances) (literals + distances + 1) []
  let distanceCode ← codeOf (all.drop literals)
  let literalCode ← codeOf (all.take literals)
  pure ⟨literalCode, distanceCode⟩

/-- Writes what the blocks hold up to the last one, of which there are at most `limit`. -/
def blocks : (limit : Nat) → Decoder Unit
  | 0 => throw .damaged
  | limit + 1 => do
    let last ← lowBit
    let kind ← lowBits 2
    let most ← enoughSteps
    match kind with
    | 0 => plainBytes
    | 1 => symbols fixedCodes most
    | 2 => do symbols (← ownCodes) most
    | _ => throw .damaged
    if last = 1 then pure () else blocks limit

/-- The bytes that deflated bytes stand for. If they end early, it is what they have given up to there.
Each block and each symbol has a bit of its own, so none is left out for want of steps. -/
def inflate? (bytes : ByteArray) : Option ByteArray :=
  match (blocks (8 * bytes.size + 1)).on bytes with
  | (.error .damaged, _) => none
  | (_, decoding) => some decoding.output

end SlideDeck.Archive
