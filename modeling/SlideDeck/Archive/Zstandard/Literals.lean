import SlideDeck.Archive.Zstandard.StateCode

/-!
# Literals

The bytes of a block that repeat nothing are its literals. They are stored as they are, as one byte and a
count, or in a prefix code, which the block brings or a block before it has brought. The code is given by
the weights of the bytes: each step up halves the length of the code word.
-/

namespace SlideDeck.Archive.Zstandard

/-! ## Weights -/

/-- The weights that a walk through two codes in turn stands for, the first at state `number`, the second
at `other`. The walk ends when bits are missing. There are at most `limit` weights. -/
def weightsFrom? (code : StateCode) : (limit : Nat) → (number other : Nat) → Backward →
    Option (List Nat)
  | 0, _, _, _ => none
  | limit + 1, number, other, bits =>
    let weight := (code.state number).symbol
    match code.next? number bits with
    | none => if limit = 0 then none else some [weight, (code.state other).symbol]
    | some (next, bits) => (weightsFrom? code limit other next bits).map (weight :: ·)

/-- The greatest count of weights that are given. -/
def maxWeights : Nat := 255

/-- The weights that packed bytes stand for. -/
def packedWeights? (bytes : ByteArray) : Option (List Nat) := do
  let (code, size) ← StateCode.ofDescription? bytes 255 6
  let bits ← Backward.ofBytes? (bytes.extract size bytes.size)
  let (first, bits) ← code.first? bits
  let (second, bits) ← code.first? bits
  weightsFrom? code maxWeights first second bits

/-- So many weights of half a byte each, the higher half first. -/
def plainWeights (bytes : ByteArray) (count : Nat) : List Nat :=
  ((bytes.toList.flatMap fun byte => [byte.toNat / 16, byte.toNat % 16])).take count

/-- Reads the weights but the last one, and how many bytes they take. -/
def weights? (bytes : ByteArray) : Option (List Nat × Nat) := do
  let size := (← bytes[0]?).toNat
  if size < 128 then
    if bytes.size < size + 1 then none
    pure (← packedWeights? (bytes.extract 1 (size + 1)), size + 1)
  else
    let count := size - 127
    let size := (count + 1) / 2
    if bytes.size < size + 1 then none
    pure (plainWeights (bytes.extract 1 (size + 1)) count, size + 1)

/-! ## The code -/

/-- What the next bits stand for: a byte, and the length of its code word. -/
structure CodeWord where
  byte : UInt8
  length : Nat
deriving Inhabited

/-- A prefix code, by what each pattern of `log` bits begins with. -/
structure ByteCode where
  log : Nat
  words : Array CodeWord

/-- The length of the longest code word. -/
def maxWord : Nat := 12

/-- The code of bytes with the given weights and the last one, which fills up what is left. -/
def ByteCode.ofWeights? (weights : List Nat) : Option ByteCode := do
  let total := weights.foldl (fun total weight => total + 2 ^ weight / 2) 0
  let log := total.log2 + 1
  let rest := 2 ^ log - total
  let all := weights ++ [rest.log2 + 1]
  let least := all.count 1
  let valid := weights.all (· ≤ maxWord) && total ≠ 0 && log ≤ maxWord && rest == 2 ^ rest.log2 &&
    2 ≤ least && least % 2 == 0
  if !valid then none
  let ofWeight (weight : Nat) : List CodeWord :=
    (all.zipIdx.filter (·.1 == weight)).flatMap fun (_, byte) =>
      List.replicate (2 ^ (weight - 1)) ⟨UInt8.ofNat byte, log + 1 - weight⟩
  pure ⟨log, ((List.range' 1 log).flatMap ofWeight).toArray⟩

/-- Reads so many bytes, at the end of which the bits must end. -/
def ByteCode.bytes? (code : ByteCode) : (count : Nat) → Backward → ByteArray → Option ByteArray
  | 0, bits, output => if bits.left = 0 then some output else none
  | count + 1, bits, output => do
    let word := code.words[bits.peek code.log]?.getD default
    let bits ← bits.skip? word.length
    code.bytes? count bits (output.push word.byte)

/-- The bytes that packed ones stand for, `count` of them. -/
def ByteCode.unpack? (code : ByteCode) (packed : ByteArray) (count : Nat) (output : ByteArray) :
    Option ByteArray := do
  code.bytes? count (← Backward.ofBytes? packed) output

/-- The bytes that four parts stand for. The sizes of three of them are in front. -/
def ByteCode.unpackFour? (code : ByteCode) (packed : ByteArray) (count : Nat) : Option ByteArray := do
  let first := bitsAt packed 0 16
  let second := bitsAt packed 16 16
  let third := bitsAt packed 32 16
  let share := (count + 3) / 4
  if packed.size < 10 || packed.size < 6 + first + second + third || count < 3 * share then none
  let ends := [6, 6 + first, 6 + first + second, 6 + first + second + third, packed.size]
  let counts := [share, share, share, count - 3 * share]
  ((ends.zip ends.tail).zip counts).foldlM
    (fun output ((start, stop), count) => code.unpack? (packed.extract start stop) count output)
    ByteArray.empty

/-! ## Sections -/

/-- The literals of a block: the bytes, the code that later blocks may use again, and where the section
ends. -/
structure Literals where
  bytes : ByteArray
  code : Option ByteCode
  stop : Nat

/-- The literals in bytes with a code of prefixes. The header gives the counts of literals and of bytes. -/
def codedLiterals (content : ByteArray) (most : Nat) (before : Option ByteCode) (brings : Bool)
    (form : Nat) : Except Stop Literals := do
  demand (brings || before.isSome) .codeMissing
  demand (5 ≤ content.size) .damaged
  let (headerSize, width) := if form ≤ 1 then (3, 10) else if form = 2 then (4, 14) else (5, 18)
  let count := bitsAt content 4 width
  let stop := headerSize + bitsAt content (4 + width) width
  demand (count ≤ most) .damaged
  demand (form = 0 || 6 ≤ count) .tooFew
  demand (stop ≤ content.size) .damaged
  let packed := content.extract headerSize stop
  let (code, size) ← if brings then
      orDamaged do
        let (weights, size) ← weights? packed
        pure (← ByteCode.ofWeights? weights, size)
    else do pure (← orDamaged before, 0)
  let packed := packed.extract size packed.size
  let bytes ← orDamaged <|
    if form = 0 then code.unpack? packed count ByteArray.empty else code.unpackFour? packed count
  pure ⟨bytes, some code, stop⟩

/-- The literals of a block, at most `most` of them. -/
def literals (content : ByteArray) (most : Nat) (before : Option ByteCode) : Except Stop Literals := do
  demand (2 ≤ content.size) .damaged
  let kind := bitsAt content 0 2
  let form := bitsAt content 2 2
  if kind = 2 then codedLiterals content most before true form
  else if kind = 3 then codedLiterals content most before false form
  else
    let (headerSize, count) :=
      if form % 2 = 0 then (1, bitsAt content 3 5)
      else if form = 1 then (2, bitsAt content 4 12)
      else (3, bitsAt content 4 20)
    if kind = 0 then
      demand (headerSize ≤ content.size) .damaged
      demand (count ≤ most) .noRoom
      demand (headerSize + count ≤ content.size) .damaged
      pure ⟨content.extract headerSize (headerSize + count), before, headerSize + count⟩
    else
      let byte ← orDamaged content[headerSize]?
      demand (count ≤ most) .damaged
      pure ⟨⟨Array.replicate count byte⟩, before, headerSize + 1⟩

end SlideDeck.Archive.Zstandard
