import SlideDeck.Archive.Bzip2.Scrambling
import SlideDeck.Archive.PrefixCode
import SlideDeck.Bytes.Checksum

/-!
# Sorted blocks

The bzip2 format packs bytes in blocks. Runs of a block are shortened, its bytes are sorted by what follows
them, each byte is replaced by how recently it has been used, and those ranks are written in prefix codes.
A decoder takes these steps in reverse: `rankedBytes`, `unsort`, `unshorten?`.
-/

namespace SlideDeck.Archive.Bzip2

/-- Reads bytes, which must be these. -/
def expectBytes : (expected : List Nat) → Decoder Unit
  | [] => pure ()
  | byte :: rest => do
    let found ← highBits 8
    require (found == byte)
    expectBytes rest

/-- Reads so many bits as flags. -/
def flags (count : Nat) : Decoder (List Bool) :=
  (List.range count).mapM fun _ => do pure ((← highBit) == 1)

/-! ## Codes -/

/-- Counts ones up to a zero. There are fewer than `limit`. -/
def ones : (limit : Nat) → Decoder Nat
  | 0 => throw .damaged
  | limit + 1 => do
    let bit ← highBit
    if bit = 0 then pure 0
    else do
      let more ← ones limit
      pure (1 + more)

/-- The entry at a place of a list, and the list with that entry in front. -/
def toFront? {α : Type} (list : List α) (place : Nat) : Option (α × List α) :=
  list[place]?.map fun entry => (entry, entry :: list.eraseIdx place)

/-- The entries at places of a list, each of which goes to the front of it. -/
def ranked? {α : Type} : (list : List α) → (places : List Nat) → Option (List α)
  | _, [] => some []
  | list, place :: places => do
    let (entry, list) ← toFront? list place
    let entries ← ranked? list places
    pure (entry :: entries)

/-- The value that must be there for bits to make sense. -/
def orDamaged {α : Type} : Option α → Decoder α
  | some value => pure value
  | none => throw .damaged

/-- Reads the length of a code word by its steps from a length near it. -/
def codeLength (length : Nat) : (limit : Nat) → Decoder Nat
  | 0 => throw .ended
  | limit + 1 => do
    require (1 ≤ length && length ≤ 20)
    let more ← highBit
    if more = 0 then pure length
    else do
      let shorter ← highBit
      codeLength (if shorter = 1 then length - 1 else length + 1) limit

/-- Reads the lengths of so many code words, each by its steps from the one before. -/
def codeLengths (length : Nat) : (count : Nat) → Decoder (List Nat)
  | 0 => pure []
  | count + 1 => do
    let next ← codeLength length (← enoughSteps)
    let rest ← codeLengths next count
    pure (next :: rest)

/-- Reads a prefix code of so many symbols. -/
def prefixCode (count : Nat) : Decoder PrefixCode := do
  let first ← highBits 5
  let lengths ← codeLengths first count
  pure (.ofLengths 20 lengths)

/-- The most turns of a block that count. -/
def maxTurns : Nat := 18002

/-- Reads the codes of a block whose symbols are so many, in the order of their turns. -/
def turns (count : Nat) : Decoder (List PrefixCode) := do
  let codeCount ← highBits 3
  require (2 ≤ codeCount && codeCount ≤ 6)
  let turnCount ← highBits 15
  require (1 ≤ turnCount)
  let places ← (List.range turnCount).mapM fun _ => ones codeCount
  let numbers ← orDamaged (ranked? (List.range codeCount) (places.take maxTurns))
  let codes ← (List.range codeCount).mapM fun _ => prefixCode count
  orDamaged (numbers.mapM fun number => codes[number]?)

/-- The codes that are still to have their turns, and how many symbols the first of them still codes. -/
structure Turns where
  left : Nat
  codes : List PrefixCode

/-- How many symbols a code has in a turn. -/
def symbolsInTurn : Nat := 50

/-- Reads a symbol by the code whose turn it is. -/
def nextSymbol (turns : Turns) : Decoder (Nat × Turns) := do
  let turns := if turns.left = 0 then ⟨symbolsInTurn, turns.codes.tail⟩ else turns
  match turns.codes with
  | [] => throw .damaged
  | code :: _ =>
    let symbol ← code.symbol highBit
    pure (symbol, { turns with left := turns.left - 1 })

/-! ## Ranks -/

/-- Reads the bytes that a block uses, in ascending order. -/
def usedBytes : Decoder (List UInt8) := do
  let groups ← flags 16
  let used ← groups.mapM fun any => if any then flags 16 else pure (List.replicate 16 false)
  let bytes := used.flatten.zipIdx.filterMap fun (used, byte) =>
    if used then some (UInt8.ofNat byte) else none
  require (!bytes.isEmpty)
  pure bytes

/-- The bytes and so many more of one kind. -/
def appendTimes (bytes : ByteArray) (byte : UInt8) : (count : Nat) → ByteArray
  | 0 => bytes
  | count + 1 => appendTimes (bytes.push byte) byte count

/-- What is known while the ranks of a block are read: the bytes with the one that was used last in front,
the run of that byte as far as its length is known, the weight of the next digit of that length, and the
bytes so far. -/
structure Ranks where
  recent : List UInt8
  run : Nat
  weight : Nat
  bytes : ByteArray

/-- Ends a run. A block has room for so many bytes. -/
def Ranks.endRun (room : Nat) (ranks : Ranks) : Decoder Ranks := do
  require (ranks.bytes.size + ranks.run ≤ room)
  let byte := ranks.recent.head?.getD 0
  pure { ranks with run := 0, weight := 1, bytes := appendTimes ranks.bytes byte ranks.run }

/-- Reads ranks up to the symbol `last`, and gives the bytes that have them. The symbols 0 and 1 are the
digits, of values 1 and 2, of the length of a run. -/
def ranksFrom (room last : Nat) : (limit : Nat) → Turns → Ranks → Decoder ByteArray
  | 0, _, _ => throw .ended
  | limit + 1, turns, ranks => do
    let (symbol, turns) ← nextSymbol turns
    if symbol ≤ 1 then do
      require (ranks.weight < 2 ^ 21)
      let run := ranks.run + (symbol + 1) * ranks.weight
      ranksFrom room last limit turns { ranks with run, weight := 2 * ranks.weight }
    else do
      let ranks ← ranks.endRun room
      if symbol = last then pure ranks.bytes
      else do
        require (ranks.bytes.size < room)
        let (byte, recent) ← orDamaged (toFront? ranks.recent (symbol - 1))
        ranksFrom room last limit turns { ranks with recent, bytes := ranks.bytes.push byte }

/-- Reads the bytes of a block in their sorted order. -/
def rankedBytes (room : Nat) : Decoder ByteArray := do
  let used ← usedBytes
  -- besides the ranks but the lowest, there are two digits and an end
  let codes ← turns (used.length + 2)
  ranksFrom room (used.length + 1) (← enoughSteps) ⟨symbolsInTurn, codes⟩
    ⟨used, 0, 1, ByteArray.empty⟩

/-! ## Order -/

/-- The places of bytes in the order of their bytes. -/
def placesByByte (bytes : ByteArray) : Array Nat :=
  let collect (collected : Array (Array Nat)) (place : Nat) : Array (Array Nat) :=
    collected.modify (bytes[place]?.getD 0).toNat (·.push place)
  ((List.range bytes.size).foldl collect (Array.replicate 256 #[])).flatten

/-- Follows the places of bytes, so many times, and collects the bytes. -/
def follow (bytes : ByteArray) (places : Array Nat) : (count place : Nat) → ByteArray → ByteArray
  | 0, _, collected => collected
  | count + 1, place, collected =>
    let place := places[place]?.getD 0
    follow bytes places count place (collected.push (bytes[place]?.getD 0))

/-- The bytes that were sorted by what follows them. Of those sequels in ascending order, the first one
was at the place `origin`. -/
def unsort (bytes : ByteArray) (origin : Nat) : ByteArray :=
  follow bytes (placesByByte bytes) bytes.size origin ByteArray.empty

/-! ## Runs -/

/-- The bytes in which four equal ones are followed by a count of more of them, the last `run` of which
were `last`. -/
def unshortenFrom : (bytes : List UInt8) → (run : Nat) → (last : UInt8) → ByteArray → Option ByteArray
  | [], run, _, output => if run = 4 then none else some output
  | byte :: rest, run, last, output =>
    if run = 4 then unshortenFrom rest 0 last (appendTimes output last byte.toNat)
    else unshortenFrom rest (if byte = last then run + 1 else 1) byte (output.push byte)

/-- The bytes with runs at their full length. A count must be there. -/
def unshorten? (bytes : ByteArray) : Option ByteArray :=
  unshortenFrom bytes.toList 0 0 ByteArray.empty

/-! ## Blocks -/

/-- Writes what a block holds, and returns its check. -/
def block (level : Nat) : Decoder UInt32 := do
  let check ← highBits 32
  let scrambled ← highBit
  let origin ← highBits 24
  let room := 100000 * level
  require (origin ≤ room + 10)
  let sorted ← rankedBytes room
  require (origin < sorted.size)
  let unsorted := unsort sorted origin
  let bytes ← orDamaged (unshorten? (if scrambled = 1 then unscramble unsorted else unsorted))
  writeAll bytes
  require ((Bytes.crc32High bytes).toNat == check)
  pure (Bytes.crc32High bytes)

/-- Writes what the blocks hold up to the end, of which there are at most `limit`. The check at the end
joins those of all blocks. -/
def blocks (level : Nat) : (limit : Nat) → (joined : UInt32) → Decoder Unit
  | 0, _ => throw .ended
  | limit + 1, joined => do
    let first ← highBits 8
    if first = 0x17 then do
      expectBytes [0x72, 0x45, 0x38, 0x50, 0x90]
      let check ← highBits 32
      require (check == joined.toNat)
    else do
      require (first == 0x31)
      expectBytes [0x41, 0x59, 0x26, 0x53, 0x59]
      let check ← block level
      blocks level limit (((joined <<< 1) ||| (joined >>> 31)) ^^^ check)

/-- Reads bytes that must be those of the mark at the start. -/
def startMark : (expected : List Nat) → Decoder Unit
  | [] => pure ()
  | byte :: rest => do
    let found ← highBits 8
    if found ≠ byte then throw .foreign
    startMark rest

/-- Writes what packed bytes stand for. What follows the last block is left out. -/
def unpack : Decoder Unit := do
  -- `BZh`, and how many times 100000 bytes a block has room for
  startMark [0x42, 0x5A, 0x68]
  let digit ← highBits 8
  if digit < 0x31 ∨ 0x39 < digit then throw .foreign
  blocks (digit - 0x30) (← enoughSteps) 0

end SlideDeck.Archive.Bzip2
