import SlideDeck.Archive.Zstandard.Literals
import SlideDeck.Archive.Zstandard.Sequences
import SlideDeck.Bytes.WideHash

/-!
# Frames

The Zstandard format packs bytes in frames, which follow one another. A frame has a header and blocks; a
block holds plain bytes, one byte and a count, or literals and sequences. A frame may also hold bytes that
are to be passed over.
-/

namespace SlideDeck.Archive.Zstandard

/-! ## Blocks -/

/-- What the blocks of a frame hand on: the code of literals, those of sequences, and the distances of
late. -/
structure Memory where
  literals : Option ByteCode
  sequences : Option Codes
  recent : Recent

/-- What sequences are carried out on: the distances of late, the literals that are left start at `taken`,
and the bytes so far. -/
structure Progress where
  recent : Recent
  taken : Nat
  output : ByteArray

/-- The bytes and so many more, each of which repeats the one at the given distance before it. -/
def appendBack (distance : Nat) : (count : Nat) → (output : ByteArray) → ByteArray
  | 0, output => output
  | count + 1, output => appendBack distance count (output.push (byteBack output distance))

/-- Carries a sequence out. It cannot reach bytes before `start`, where the frame starts. -/
def Progress.after (start : Nat) (literals : ByteArray) (progress : Progress) (sequence : Sequence) :
    Except Stop Progress := do
  let taken := progress.taken + sequence.literals
  demand (taken ≤ literals.size) .damaged
  let output := progress.output ++ literals.extract progress.taken taken
  let (distance, recent) := progress.recent.distance sequence
  demand (1 ≤ distance && start + distance ≤ output.size) .damaged
  pure ⟨recent, taken, appendBack distance sequence.length output⟩

/-- The bytes behind a packed block, which holds at most `most`, and what it hands on. -/
def packedBlock (content : ByteArray) (start most : Nat) (memory : Memory) (output : ByteArray) :
    Except Stop (ByteArray × Memory) := do
  let literals ← literals content most memory.literals
  let (sequences, codes) ← sequences content literals.stop memory.sequences
  let progress ←
    sequences.foldlM (Progress.after start literals.bytes) ⟨memory.recent, 0, output⟩
  let bytes := progress.output ++ literals.bytes.extract progress.taken literals.bytes.size
  pure (bytes, ⟨literals.code, codes, progress.recent⟩)

/-- Stops as told. -/
def ofExcept {α : Type} : Except Stop α → Decoder α
  | .ok value => pure value
  | .error stop => throw stop

/-- Writes what a packed block of the given size holds. -/
def writePacked (size start most : Nat) (memory : Memory) : Decoder Memory := do
  let content ← take size
  -- the bytes are handed over, so that they need not be copied
  let output ← modifyGet fun decoding => (decoding.output, { decoding with output := ByteArray.empty })
  let (output, memory) ← ofExcept (packedBlock content start most memory output)
  modify fun decoding => { decoding with output }
  pure memory

/-- Writes what blocks hold up to the last one, of which there are at most `limit`. None of them holds more
than `most` bytes. -/
def blocks (start most : Nat) : (limit : Nat) → Memory → Decoder Unit
  | 0, _ => throw .ended
  | limit + 1, memory => do
    let last ← lowBit
    let kind ← lowBits 2
    let size ← lowBits 21
    if kind = 3 then throw .damaged
    -- of bytes that are all the same, one is stored
    require ((if kind = 1 then 1 else size) ≤ most)
    let written := (← get).output.size
    let memory ← match kind with
      | 0 => do
        writeAll (← take size)
        pure memory
      | 1 => do
        let byte ← lowBits 8
        writeAll ⟨Array.replicate size (UInt8.ofNat byte)⟩
        pure memory
      | _ => writePacked size start most memory
    require ((← get).output.size ≤ written + most)
    if last = 1 then pure () else blocks start most limit memory

/-! ## Frames -/

/-- What a header tells of a frame: how far back it reaches, the count of its bytes if it is known, and
whether there is a check at its end. -/
structure Header where
  window : Nat
  size : Option Nat
  checked : Bool

/-- The farthest that a decoder reaches back. -/
def maxWindow : Nat := 2 ^ 27 + 1

/-- Reads the header of a frame behind its mark. -/
def header : Decoder Header := do
  let dictionaryForm ← lowBits 2
  let checked ← lowBit
  let reserved ← lowBit
  let _ ← lowBit
  let single ← lowBit
  let sizeForm ← lowBits 2
  let reach ← if single = 1 then pure none else some <$> lowBits 8
  let dictionary ← lowBits (8 * (if dictionaryForm = 3 then 4 else dictionaryForm))
  let size ← match sizeForm with
    | 0 => if single = 1 then some <$> lowBits 8 else pure none
    | 1 => do pure (some (256 + (← lowBits 16)))
    | 2 => some <$> lowBits 32
    | _ => some <$> lowBits 64
  if reserved = 1 then throw .reserved
  let window := match reach with
    | none => size.getD 0
    -- the low bits count eighths
    | some reach => 2 ^ (10 + reach / 8) / 8 * (8 + reach % 8)
  if reach.any (22 ≤ · / 8) then throw .tooFarBack
  if dictionary ≠ 0 then throw .dictionaryMissing
  if maxWindow < window then throw .tooFarBack
  pure ⟨window, size, checked == 1⟩

/-- The most bytes in a block. -/
def maxBlock : Nat := 2 ^ 17

/-- Writes what a frame holds, behind its mark. -/
def frame : Decoder Unit := do
  let header ← header
  let start := (← get).output.size
  blocks start (min maxBlock header.window) (← enoughSteps) ⟨none, none, .start⟩
  let written := (← get).output
  require (header.size.all (· == written.size - start))
  if header.checked then
    let check ← lowBits 32
    let hash := Bytes.WideHash.hash (written.extract start written.size)
    if check ≠ hash.toNat % 2 ^ 32 then throw .mismatch

/-- Reads bytes that must be those of a mark. -/
def mark : (expected : List Nat) → Decoder Unit
  | [] => pure ()
  | byte :: rest => do
    let found ← lowBits 8
    if found ≠ byte then throw .foreign
    mark rest

/-- Writes what frames hold, of which there are at most `limit`. At least one must be there. -/
def frames : (limit : Nat) → Decoder Unit
  | 0 => throw .ended
  | limit + 1 => do
    let first ← lowBits 8
    if first / 16 = 5 then do
      -- a frame to be passed over
      mark [0x2A, 0x4D, 0x18]
      let size ← lowBits 32
      let _ ← take size
      if ← atEnd then pure () else frames limit
    else do
      if first ≠ 0x28 then throw .foreign
      mark [0xB5, 0x2F, 0xFD]
      frame
      if ← atEnd then pure () else frames limit

/-- Writes what packed bytes stand for. -/
def unpack : Decoder Unit := do frames (← enoughSteps)

end SlideDeck.Archive.Zstandard
