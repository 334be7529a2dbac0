/-!
# Decoding packed bytes

Packed bytes are read bit by bit while the bytes that they stand for are written. A decoder that stops
early leaves what it has written so far, because some formats take that for the content.
-/

namespace SlideDeck.Archive

/-- Why a decoder stops early. -/
inductive Stop where
  /-- The bits are used up. -/
  | ended
  /-- The bits make no sense. -/
  | damaged
  /-- What is there does not begin as its format demands. -/
  | foreign
  /-- A check that is packed with the bytes does not fit them. -/
  | mismatch
  /-- The bytes were packed with a dictionary, which is not at hand. -/
  | dictionaryMissing
  /-- The bytes refer to others that are farther back than a decoder keeps. -/
  | tooFarBack
  /-- The bytes are packed in a way that is reserved. -/
  | reserved
  /-- A code is to be used again, and there is none. -/
  | codeMissing
  /-- A part ends before all that it must hold. -/
  | cut
  /-- A part is to be split that is too small for it. -/
  | tooFew
  /-- A part holds more than there is room for. -/
  | noRoom
deriving Repr, DecidableEq

/-- The packed bytes, how many of their bits have been read, and the bytes written so far. -/
structure Decoding where
  bytes : ByteArray
  read : Nat
  output : ByteArray

/-- A step that reads bits and writes bytes. -/
abbrev Decoder (α : Type) := ExceptT Stop (StateM Decoding) α

/-- The result of a decoder on packed bytes, and where it has left them. -/
def Decoder.on {α : Type} (decoder : Decoder α) (bytes : ByteArray) : Except Stop α × Decoding :=
  (ExceptT.run decoder).run ⟨bytes, 0, ByteArray.empty⟩

/-- Stops at bits that make no sense, unless a condition holds. -/
def require (condition : Bool) : Decoder Unit :=
  if condition then pure () else throw .damaged

/-- How many steps are enough for a decoder each of whose steps reads a bit. -/
def enoughSteps : Decoder Nat := do
  pure (8 * (← get).bytes.size + 1)

/-! ## Reading -/

/-- Reads a bit. The bit at a place `place` of a byte, counted from the lowest, comes after
`order place` others. -/
def bitBy (order : Nat → Nat) : Decoder Nat := do
  let decoding ← get
  match decoding.bytes[decoding.read / 8]? with
  | none => throw .ended
  | some byte =>
    set { decoding with read := decoding.read + 1 }
    pure ((byte.toNat >>> order (decoding.read % 8)) % 2)

/-- Reads a bit, the lowest of a byte first. -/
def lowBit : Decoder Nat := bitBy id

/-- Reads a bit, the highest of a byte first. -/
def highBit : Decoder Nat := bitBy (7 - ·)

/-- Reads a number of so many bits, the lowest first. -/
def lowBits : (count : Nat) → Decoder Nat
  | 0 => pure 0
  | count + 1 => do
    let low ← lowBit
    let high ← lowBits count
    pure (low + 2 * high)

/-- Reads a number of so many bits behind those of `high`, the highest first. -/
def highBitsAfter (high : Nat) : (count : Nat) → Decoder Nat
  | 0 => pure high
  | count + 1 => do highBitsAfter (2 * high + (← highBit)) count

/-- Reads a number of so many bits, the highest first. -/
def highBits (count : Nat) : Decoder Nat := highBitsAfter 0 count

/-- Reads so many bytes, which start at a whole byte. -/
def take (count : Nat) : Decoder ByteArray := do
  let decoding ← get
  let start := decoding.read / 8
  if decoding.bytes.size < start + count then throw .ended
  set { decoding with read := 8 * (start + count) }
  pure (decoding.bytes.extract start (start + count))

/-- Whether all bits have been read. -/
def atEnd : Decoder Bool := do
  let decoding ← get
  pure (8 * decoding.bytes.size ≤ decoding.read)

/-- Passes over the bits up to the next whole byte. -/
def skipToByte : Decoder Unit :=
  modify fun decoding => { decoding with read := 8 * ((decoding.read + 7) / 8) }

/-! ## Writing -/

/-- Writes a byte. -/
def write (byte : UInt8) : Decoder Unit :=
  modify fun decoding => { decoding with output := decoding.output.push byte }

/-- Writes bytes. -/
def writeAll (bytes : ByteArray) : Decoder Unit :=
  modify fun decoding => { decoding with output := decoding.output ++ bytes }

/-- Writes so many of the bytes that come next, which start at a whole byte. -/
def copy : (count : Nat) → Decoder Unit
  | 0 => pure ()
  | count + 1 => do
    write (UInt8.ofNat (← lowBits 8))
    copy count

/-- The byte at a distance from the end. Before the first byte there are zeros. -/
def byteBack (output : ByteArray) (distance : Nat) : UInt8 :=
  if distance ≤ output.size then output[output.size - distance]?.getD 0 else 0

/-- Writes so many bytes, each of which repeats the one at the given distance before it. -/
def repeatBack (distance : Nat) : (count : Nat) → Decoder Unit
  | 0 => pure ()
  | count + 1 => do
    modify fun decoding =>
      { decoding with output := decoding.output.push (byteBack decoding.output distance) }
    repeatBack distance count

end SlideDeck.Archive
