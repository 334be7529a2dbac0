import SlideDeck.Bytes.Checksum
import SlideDeck.Bytes.Word
import SlideDeck.Picture.Format

/-!
# Headers of PNG images

A PNG file consists of chunks. The first one is the header, and what comes before the image data must be
sound, as far as it matters for reading them.
-/

namespace SlideDeck.Picture.Raster.Png

open Bytes (bigEndian? hasBytes)

/-! ## Chunks -/

/-- The number that the four letters of a type make. -/
def typeNumber (letters : String) : Nat :=
  letters.toList.foldl (fun number letter => 256 * number + letter.toNat) 0

/-- A chunk of a PNG file: its type, where its data start and how long they are. -/
structure Chunk where
  type : Nat
  start : Nat
  length : Nat

/-- The start of a chunk at an offset. -/
def chunk? (bytes : ByteArray) (offset : Nat) : Option Chunk := do
  let length ← bigEndian? bytes offset 4
  let type ← bigEndian? bytes (offset + 4) 4
  pure ⟨type, offset + 8, length⟩

/-- Whether the check of a chunk is right, if all of the chunk is there. -/
def Chunk.sound? (bytes : ByteArray) (chunk : Chunk) : Option Bool :=
  (bigEndian? bytes (chunk.start + chunk.length) 4).map fun stored =>
    (Bytes.crc32 (bytes.extract (chunk.start - 4) (chunk.start + chunk.length))).toNat == stored

/-- Whether a reader may pass over a chunk: the first letter of its type is lowercase. -/
def Chunk.isAncillary (chunk : Chunk) : Bool := chunk.type / 2 ^ 29 % 2 == 1

/-! ## The header -/

/-- What the header says: the size, the bits of a sample, and the type of colours. -/
structure Header where
  pixels : Pixels
  depth : Nat
  colour : Nat

/-- The depths that a type of colours allows. -/
def depths : (colour : Nat) → List Nat
  | 0 => [1, 2, 4, 8, 16]
  | 2 | 4 | 6 => [8, 16]
  | 3 => [1, 2, 4, 8]
  | _ => []

/-- The header, which is the first chunk. There is only one method each of compression and of filtering,
and two of interlacing. -/
def header? (bytes : ByteArray) : Option Header := do
  let chunk ← chunk? bytes 8
  let width ← bigEndian? bytes 16 4
  let height ← bigEndian? bytes 20 4
  let depth ← bigEndian? bytes 24 1
  let colour ← bigEndian? bytes 25 1
  let valid :=
    hasBytes bytes 0 [0x89, 0x50, 0x4E, 0x47, 0x0D, 0x0A, 0x1A, 0x0A] &&
    chunk.type == typeNumber "IHDR" && 13 ≤ chunk.length && chunk.sound? bytes == some true &&
    0 < width && 0 < height && (depths colour).contains depth &&
    hasBytes bytes 26 [0, 0] && (hasBytes bytes 28 [0] || hasBytes bytes 28 [1])
  if valid then some ⟨⟨width, height⟩, depth, colour⟩ else none

/-! ## What comes before the image data -/

/-- What has been seen before the image data: whether there is a palette, and whether there is a table of
transparent colours, how many bytes both take, and the number of the last frame of an animation. -/
structure Seen where
  palette : Bool
  transparency : Bool
  stored : Nat
  frame : Option Nat

/-- What has been seen with the palette, of which there is at most one, with 1 to 256 colours. -/
def withPalette? (chunk : Chunk) (seen : Seen) : Option Seen :=
  if seen.palette || chunk.length = 0 || 768 < chunk.length || chunk.length % 3 ≠ 0 then none
  else some { seen with palette := true, stored := seen.stored + chunk.length }

/-- What has been seen with the table of transparent colours. Further tables do not count, nor one that is
too short, comes before the palette that it belongs to, or has no use. -/
def withTransparency (header : Header) (chunk : Chunk) (seen : Seen) : Seen :=
  let counts := !seen.transparency && match header.colour with
    | 0 => 2 ≤ chunk.length
    | 2 => 6 ≤ chunk.length
    | 3 => seen.palette
    | _ => false
  if counts then { seen with transparency := true, stored := seen.stored + chunk.length } else seen

/-- What has been seen with the control of a frame. Frames are numbered from zero on, and before the image
data a frame is all of the image. -/
def withFrame? (bytes : ByteArray) (header : Header) (chunk : Chunk) (seen : Seen) : Option Seen := do
  let number ← bigEndian? bytes chunk.start 4
  let width ← bigEndian? bytes (chunk.start + 4) 4
  let height ← bigEndian? bytes (chunk.start + 8) 4
  let disposal ← bigEndian? bytes (chunk.start + 24) 1
  let blending ← bigEndian? bytes (chunk.start + 25) 1
  let expected := match seen.frame with
    | none => 0
    | some last => last + 1
  let valid :=
    26 ≤ chunk.length && number == expected && width == header.pixels.width &&
    height == header.pixels.height && hasBytes bytes (chunk.start + 12) [0, 0, 0, 0, 0, 0, 0, 0] &&
    disposal ≤ 2 && blending ≤ 1
  if valid then some { seen with frame := some number } else none

/-- What has been seen with a chunk. Of ancillary chunks whose check is wrong nothing is taken. -/
def withChunk? (bytes : ByteArray) (header : Header) (chunk : Chunk) (seen : Seen) : Option Seen :=
  match chunk.sound? bytes with
  | none => none
  | some false => if chunk.isAncillary then some seen else none
  | some true =>
    if chunk.type = typeNumber "IHDR" || chunk.type = typeNumber "IEND" then none
    else if chunk.type = typeNumber "PLTE" then withPalette? chunk seen
    else if chunk.type = typeNumber "tRNS" then some (withTransparency header chunk seen)
    else if chunk.type = typeNumber "fcTL" then withFrame? bytes header chunk seen
    else some seen

/-- What has been seen from an offset on up to the image data, or up to the data of a frame, if there are
any. -/
def seenFrom? (bytes : ByteArray) (header : Header) (offset : Nat) (seen : Seen) : Option Seen :=
  if _h : offset < bytes.size then
    match chunk? bytes offset with
    | none => none
    | some chunk =>
      if chunk.type = typeNumber "IDAT" then some seen
      else if chunk.type = typeNumber "fdAT" then
        if seen.frame.isSome && 4 ≤ chunk.length then some seen else none
      else
        match withChunk? bytes header chunk seen with
        | none => none
        | some seen => seenFrom? bytes header (offset + 12 + chunk.length) seen
  else none
termination_by bytes.size - offset

/-! ## The size -/

/-- The bytes of a row of pixels as they are read: numbers of colours are replaced by the colours, a table
of transparent colours adds opacities, and samples have 8 bits at least. -/
def rowBytes (header : Header) (seen : Seen) : Nat :=
  let channels := match header.colour with
    | 0 => if seen.transparency then 2 else 1
    | 2 | 3 => if seen.transparency then 4 else 3
    | 4 => 2
    | _ => 4
  header.pixels.width * channels * (if header.depth = 16 then 2 else 1)

/-- The most bytes that may be needed to read a row. -/
def maxBytes : Nat := 2 ^ 29

/-- The size of a PNG image. -/
def size? (bytes : ByteArray) : Option Pixels := do
  let header ← header? bytes
  let chunk ← chunk? bytes 8
  let seen ← seenFrom? bytes header (20 + chunk.length) ⟨false, false, 0, none⟩
  if maxBytes < rowBytes header seen + seen.stored then none
  pure header.pixels

end SlideDeck.Picture.Raster.Png
