import SlideDeck.Bytes.Checksum
import SlideDeck.Bytes.Word

/-!
# Writing PNG images

`encode` writes an image whose pixels are numbers of colours in a palette. The pixels are stored as they
are, in the blocks of plain bytes that the format allows.
-/

namespace SlideDeck.Picture.Png

/-- A colour with its opacity. -/
structure Colour where
  red : UInt8
  green : UInt8
  blue : UInt8
  opacity : UInt8
deriving Repr, DecidableEq

/-- Bytes in the given order. -/
def bytes (list : List UInt8) : ByteArray := ⟨list.toArray⟩

/-- A chunk: the length of its data, its type, the data, and the check of the latter two. -/
def chunk (type : String) (data : ByteArray) : ByteArray :=
  let checked := type.toUTF8 ++ data
  bytes (Bytes.bigEndian 4 data.size) ++ checked ++
    bytes (Bytes.bigEndian 4 (Bytes.crc32 checked).toNat)

/-- The most plain bytes that a block can hold. -/
def maxBlock : Nat := 65535

/-- The block of plain bytes from an offset on. -/
def block (data : ByteArray) (offset : Nat) : ByteArray :=
  let plain := data.extract offset (offset + maxBlock)
  let last : Nat := if data.size < offset + maxBlock then 1 else 0
  Bytes.fields [(1, last), (2, plain.size), (2, maxBlock - plain.size)] ++ plain

/-- A compressed stream with the data in blocks of plain bytes. -/
def stream (data : ByteArray) : ByteArray :=
  let offsets := (List.range (data.size / maxBlock + 1)).map (maxBlock * ·)
  offsets.foldl (fun output offset => output ++ block data offset) (bytes [0x78, 0x01]) ++
    bytes (Bytes.bigEndian 4 (Bytes.adler32 data))

/-- The rows of an image, each behind the mark that its pixels are stored as they are. -/
def rows (width height : Nat) (pixels : ByteArray) : ByteArray :=
  (List.range height).foldl
    (fun output row => output.push 0 ++ pixels.extract (row * width) ((row + 1) * width)) ByteArray.empty

/-- The image of the given size whose pixels, row by row, have the colours with these numbers. -/
def encode (palette : List Colour) (width height : Nat) (pixels : ByteArray) : ByteArray :=
  bytes [0x89, 0x50, 0x4E, 0x47, 0x0D, 0x0A, 0x1A, 0x0A] ++
  chunk "IHDR" (bytes (Bytes.bigEndian 4 width ++ Bytes.bigEndian 4 height ++ [8, 3, 0, 0, 0])) ++
  chunk "PLTE" (bytes (palette.flatMap fun c => [c.red, c.green, c.blue])) ++
  chunk "tRNS" (bytes (palette.map (·.opacity))) ++
  chunk "IDAT" (stream (rows width height pixels)) ++
  chunk "IEND" ByteArray.empty

/-- A fully transparent image. -/
def transparent (width height : Nat) : ByteArray :=
  encode [⟨0, 0, 0, 0⟩] width height (bytes (List.replicate (width * height) 0))

end SlideDeck.Picture.Png
