import SlideDeck.Bytes.Word
import SlideDeck.Picture.Format

/-!
# Headers of BMP images

A BMP file has a header of one of several lengths, behind which the masks of the colours or a palette may
follow, if the kind of the pixels asks for them.
-/

namespace SlideDeck.Picture.Raster.Bmp

open Bytes (littleEndian? signed32? hasBytes)

/-- Whether a number is a power of two. -/
def isPowerOfTwo (n : Nat) : Bool := n == 2 ^ n.log2

/-- Whether a mask is a run of ones within so many bits, or nothing. -/
def isMask (bits mask : Nat) : Bool :=
  -- the lowest one of the mask
  let low := mask &&& ((mask - 1) ^^^ mask)
  mask == 0 || (isPowerOfTwo (mask + low) && mask < 2 ^ bits)

/-- Whether the masks of the colours are sound, which come behind the first 40 bytes of the header. Longer
headers may have one for opacity. -/
def masksFit (bytes : ByteArray) (length bits : Nat) : Bool :=
  let count := if [56, 108, 124].contains length then 4 else 3
  match (List.range count).mapM fun i => littleEndian? bytes (54 + 4 * i) 4 with
  | none => false
  | some masks => masks.all (isMask bits) && (masks.take 3).all (· ≠ 0)

/-- Whether the colours of a palette are there, `used` of which are said to be used. Zero means all. -/
def paletteFits (bytes : ByteArray) (offset bits used colourBytes : Nat) : Bool :=
  let colours := if used = 0 then 2 ^ bits else used
  colours ≤ 2 ^ bits && offset + colourBytes * min colours 256 ≤ bytes.size

/-- The size of a BMP image with the old, short header. -/
def shortSize? (bytes : ByteArray) : Option Pixels := do
  let width ← littleEndian? bytes 18 2
  let height ← littleEndian? bytes 20 2
  let planes ← littleEndian? bytes 22 2
  let bits ← littleEndian? bytes 24 2
  let valid :=
    width ≠ 0 && height ≠ 0 && planes == 1 && [1, 4, 8, 24].contains bits &&
    (bits == 24 || paletteFits bytes 26 bits 0 3)
  if valid then some ⟨width, height⟩ else none

/-- Whether what the kind of the pixels asks for is there: plain pixels of up to 8 bits and shortened runs
have a palette, and pixels may have colours of their own by masks. -/
def kindFits (bytes : ByteArray) (length compression bits used : Nat) : Bool :=
  let palette := paletteFits bytes (14 + length) bits used 4
  match compression with
  | 0 => [16, 24, 32].contains bits || ([1, 2, 4, 8].contains bits && palette)
  | 1 => bits == 8 && palette
  | 2 => bits == 4 && palette
  | 3 => [16, 32].contains bits && masksFit bytes length bits
  | _ => false

/-- The size of a BMP image with a header of the given length. A negative height means that the rows
run from top to bottom, which shortened runs cannot. -/
def longSize? (bytes : ByteArray) (length : Nat) : Option Pixels := do
  let width ← signed32? bytes 18
  let height ← signed32? bytes 22
  let planes ← littleEndian? bytes 26 2
  let bits ← littleEndian? bytes 28 2
  let compression ← littleEndian? bytes 30 4
  let used ← littleEndian? bytes 46 4
  let valid :=
    0 < width && width ≤ 0xFFFF && height ≠ 0 && height ≤ 0xFFFF && -2 ^ 31 < height &&
    planes == 1 && (0 < height || [0, 3].contains compression) && 54 ≤ bytes.size &&
    kindFits bytes length compression bits used
  if valid then some ⟨width.toNat, height.natAbs⟩ else none

/-- The size of a BMP image. -/
def size? (bytes : ByteArray) : Option Pixels := do
  let length ← littleEndian? bytes 14 4
  if !hasBytes bytes 0 [0x42, 0x4D] then none
  else if length = 12 then shortSize? bytes
  else if [40, 52, 56, 108, 124].contains length then longSize? bytes length
  else none

end SlideDeck.Picture.Raster.Bmp
