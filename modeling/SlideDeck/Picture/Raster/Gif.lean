import SlideDeck.Bytes.Word
import SlideDeck.Picture.Format

/-!
# Headers of GIF images

The size of a GIF image is that of its logical screen. Behind it come a table of colours and blocks; it is
read if extensions are sound up to the first block that is none.
-/

namespace SlideDeck.Picture.Raster.Gif

open Bytes (littleEndian? hasBytes)

/-- Where the parts end that start at an offset, each behind its length, the last of which is empty. There
are at most `limit`. -/
def partsEnd? (bytes : ByteArray) : (limit : Nat) → (offset : Nat) → Option Nat
  | 0, _ => none
  | limit + 1, offset =>
    match littleEndian? bytes offset 1 with
    | none => none
    | some 0 => some (offset + 1)
    | some length => partsEnd? bytes limit (offset + 1 + length)

/-- Where the extension ends whose label is at an offset. That of the control of an image begins with a
part of four bytes. -/
def extensionEnd? (bytes : ByteArray) (offset : Nat) : Option Nat := do
  let label ← littleEndian? bytes offset 1
  if label = 0xF9 then
    if (← littleEndian? bytes (offset + 1) 1) ≠ 4 then none
    partsEnd? bytes bytes.size (offset + 6)
  else if [0x01, 0xFE, 0xFF].contains label then partsEnd? bytes bytes.size (offset + 1)
  else none

/-- Whether from an offset on there are extensions up to something else. The end of the file, which has
the mark `0x3B`, is told from other blocks only behind an extension; these have at least a byte more. -/
def reachesBlock (bytes : ByteArray) : (limit : Nat) → (offset : Nat) → (behindExtension : Bool) → Bool
  | 0, _, _ => false
  | limit + 1, offset, behindExtension =>
    match littleEndian? bytes offset 1 with
    | none => false
    | some kind =>
      if behindExtension && kind == 0x3B then true
      else if kind = 0x21 then
        match extensionEnd? bytes (offset + 1) with
        | none => false
        | some stop => reachesBlock bytes limit stop true
      else offset + 1 < bytes.size

/-- The size of a GIF image. -/
def size? (bytes : ByteArray) : Option Pixels := do
  let width ← littleEndian? bytes 6 2
  let height ← littleEndian? bytes 8 2
  let flags ← littleEndian? bytes 10 1
  let table := if 128 ≤ flags then 3 * 2 ^ (flags % 8 + 1) else 0
  let valid :=
    (hasBytes bytes 0 [0x47, 0x49, 0x46, 0x38, 0x37, 0x61] ||
      hasBytes bytes 0 [0x47, 0x49, 0x46, 0x38, 0x39, 0x61]) &&
    reachesBlock bytes bytes.size (13 + table) false
  if valid then some ⟨width, height⟩ else none

end SlideDeck.Picture.Raster.Gif
