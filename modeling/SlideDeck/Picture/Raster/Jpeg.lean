import SlideDeck.Bytes.Word
import SlideDeck.Picture.Format

/-!
# Headers of JPEG images

A JPEG file consists of segments, each behind a mark. The size is that of the frame, and it is read once the
scan begins, if all tables up to there are sound.
-/

namespace SlideDeck.Picture.Raster.Jpeg

open Bytes (bigEndian? hasBytes)

/-- A frame: its size, and the numbers of its components. -/
structure Frame where
  pixels : Pixels
  components : List Nat

/-! ## Frames and scans -/

/-- Whether a component is sound, whose three bytes start at an offset: the factors by which it is sampled
are powers of two, and there are four tables. -/
def componentFits (bytes : ByteArray) (offset : Nat) : Bool :=
  match bigEndian? bytes (offset + 1) 1, bigEndian? bytes (offset + 2) 1 with
  | some factors, some table =>
    [1, 2, 4, 8].contains (factors / 16) && [1, 2, 4, 8].contains (factors % 16) && table < 4
  | _, _ => false

/-- The frame that a segment gives, which starts at an offset with its length. -/
def frame? (bytes : ByteArray) (offset : Nat) : Option Frame := do
  let length ← bigEndian? bytes offset 2
  let depth ← bigEndian? bytes (offset + 2) 1
  let height ← bigEndian? bytes (offset + 3) 2
  let width ← bigEndian? bytes (offset + 5) 2
  let count ← bigEndian? bytes (offset + 7) 1
  let starts := (List.range count).map fun i => offset + 8 + 3 * i
  let components ← starts.mapM fun start => bigEndian? bytes start 1
  let valid :=
    length == 8 + 3 * count && depth == 8 && 0 < height && 0 < width && 1 ≤ count && count ≤ 4 &&
    starts.all (componentFits bytes)
  if valid then some ⟨⟨width, height⟩, components⟩ else none

/-- Whether a scan of a frame is sound, whose segment starts at an offset. -/
def scanFits (bytes : ByteArray) (offset : Nat) (frame : Frame) : Bool :=
  match bigEndian? bytes offset 2, bigEndian? bytes (offset + 2) 1 with
  | some length, some count =>
    let stop := offset + 3 + 2 * count
    match (List.range count).mapM fun i => bigEndian? bytes (offset + 3 + 2 * i) 1,
      bigEndian? bytes stop 1, bigEndian? bytes (stop + 1) 1, bigEndian? bytes (stop + 2) 1 with
    | some components, some first, some last, some steps =>
      length == 6 + 2 * count && 1 ≤ count && count ≤ 4 &&
      components.all frame.components.contains && components.eraseDups.length == count &&
      first ≤ 63 && last ≤ 63 && steps / 16 ≤ 13 && steps % 16 ≤ 13
    | _, _, _, _ => false
  | _, _ => false

/-! ## Tables -/

/-- Whether so many code words of each length from one bit on have bit patterns of their own, none of which
are ones only. The least pattern of that length is `first`. -/
def wordsFit : (length first : Nat) → (counts : List Nat) → Bool
  | _, _, [] => true
  | length, first, count :: counts =>
    first + count < 2 ^ length && wordsFit (length + 1) (2 * (first + count)) counts

/-- Whether code tables are sound that take so many bytes from an offset on. The numbers of a code of
differences are at most 15. There are at most `limit` tables. -/
def codesFit (bytes : ByteArray) : (limit : Nat) → (offset left : Nat) → Bool
  | 0, _, _ => false
  | limit + 1, offset, left =>
    if left ≤ 16 then left == 0
    else
      match bigEndian? bytes offset 1, (List.range 16).mapM fun i => bigEndian? bytes (offset + 1 + i) 1
      with
      | some kind, some counts =>
        let total := counts.sum
        match (List.range total).mapM fun i => bigEndian? bytes (offset + 17 + i) 1 with
        | some symbols =>
          kind / 16 ≤ 1 && kind % 16 < 4 && total ≤ 256 && 17 + total ≤ left &&
          (kind / 16 == 1 || symbols.all (· ≤ 15)) && wordsFit 1 0 counts &&
          codesFit bytes limit (offset + 17 + total) (left - 17 - total)
        | none => false
      | _, _ => false

/-- Whether tables of divisors are sound that take so many bytes from an offset on. The divisors take one
or two bytes each. There are at most `limit` tables. -/
def divisorsFit (bytes : ByteArray) : (limit : Nat) → (offset left : Nat) → Bool
  | 0, _, _ => false
  | limit + 1, offset, left =>
    if left = 0 then true
    else match bigEndian? bytes offset 1 with
      | none => false
      | some kind =>
        let size := 1 + 64 * (kind / 16 + 1)
        kind / 16 ≤ 1 && kind % 16 < 4 && size ≤ left && offset + size ≤ bytes.size &&
        divisorsFit bytes limit (offset + size) (left - size)

/-- Whether the segment is sound in which one maker of programs tells how colours are transformed, if it
is his. -/
def transformFits (bytes : ByteArray) (offset length : Nat) : Bool :=
  14 ≤ length &&
  (!hasBytes bytes (offset + 2) [0x41, 0x64, 0x6F, 0x62, 0x65] ||
    match bigEndian? bytes (offset + 13) 1 with
    | some transform => transform ≤ 2
    | none => false)

/-! ## Segments -/

/-- Whether a segment is sound that has the given mark and length and starts at an offset. -/
def segmentFits (bytes : ByteArray) (mark offset length : Nat) : Bool :=
  match mark with
  | 0xC4 => 2 ≤ length && codesFit bytes length (offset + 2) (length - 2)
  | 0xDB => 2 ≤ length && divisorsFit bytes length (offset + 2) (length - 2)
  | 0xDD => length == 4
  | 0xEE => transformFits bytes offset length
  -- codes by intervals, heights that come later, and an end before the scan
  | 0xCC | 0xDC | 0xD9 => false
  | _ => 2 ≤ length

/-- The size of a JPEG image from what follows an offset, at which the byte before was `last`. A mark is what
follows a byte of ones, which may be repeated. There are at most `limit` bytes. -/
def sizeFrom? (bytes : ByteArray) : (limit : Nat) → (offset last : Nat) → Option Frame → Option Pixels
  | 0, _, _, _ => none
  | limit + 1, offset, last, frame =>
    match bigEndian? bytes offset 1 with
    | none => none
    | some mark =>
      if last ≠ 0xFF || mark = 0xFF || mark = 0 then sizeFrom? bytes limit (offset + 1) mark frame
      else if mark = 0xDA then
        match frame with
        | some frame => if scanFits bytes (offset + 1) frame then some frame.pixels else none
        | none => none
      else
        match bigEndian? bytes (offset + 1) 2 with
        | none => none
        | some length =>
          -- frames whose coefficients are coded by prefix codes
          if [0xC0, 0xC1, 0xC2].contains mark then
            match frame, frame? bytes (offset + 1) with
            | none, some frame => sizeFrom? bytes limit (offset + 1 + length) mark (some frame)
            | _, _ => none
          else if segmentFits bytes mark (offset + 1) length then
            sizeFrom? bytes limit (offset + 1 + length) mark frame
          else none

/-- The size of a JPEG image. -/
def size? (bytes : ByteArray) : Option Pixels :=
  if hasBytes bytes 0 [0xFF, 0xD8] then sizeFrom? bytes bytes.size 2 0 none else none

end SlideDeck.Picture.Raster.Jpeg
