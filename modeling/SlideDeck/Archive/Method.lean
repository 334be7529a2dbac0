import SlideDeck.Archive.Bzip2
import SlideDeck.Archive.Inflate
import SlideDeck.Archive.Zstandard

/-!
# Methods of packing

The ways in which the content of an entry may be packed, and what can be wrong with it.
-/

namespace SlideDeck.Archive

/-- A way in which a content is packed. -/
inductive Method where
  /-- As it is. -/
  | stored
  | deflated
  | bzip2
  | zstandard
deriving Repr, DecidableEq

namespace Method

/-- The method with a number. -/
def ofNumber? : Nat → Option Method
  | 0 => some .stored
  | 8 => some .deflated
  | 12 => some .bzip2
  | 93 => some .zstandard
  | _ => none

/-- The bytes that packed ones stand for, or why they stand for none. Deflated bytes that end early stand
for what they have given up to there. -/
def unpack (method : Method) (bytes : ByteArray) : Except Stop ByteArray :=
  let outcome (decoder : Decoder Unit) : Except Stop ByteArray :=
    match decoder.on bytes with
    | (.ok (), decoding) => .ok decoding.output
    | (.error stop, _) => .error stop
  match method with
  | .stored => .ok bytes
  | .deflated =>
    match inflate? bytes with
    | some content => .ok content
    | none => .error .damaged
  | .bzip2 => outcome Bzip2.unpack
  | .zstandard => outcome Zstandard.unpack

end Method

/-- What is wrong with the content of an entry. -/
inductive ContentFault where
  /-- It does not fit its check. -/
  | check
  | packed (method : Method) (stop : Stop)
deriving Repr, DecidableEq

/-- How a decoder of frames words why it stops. -/
def frameMessage : Stop → String
  | .ended => "incomplete frame"
  | .damaged => "Data corruption detected"
  | .foreign => "Unknown frame descriptor"
  | .mismatch => "Restored data doesn't match checksum"
  | .dictionaryMissing => "Dictionary mismatch"
  | .tooFarBack => "Frame requires too much memory for decoding"
  | .reserved => "Unsupported frame parameter"
  | .codeMissing => "Dictionary is corrupted"
  | .cut => "Src size is incorrect"
  | .tooFew => "Header of Literals' block doesn't respect format specification"
  | .noRoom => "Destination buffer is too small"

/-- The wording of a fault. -/
def ContentFault.message : ContentFault → String
  | .check => "Invalid checksum"
  | .packed .zstandard stop => frameMessage stop
  | .packed .bzip2 .ended => "decompression not finished but EOF reached"
  | .packed .bzip2 .foreign => "bzip2: bz2 header missing"
  | .packed .bzip2 _ => "bzip2: invalid data"
  | .packed .deflated _ | .packed .stored _ => "corrupt deflate stream"

end SlideDeck.Archive
