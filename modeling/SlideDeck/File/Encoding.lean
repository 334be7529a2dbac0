import SlideDeck.Archive.Zip
import SlideDeck.Chart.Canvas
import SlideDeck.File.Contents
import SlideDeck.Picture.Png

/-!
# The bytes of a file

What a file holds as the bytes that are stored.
-/

namespace SlideDeck.File.Contents

mutual

/-- The bytes of contents. -/
def toBytes : Contents → ByteArray
  | .text content => content.toUTF8
  | .binary bytes => bytes
  | .archive entries => Archive.encode (toEntries entries)
  | .chart drawing =>
    match drawing.format with
    | .svg => drawing.svg.toUTF8
    | .png => drawing.png
  | .transparentPng width height => Picture.Png.transparent width height

/-- The entries of an archive with their bytes. -/
def toEntries : List (String × Contents) → List Archive.Entry
  | [] => []
  | (name, contents) :: rest => ⟨name, toBytes contents⟩ :: toEntries rest

end

end SlideDeck.File.Contents
