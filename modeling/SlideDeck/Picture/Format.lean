import SlideDeck.Text.Lowercase

/-!
# Image formats

The image formats that a slide can show. The extension of a file names its format, in any case.
-/

namespace SlideDeck.Picture

/-- An image format. -/
inductive Format where
  | png
  | jpeg
  | gif
  | bmp
  | svg
deriving Repr, DecidableEq

namespace Format

/-- The format with a lowercase extension. -/
def ofLowercase? (extension : List Char) : Option Format :=
  if extension = "png".toList then some .png
  else if extension = "jpg".toList ∨ extension = "jpeg".toList then some .jpeg
  else if extension = "gif".toList then some .gif
  else if extension = "bmp".toList then some .bmp
  else if extension = "svg".toList then some .svg
  else none

/-- The format with an extension, in any case. -/
def ofExtension? (extension : List Char) : Option Format :=
  ofLowercase? (Text.lowercase extension)

/-- The extension of parts in a format. -/
def extension : Format → String
  | .png => "png"
  | .jpeg => "jpeg"
  | .gif => "gif"
  | .bmp => "bmp"
  | .svg => "svg"

/-- The content type of parts in a format. -/
def contentType : Format → String
  | .png => "image/png"
  | .jpeg => "image/jpeg"
  | .gif => "image/gif"
  | .bmp => "image/bmp"
  | .svg => "image/svg+xml"

/-- A format is found by its own extension. -/
theorem ofLowercase?_extension (format : Format) :
    ofLowercase? format.extension.toList = some format := by
  cases format <;> rfl

end Format

/-- A size in pixels. -/
structure Pixels where
  width : Nat
  height : Nat
deriving Repr, DecidableEq

end SlideDeck.Picture
