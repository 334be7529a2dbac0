import SlideDeck.Picture.Raster.Bmp
import SlideDeck.Picture.Raster.Gif
import SlideDeck.Picture.Raster.Jpeg
import SlideDeck.Picture.Raster.Png

/-!
# The sizes of raster images

The size of a raster image is read from the header of its format. A file without a valid header has
no size and is not an image of that format.
-/

namespace SlideDeck.Picture.Raster

/-- The size of an image in a format; vector images have none. -/
def size? (format : Format) (bytes : ByteArray) : Option Pixels :=
  match format with
  | .png => Png.size? bytes
  | .jpeg => Jpeg.size? bytes
  | .gif => Gif.size? bytes
  | .bmp => Bmp.size? bytes
  | .svg => none

end SlideDeck.Picture.Raster
