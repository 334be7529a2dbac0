import SlideDeck.File.Tree
import SlideDeck.Picture.Raster
import SlideDeck.Picture.Vector

/-!
# Pictures

A picture is an image file with its format and, as far as it is known, its size. A raster image must
have a readable size; an SVG image need not. `fit` scales a picture down to an area, and
`standInSize` gives the size of the small transparent image that stands in for an SVG image.
-/

namespace SlideDeck

/-- An image to be put on a slide. -/
structure Picture where
  format : Picture.Format
  contents : File.Contents
  pixels : Option Picture.Pixels

namespace Picture

/-- Why a file is no picture. -/
inductive Fault where
  | unsupported (path : File.Path)
  | unreadable (path : File.Path) (cause : File.Error)
  | notAnImage (path : File.Path)
deriving Repr, DecidableEq

/-- The wording of a fault. -/
def Fault.message : Fault → String
  | .unsupported path =>
    "Unsupported image format: " ++ path.text ++ " (expected png, jpeg, gif, bmp or svg)"
  | .unreadable path cause => "Failed to read image " ++ path.text ++ ": " ++ cause.message
  | .notAnImage path => "Not a readable image " ++ path.text ++ ": there is no valid header"

/-! ## Reading -/

/-- The size of a raster image. -/
def rasterSize? (format : Format) : File.Contents → Option Pixels
  | .chart drawing =>
    match format, drawing.format with
    | .png, .png => some ⟨drawing.width, drawing.height⟩
    | _, _ => none
  | .transparentPng width height => if format = .png then some ⟨width, height⟩ else none
  | contents => contents.bytes?.bind (Raster.size? format)

/-- The picture in a file with these contents. -/
def ofContents (path : File.Path) (format : Format) (contents : File.Contents) :
    Except Fault Picture :=
  match format with
  | .svg => .ok ⟨format, contents, contents.utf8?.bind Vector.size?⟩
  | _ =>
    match rasterSize? format contents with
    | some pixels => .ok ⟨format, contents, some pixels⟩
    | none => .error (.notAnImage path)

/-- The picture in a file. -/
def load (files : File.Tree) (path : File.Path) : Except Fault Picture :=
  match path.extension?.bind Format.ofExtension? with
  | none => .error (.unsupported path)
  | some format =>
    match files.read path with
    | .error cause => .error (.unreadable path cause)
    | .ok contents => ofContents path format contents

/-! ## Scaling -/

/-- A size in English Metric Units. -/
structure Extent where
  cx : Int
  cy : Int
deriving Repr, DecidableEq

/-- The English Metric Units in a pixel, at 96 pixels to the inch. -/
def unitsPerPixel : Int := 9525

/-- The size, unless it is unknown or has no area. -/
def known (pixels : Option Pixels) : Option Pixels :=
  pixels.filter fun p => 0 < p.width && 0 < p.height

open Number (Scalar)

/-- A length in whole units: the nearest integer that a signed word of 64 bits holds. -/
def wholeUnits {α : Type} [Scalar α] (length : α) : Int :=
  Number.clamp (-2 ^ 63) (2 ^ 63 - 1) (Scalar.round length)

/-- The size of a picture within an area: its own size, scaled down as far as needed with its
proportions kept. A picture of unknown size fills the area. -/
def fit (α : Type) [Scalar α] (pixels : Option Pixels) (area : Extent) : Extent :=
  match known pixels with
  | none => area
  | some p =>
    let number (n : Int) : α := Scalar.ofInt n
    let cx := number (p.width * unitsPerPixel)
    let cy := number (p.height * unitsPerPixel)
    let scale := Scalar.lesser (Scalar.lesser (number area.cx / cx) (number area.cy / cy)) (number 1)
    ⟨wholeUnits (cx * scale), wholeUnits (cy * scale)⟩

/-- The longest side of a stand-in, in pixels. -/
def maxStandIn : Nat := 64

/-- The size of the stand-in for a picture: its own size, scaled down as far as needed with its
proportions kept, and at least one pixel on each side. -/
def standInSize (α : Type) [Scalar α] (pixels : Option Pixels) : Pixels :=
  let p := (known pixels).getD ⟨1, 1⟩
  let number (n : Nat) : α := Scalar.ofInt n
  let scale := Scalar.lesser (number maxStandIn / number (max p.width p.height)) (number 1)
  let side (n : Nat) : Nat := max 1 (Scalar.round (number n * scale)).toNat
  ⟨side p.width, side p.height⟩

/-- The stand-in for a picture. -/
def standIn (pixels : Option Pixels) : File.Contents :=
  let size := standInSize Float pixels
  .transparentPng size.width size.height

end Picture

end SlideDeck
