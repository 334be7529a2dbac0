import SlideDeck.Chart.Drawing
import SlideDeck.Picture.Png

/-!
# Charts in pixels

As a PNG image a chart shows its line alone, in blue on white.
-/

namespace SlideDeck.Chart

open Picture (Png.Colour)

/-- An area of pixels, row by row, each with the number of its colour. -/
structure Canvas where
  width : Nat
  height : Nat
  pixels : ByteArray

namespace Canvas

/-- The canvas of the given size on which nothing is drawn. -/
def blank (width height : Nat) : Canvas :=
  ⟨width, height, ⟨Array.replicate (width * height) 0⟩⟩

/-- The canvas with a pixel in the colour of the line, if the pixel is on it. -/
def mark (canvas : Canvas) (place : Int × Int) : Canvas :=
  if 0 ≤ place.1 ∧ place.1 < canvas.width ∧ 0 ≤ place.2 ∧ place.2 < canvas.height then
    { canvas with
      pixels := canvas.pixels.set! (place.2.toNat * canvas.width + place.1.toNat) 1 }
  else canvas

/-- The number that lies `part / whole` of the way from one to another, to the nearest integer. -/
def between (first last : Int) (part whole : Nat) : Int :=
  first + (2 * (last - first) * part + whole).fdiv (2 * whole)

/-- The pixels of a straight line, one for each column or row that it crosses, whichever are more. -/
def segment (first last : Int × Int) : List (Int × Int) :=
  let steps := max (last.1 - first.1).natAbs (last.2 - first.2).natAbs
  if steps = 0 then [first]
  else (List.range (steps + 1)).map fun n =>
    (between first.1 last.1 n steps, between first.2 last.2 n steps)

/-- The pixels of a line with the given corners. -/
def line (corners : List (Int × Int)) : List (Int × Int) :=
  match corners with
  | [corner] => [corner]
  | _ => (corners.zip corners.tail).flatMap fun (first, last) => segment first last

end Canvas

/-- The colours of a chart: white, and blue for the line. -/
def colours : List Png.Colour := [⟨255, 255, 255, 255⟩, ⟨0, 0, 255, 255⟩]

/-- The drawing as a PNG image. -/
def Drawing.png (drawing : Drawing) : ByteArray :=
  let canvas := (Canvas.line drawing.line).foldl Canvas.mark (.blank drawing.width drawing.height)
  Picture.Png.encode colours drawing.width drawing.height canvas.pixels

end SlideDeck.Chart
