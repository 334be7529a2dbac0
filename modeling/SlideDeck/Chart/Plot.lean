import SlideDeck.Chart.Format
import SlideDeck.Chart.Line
import SlideDeck.Error

/-!
# Plotting into a file

`plot` draws a line chart into an image file, whose extension names the format. The file is complete or
not written at all.
-/

namespace SlideDeck.Chart

/-- The image of a line chart, or why there is none. -/
def image (size : Size) (xs ys : List Float) (legend : Legend) (output : File.Path) :
    Except Error Drawing :=
  if xs.length ≠ ys.length then
    .error (.invalidArgument (.lengthsDiffer xs.length ys.length))
  else if xs.isEmpty then .error (.invalidArgument .noPoints)
  else match Format.ofPath? output with
    | none => .error (.artifactWrite output .chartFormat)
    | some format => .ok (draw format size legend xs ys)

/-- The file system with the image of a line chart. -/
def plot (size : Size) (xs ys : List Float) (legend : Legend) (output : File.Path)
    (files : File.Tree) : Except Error Unit × File.Tree :=
  match image size xs ys legend output with
  | .error error => (.error error, files)
  | .ok drawing =>
    let ending := "." ++ drawing.format.extension
    match files.publish output ".slidegen-chart-" ending (.chart drawing) with
    | (.ok (), written) => (.ok (), written)
    | (.error cause, same) => (.error (.artifactWrite output (.file cause)), same)

end SlideDeck.Chart
