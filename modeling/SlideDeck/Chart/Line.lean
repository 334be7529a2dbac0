import SlideDeck.Chart.Axis
import SlideDeck.Chart.Drawing
import SlideDeck.Series.Basic
import SlideDeck.Slide.Basic

/-!
# Line charts

A line chart connects points in their order. The plot area keeps a margin for the descriptions of the
axes and, above it, for the caption if there is one.
-/

namespace SlideDeck.Chart

/-- The size of a chart in pixels. -/
structure Size where
  width : Nat
  height : Nat
deriving Repr, DecidableEq

/-- The size of charts unless another is asked for. -/
def Size.standard : Size := ⟨960, 720⟩

/-- The size with these sides, each of which is at least one pixel. -/
def Size.ofSides (width height : Nat) : Size := ⟨max 1 width, max 1 height⟩

/-- What a chart shows besides its line. -/
structure Legend where
  labels : AxisLabels
  caption : String
deriving Repr, DecidableEq

/-- The topmost pixel of the plot area. -/
def topOf (caption : String) : Int := if caption.isEmpty then 20 else 52

/-- The corners of the line through points. -/
def corners (size : Size) (caption : String) (xs ys : List Float) : List (Int × Int) :=
  let xRange := Range.ofValues xs
  let yRange := Range.ofValues ys
  (xs.zip ys).map fun (x, y) =>
    (pixel xRange 80 (size.width - 21) x, pixel yRange (size.height - 71) (topOf caption) y)

/-- The drawing of a line through points. -/
def draw (format : Format) (size : Size) (legend : Legend) (xs ys : List Float) : Drawing where
  format := format
  width := size.width
  height := size.height
  caption := legend.caption
  xLabel := legend.labels.x
  yLabel := legend.labels.y
  line := corners size legend.caption xs ys

end SlideDeck.Chart
