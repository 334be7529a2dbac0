import SlideDeck.Xml.Markup

/-!
# Drawings of line charts

A drawing is a chart in pixels, ready to be stored as an image file. As SVG it is a document with
the caption, the descriptions of the axes and the line; as PNG only its size is of interest here.
-/

namespace SlideDeck.Chart

/-- The image format of a chart. -/
inductive Format where
  | svg
  | png
deriving Repr, DecidableEq

/-- A line chart in pixels. -/
structure Drawing where
  format : Format
  width : Nat
  height : Nat
  /-- The caption above the chart, empty for none. -/
  caption : String
  xLabel : String
  yLabel : String
  /-- The corners of the line, from left to right and from top to bottom. -/
  line : List (Int × Int)
deriving Repr, BEq, DecidableEq

namespace Drawing

/-- The corners of the line as the attribute of a polyline. -/
def corners (d : Drawing) : String :=
  " ".intercalate (d.line.map fun (x, y) => toString x ++ "," ++ toString y)

/-- A line of text at a place. -/
def label (x y : Int) (size : Nat) (text : String) : Xml.Node :=
  .element "text"
    [.escaped "x" (toString x), .escaped "y" (toString y), .escaped "text-anchor" "middle",
      .escaped "font-family" "sans-serif", .escaped "font-size" (toString size)]
    [.text text]

/-- The drawing as an SVG document, one element a line. -/
def svg (d : Drawing) : String :=
  let caption := if d.caption.isEmpty then [] else [label (d.width / 2) 40 28 d.caption]
  let shapes : List Xml.Node :=
    [.empty "rect" [.escaped "x" "0", .escaped "y" "0", .escaped "width" (toString d.width),
      .escaped "height" (toString d.height), .escaped "fill" "#FFFFFF"]] ++ caption ++
    [label 30 (d.height / 2) 20 d.yLabel, label (d.width / 2) (d.height - 25) 20 d.xLabel,
      .empty "polyline" [.escaped "fill" "none", .escaped "stroke" "#0000FF",
        .escaped "points" d.corners]]
  (Xml.Node.element "svg"
    [.escaped "width" (toString d.width), .escaped "height" (toString d.height),
      .escaped "viewBox" ("0 0 " ++ toString d.width ++ " " ++ toString d.height),
      .escaped "xmlns" "http://www.w3.org/2000/svg"]
    (.text "\n" :: shapes.flatMap fun shape => [shape, .text "\n"])).render

end Drawing

end SlideDeck.Chart
