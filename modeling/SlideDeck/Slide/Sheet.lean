import SlideDeck.Slide.Basic
import SlideDeck.Text.Lines
import SlideDeck.Xml.Markup

/-!
# Slide parts

The part of a slide is an XML document with a tree of shapes. `sheet` writes the document for a list
of shapes, which are numbered from two on, since the group that holds them is number one. Text goes
into paragraphs, one for each line.
-/

namespace SlideDeck.Slide

open Xml (Node Attribute)

/-- A rectangle of the slide, in English Metric Units. -/
structure Frame where
  x : Int
  y : Int
  cx : Int
  cy : Int
deriving Repr, DecidableEq

/-- A shape of a slide. -/
inductive Shape where
  /-- The title, centered on a title slide. -/
  | title (centered : Bool) (text : String)
  | subtitle (text : String)
  | list (items : List ListItem)
  | textBox (frame : Frame) (text : String)
  /-- A picture by the id of its relationship. A vector image has an id of its own, and the other is
  that of the image that stands in for it. -/
  | picture (frame : Frame) (image : String) (vector : Option String) (description : String)
deriving Repr, DecidableEq

/-! ## Paragraphs -/

/-- The lines of a text, which end at LF or CRLF; there is always at least one. -/
def textLines (text : String) : List String :=
  (Text.splitAt '\n' (Text.joinReturns text.toList)).map String.ofList

/-- The run of text in a paragraph; without text, the properties of its end. -/
def run (text : String) : Node :=
  if text.isEmpty then .empty "a:endParaRPr" [⟨"lang", "en-US"⟩, ⟨"dirty", "0"⟩]
  else .element "a:r" []
    [.empty "a:rPr" [⟨"lang", "en-US"⟩, ⟨"dirty", "0"⟩], .element "a:t" [] [.text text]]

/-- The paragraphs of a text, one for each line. -/
def paragraphs (text : String) : List Node :=
  (textLines text).map fun line => .element "a:p" [] [run line]

/-- The deepest level of a list. -/
def maxLevel : UInt32 := 8

/-- The paragraph of a list item; levels beyond the deepest one count as that. -/
def itemParagraph (item : ListItem) : Node :=
  .element "a:p" []
    [.empty "a:pPr" [⟨"lvl", toString (min item.level maxLevel)⟩], run item.text]

/-- The paragraphs of a list, of which there is always at least one. -/
def listParagraphs (items : List ListItem) : List Node :=
  if items.isEmpty then [.empty "a:p" []] else items.map itemParagraph

/-! ## Shapes -/

/-- The number and the name of a shape. -/
def identity (id : Nat) (name : String) : List Attribute :=
  [⟨"id", toString id⟩, ⟨"name", name ++ " " ++ toString id⟩]

/-- A shape that fills a placeholder of the layout with paragraphs. -/
def placeholder (id : Nat) (name : String) (position : List Attribute) (body : List Node) : Node :=
  .element "p:sp" []
    [.element "p:nvSpPr" []
      [.empty "p:cNvPr" (identity id name),
       .element "p:cNvSpPr" [] [.empty "a:spLocks" [⟨"noGrp", "1"⟩]],
       .element "p:nvPr" [] [.empty "p:ph" position]],
     .empty "p:spPr" [],
     .element "p:txBody" [] ([.empty "a:bodyPr" [], .empty "a:lstStyle" []] ++ body)]

/-- The place of a shape. -/
def transform (frame : Frame) : Node :=
  .element "a:xfrm" []
    [.empty "a:off" [⟨"x", toString frame.x⟩, ⟨"y", toString frame.y⟩],
     .empty "a:ext" [⟨"cx", toString frame.cx⟩, ⟨"cy", toString frame.cy⟩]]

/-- The outline of a rectangular shape. -/
def rectangle : Node := .element "a:prstGeom" [⟨"prst", "rect"⟩] [.empty "a:avLst" []]

/-- A text box. -/
def textBox (id : Nat) (frame : Frame) (text : String) : Node :=
  .element "p:sp" []
    [.element "p:nvSpPr" []
      [.empty "p:cNvPr" (identity id "TextBox"),
       .empty "p:cNvSpPr" [⟨"txBox", "1"⟩],
       .empty "p:nvPr" []],
     .element "p:spPr" [] [transform frame, rectangle, .empty "a:noFill" []],
     .element "p:txBody" []
      ([.element "a:bodyPr" [⟨"wrap", "square"⟩, ⟨"rtlCol", "0"⟩] [.empty "a:normAutofit" []],
        .empty "a:lstStyle" []] ++ paragraphs text)]

/-- The extension of an image reference that names a vector image. -/
def vectorExtension (vector : String) : Node :=
  .element "a:extLst" []
    [.element "a:ext" [⟨"uri", "\x7b96DAC541-7B7A-43D3-8B79-37D633B846F1\x7d"⟩]
      [.empty "asvg:svgBlip"
        [⟨"xmlns:asvg", "http://schemas.microsoft.com/office/drawing/2016/SVG/main"⟩,
         .escaped "r:embed" vector]]]

/-- The reference of a picture to its image. -/
def imageReference (image : String) : Option String → Node
  | none => .empty "a:blip" [.escaped "r:embed" image]
  | some vector => .element "a:blip" [.escaped "r:embed" image] [vectorExtension vector]

/-- A picture. -/
def picture (id : Nat) (frame : Frame) (image : String) (vector : Option String)
    (description : String) : Node :=
  .element "p:pic" []
    [.element "p:nvPicPr" []
      [.empty "p:cNvPr" (identity id "Picture" ++ [.escaped "descr" description]),
       .element "p:cNvPicPr" [] [.empty "a:picLocks" [⟨"noChangeAspect", "1"⟩]],
       .empty "p:nvPr" []],
     .element "p:blipFill" []
      [imageReference image vector, .element "a:stretch" [] [.empty "a:fillRect" []]],
     .element "p:spPr" [] [transform frame, rectangle]]

/-- The element of a shape with its number. -/
def Shape.node (id : Nat) : Shape → Node
  | .title centered text =>
    placeholder id "Title" [⟨"type", if centered then "ctrTitle" else "title"⟩] (paragraphs text)
  | .subtitle text =>
    placeholder id "Subtitle" [⟨"type", "subTitle"⟩, ⟨"idx", "1"⟩] (paragraphs text)
  | .list items => placeholder id "Content" [⟨"idx", "1"⟩] (listParagraphs items)
  | .textBox frame text => Slide.textBox id frame text
  | .picture frame image vector description => Slide.picture id frame image vector description

/-- The elements of shapes, the first of which has the given number. -/
def shapeNodes (id : Nat) : List Shape → List Node
  | [] => []
  | shape :: rest => shape.node id :: shapeNodes (id + 1) rest

/-! ## Slides -/

/-- The names of the vocabularies that slides, layouts and masters use. -/
def vocabularies : List Attribute :=
  [⟨"xmlns:a", "http://schemas.openxmlformats.org/drawingml/2006/main"⟩,
   ⟨"xmlns:r", "http://schemas.openxmlformats.org/officeDocument/2006/relationships"⟩,
   ⟨"xmlns:p", "http://schemas.openxmlformats.org/presentationml/2006/main"⟩]

/-- The group that holds all shapes, which has no place of its own. -/
def group : List Node :=
  [.element "p:nvGrpSpPr" []
    [.empty "p:cNvPr" [⟨"id", "1"⟩, ⟨"name", ""⟩], .empty "p:cNvGrpSpPr" [], .empty "p:nvPr" []],
   .element "p:grpSpPr" []
    [.element "a:xfrm" []
      [.empty "a:off" [⟨"x", "0"⟩, ⟨"y", "0"⟩], .empty "a:ext" [⟨"cx", "0"⟩, ⟨"cy", "0"⟩],
       .empty "a:chOff" [⟨"x", "0"⟩, ⟨"y", "0"⟩], .empty "a:chExt" [⟨"cx", "0"⟩, ⟨"cy", "0"⟩]]]]

/-- The colours that a slide or layout takes from its master. -/
def masterColours : Node := .element "p:clrMapOvr" [] [.empty "a:masterClrMapping" []]

/-- The root element of a slide with these shapes. -/
def sheetNode (shapes : List Shape) : Node :=
  .element "p:sld" vocabularies
    [.element "p:cSld" [] [.element "p:spTree" [] (group ++ shapeNodes 2 shapes)], masterColours]

/-- The part of a slide with these shapes. -/
def sheet (shapes : List Shape) : String := Xml.document (sheetNode shapes)

end SlideDeck.Slide
