import SlideDeck.Package.Basic
import SlideDeck.Slide.Sheet

/-!
# The built-in template

A presentation without slides for screens of 16 to 9: one slide master and seven layouts in their
usual order, which are Title Slide, Title and Content, Section Header, Two Content, Comparison, Title
Only and Blank.
-/

namespace SlideDeck.Builtin

open Xml (Node Attribute)
open Slide (Frame)

/-- The width of a slide in English Metric Units. -/
def slideWidth : Int := 12192000

/-- The height of a slide in English Metric Units. -/
def slideHeight : Int := 6858000

/-! ## Placeholders and layouts -/

/-- A placeholder of a layout or of the master. -/
structure Placeholder where
  name : String
  type : Option String
  index : Option Nat
  half : Bool
  /-- Where the placeholder is; none for the place on the master. -/
  frame : Option Frame

/-- A placeholder for a title. -/
def titlePlaceholder (name type : String) (frame : Option Frame) : Placeholder :=
  ⟨name, some type, none, false, frame⟩

/-- A placeholder for text. -/
def textPlaceholder (name type : String) (index : Nat) (frame : Frame) : Placeholder :=
  ⟨name, some type, some index, false, some frame⟩

/-- A placeholder for content on one half of a slide. -/
def halfPlaceholder (name : String) (index : Nat) (frame : Frame) : Placeholder :=
  ⟨name, none, some index, true, some frame⟩

/-- A slide layout. -/
structure LayoutPlan where
  name : String
  type : String
  placeholders : List Placeholder

/-- The layouts in order. -/
def layouts : List LayoutPlan :=
  [⟨"Title Slide", "title",
      [titlePlaceholder "Title 1" "ctrTitle" (some ⟨1524000, 1122363, 9144000, 2387600⟩),
       textPlaceholder "Subtitle 2" "subTitle" 1 ⟨1524000, 3602038, 9144000, 1655762⟩]⟩,
   ⟨"Title and Content", "obj",
      [titlePlaceholder "Title 1" "title" none,
       ⟨"Content Placeholder 2", none, some 1, false, none⟩]⟩,
   ⟨"Section Header", "secHead",
      [titlePlaceholder "Title 1" "title" (some ⟨831850, 1709738, 10515600, 2852737⟩),
       textPlaceholder "Text Placeholder 2" "body" 1 ⟨831850, 4589463, 10515600, 1500187⟩]⟩,
   ⟨"Two Content", "twoObj",
      [titlePlaceholder "Title 1" "title" none,
       halfPlaceholder "Content Placeholder 2" 1 ⟨838200, 1080000, 5181600, 5097000⟩,
       halfPlaceholder "Content Placeholder 3" 2 ⟨6172200, 1080000, 5181600, 5097000⟩]⟩,
   ⟨"Comparison", "twoTxTwoObj",
      [titlePlaceholder "Title 1" "title" none,
       textPlaceholder "Text Placeholder 2" "body" 1 ⟨839788, 1080000, 5157787, 823912⟩,
       halfPlaceholder "Content Placeholder 3" 2 ⟨839788, 1903912, 5157787, 4273088⟩,
       textPlaceholder "Text Placeholder 4" "body" 3 ⟨6172200, 1080000, 5183188, 823912⟩,
       halfPlaceholder "Content Placeholder 5" 4 ⟨6172200, 1903912, 5183188, 4273088⟩]⟩,
   ⟨"Title Only", "titleOnly", [titlePlaceholder "Title 1" "title" none]⟩,
   ⟨"Blank", "blank", []⟩]

/-- The numbers of the layouts, from one. -/
def layoutNumbers : List Nat := List.range' 1 layouts.length

/-- The element that binds a placeholder. -/
def bindingNode (p : Placeholder) : Node :=
  .empty "p:ph" <|
    (p.type.toList.map fun type => ⟨"type", type⟩) ++
    (if p.half then [⟨"sz", "half"⟩] else []) ++
    (p.index.toList.map fun index => ⟨"idx", toString index⟩)

/-- The shape of a placeholder with its number. -/
def placeholderNode (id : Nat) (p : Placeholder) : Node :=
  .element "p:sp" []
    [.element "p:nvSpPr" []
      [.empty "p:cNvPr" [⟨"id", toString id⟩, ⟨"name", p.name⟩],
       .element "p:cNvSpPr" [] [.empty "a:spLocks" [⟨"noGrp", "1"⟩]],
       .element "p:nvPr" [] [bindingNode p]],
     (match p.frame with
      | some frame => .element "p:spPr" [] [Slide.transform frame]
      | none => .empty "p:spPr" []),
     .element "p:txBody" []
      [.empty "a:bodyPr" [], .empty "a:lstStyle" [],
       .element "a:p" [] [.empty "a:endParaRPr" [⟨"lang", "en-US"⟩]]]]

/-- The shapes of placeholders, the first of which has the given number. -/
def placeholderNodes (id : Nat) : List Placeholder → List Node
  | [] => []
  | p :: rest => placeholderNode id p :: placeholderNodes (id + 1) rest

/-- The part of a layout. -/
def layoutXml (plan : LayoutPlan) : String :=
  Xml.document <| .element "p:sldLayout"
    (Slide.vocabularies ++ [⟨"type", plan.type⟩, ⟨"preserve", "1"⟩])
    [.element "p:cSld" [⟨"name", plan.name⟩]
      [.element "p:spTree" [] (Slide.group ++ placeholderNodes 2 plan.placeholders)],
     Slide.masterColours]

/-! ## The slide master -/

/-- A fill with a colour of the theme. -/
def schemeFill (colour : String) : Node :=
  .element "a:solidFill" [] [.empty "a:schemeClr" [⟨"val", colour⟩]]

/-- The assignment of the colours of the theme. -/
def colourMap : Node :=
  .empty "p:clrMap"
    [⟨"bg1", "lt1"⟩, ⟨"tx1", "dk1"⟩, ⟨"bg2", "lt2"⟩, ⟨"tx2", "dk2"⟩, ⟨"accent1", "accent1"⟩,
     ⟨"accent2", "accent2"⟩, ⟨"accent3", "accent3"⟩, ⟨"accent4", "accent4"⟩,
     ⟨"accent5", "accent5"⟩, ⟨"accent6", "accent6"⟩, ⟨"hlink", "hlink"⟩,
     ⟨"folHlink", "folHlink"⟩]

/-- The list of the layouts of the master. -/
def layoutList : Node :=
  .element "p:sldLayoutIdLst" [] <| layoutNumbers.map fun n =>
    .empty "p:sldLayoutId" [⟨"id", toString (2147483648 + n)⟩, ⟨"r:id", "rId" ++ toString n⟩]

/-- The style of a level of body text, counted from one, with its font size. -/
def bodyLevel (level size : Nat) : Node :=
  .element ("a:lvl" ++ toString level ++ "pPr")
    [⟨"marL", toString (228600 + 457200 * (level - 1))⟩, ⟨"indent", "-228600"⟩]
    [.empty "a:buFont" [⟨"typeface", "Arial"⟩],
     .empty "a:buChar" [⟨"char", "&#8226;"⟩],
     .element "a:defRPr" [⟨"sz", toString size⟩, ⟨"kern", "1200"⟩]
      [schemeFill "tx1", .empty "a:latin" [⟨"typeface", "+mn-lt"⟩]]]

/-- The font sizes of the levels of body text. -/
def bodySizes : List Nat := [2800, 2400, 2000, 1800, 1800, 1800, 1800, 1800, 1800]

/-- The text styles of the master. -/
def textStyles : Node :=
  .element "p:txStyles" []
    [.element "p:titleStyle" []
      [.element "a:lvl1pPr" [⟨"algn", "l"⟩]
        [.element "a:defRPr" [⟨"sz", "4000"⟩, ⟨"kern", "1200"⟩]
          [schemeFill "tx1", .empty "a:latin" [⟨"typeface", "+mj-lt"⟩]]]],
     .element "p:bodyStyle" []
      ((List.range' 1 bodySizes.length).zip bodySizes |>.map fun (level, size) =>
        bodyLevel level size),
     .element "p:otherStyle" []
      [.element "a:defPPr" [] [.empty "a:defRPr" [⟨"lang", "en-US"⟩]]]]

/-- The placeholders of the master. -/
def masterPlaceholders : List Placeholder :=
  [titlePlaceholder "Title Placeholder 1" "title" (some ⟨838200, 365125, 10515600, 700000⟩),
   textPlaceholder "Text Placeholder 2" "body" 1 ⟨838200, 1080000, 10515600, 5097000⟩]

/-- The part of the slide master. -/
def masterXml : String :=
  Xml.document <| .element "p:sldMaster" Slide.vocabularies
    [.element "p:cSld" []
      [.element "p:bg" []
        [.element "p:bgRef" [⟨"idx", "1001"⟩] [.empty "a:schemeClr" [⟨"val", "bg1"⟩]]],
       .element "p:spTree" [] (Slide.group ++ placeholderNodes 2 masterPlaceholders)],
     colourMap, layoutList, textStyles]

/-! ## The theme -/

/-- A system colour of the theme. -/
def systemColour (slot value last : String) : Node :=
  .element ("a:" ++ slot) [] [.empty "a:sysClr" [⟨"val", value⟩, ⟨"lastClr", last⟩]]

/-- A colour of the theme by its red, green and blue parts. -/
def plainColour (slot rgb : String) : Node :=
  .element ("a:" ++ slot) [] [.empty "a:srgbClr" [⟨"val", rgb⟩]]

/-- The colours of the theme. -/
def colourScheme : Node :=
  .element "a:clrScheme" [⟨"name", "Office"⟩]
    [systemColour "dk1" "windowText" "000000", systemColour "lt1" "window" "FFFFFF",
     plainColour "dk2" "44546A", plainColour "lt2" "E7E6E6", plainColour "accent1" "4472C4",
     plainColour "accent2" "ED7D31", plainColour "accent3" "A5A5A5",
     plainColour "accent4" "FFC000", plainColour "accent5" "5B9BD5",
     plainColour "accent6" "70AD47", plainColour "hlink" "0563C1",
     plainColour "folHlink" "954F72"]

/-- The fonts of headings or of body text. -/
def fonts (name latin : String) : Node :=
  .element name []
    [.empty "a:latin" [⟨"typeface", latin⟩], .empty "a:ea" [⟨"typeface", ""⟩],
     .empty "a:cs" [⟨"typeface", ""⟩]]

/-- A line style of the theme. -/
def lineStyle (width : Nat) : Node :=
  .element "a:ln" [⟨"w", toString width⟩, ⟨"cap", "flat"⟩, ⟨"cmpd", "sng"⟩, ⟨"algn", "ctr"⟩]
    [schemeFill "phClr", .empty "a:prstDash" [⟨"val", "solid"⟩]]

/-- The fills, lines and effects of the theme. -/
def formatScheme : Node :=
  .element "a:fmtScheme" [⟨"name", "Office"⟩]
    [.element "a:fillStyleLst" [] (List.replicate 3 (schemeFill "phClr")),
     .element "a:lnStyleLst" [] ([6350, 12700, 19050].map lineStyle),
     .element "a:effectStyleLst" []
      (List.replicate 3 (.element "a:effectStyle" [] [.empty "a:effectLst" []])),
     .element "a:bgFillStyleLst" [] (List.replicate 3 (schemeFill "phClr"))]

/-- The part of the theme. -/
def themeXml : String :=
  Xml.document <| .element "a:theme"
    [⟨"xmlns:a", "http://schemas.openxmlformats.org/drawingml/2006/main"⟩,
     ⟨"name", "Office Theme"⟩]
    [.element "a:themeElements" []
      [colourScheme,
       .element "a:fontScheme" [⟨"name", "Office"⟩]
        [fonts "a:majorFont" "Calibri Light", fonts "a:minorFont" "Calibri"],
       formatScheme],
     .empty "a:objectDefaults" [], .empty "a:extraClrSchemeLst" []]

/-! ## The presentation -/

/-- The part of the presentation. -/
def presentationXml : String :=
  Xml.document <| .element "p:presentation" (Slide.vocabularies ++ [⟨"saveSubsetFonts", "1"⟩])
    [.element "p:sldMasterIdLst" []
      [.empty "p:sldMasterId" [⟨"id", "2147483648"⟩, ⟨"r:id", "rId1"⟩]],
     .empty "p:sldSz" [⟨"cx", toString slideWidth⟩, ⟨"cy", toString slideHeight⟩],
     .empty "p:notesSz" [⟨"cx", "6858000"⟩, ⟨"cy", "9144000"⟩]]

/-- The part of the presentation properties. -/
def propertiesXml : String := Xml.document (.empty "p:presentationPr" Slide.vocabularies)

/-- The part with the title and the author of the document. -/
def coreXml : String :=
  Xml.document <| .element "cp:coreProperties"
    [⟨"xmlns:cp", "http://schemas.openxmlformats.org/package/2006/metadata/core-properties"⟩,
     ⟨"xmlns:dc", "http://purl.org/dc/elements/1.1/"⟩,
     ⟨"xmlns:dcterms", "http://purl.org/dc/terms/"⟩,
     ⟨"xmlns:xsi", "http://www.w3.org/2001/XMLSchema-instance"⟩]
    [.element "dc:title" [] [.text "Presentation"], .element "dc:creator" [] [.text "slidegen"]]

/-- The part with the name of the application. -/
def appXml : String :=
  Xml.document <| .element "Properties"
    [⟨"xmlns",
      "http://schemas.openxmlformats.org/officeDocument/2006/extended-properties"⟩]
    [.element "Application" [] [.text "slidegen"]]

/-! ## Content types -/

/-- The content type of a part of a presentation. -/
def presentationType (name : String) : String :=
  "application/vnd.openxmlformats-officedocument.presentationml." ++ name ++ "+xml"

/-- The name of the part of a layout. -/
def layoutPart (n : Nat) : String := "ppt/slideLayouts/slideLayout" ++ toString n ++ ".xml"

/-- The content types of parts that have one of their own. -/
def ownTypes : List (String × String) :=
  [("ppt/presentation.xml", presentationType "presentation.main"),
   ("ppt/presProps.xml", presentationType "presProps"),
   ("ppt/slideMasters/slideMaster1.xml", presentationType "slideMaster"),
   ("ppt/theme/theme1.xml", "application/vnd.openxmlformats-officedocument.theme+xml"),
   ("docProps/core.xml", "application/vnd.openxmlformats-package.core-properties+xml"),
   ("docProps/app.xml",
    "application/vnd.openxmlformats-officedocument.extended-properties+xml")] ++
  layoutNumbers.map fun n => (layoutPart n, presentationType "slideLayout")

/-- The part of the content types. -/
def contentTypesXml : String :=
  Xml.document <| .element "Types"
    [⟨"xmlns", "http://schemas.openxmlformats.org/package/2006/content-types"⟩] <|
    [.empty "Default" [⟨"Extension", "rels"⟩,
      ⟨"ContentType", "application/vnd.openxmlformats-package.relationships+xml"⟩],
     .empty "Default" [⟨"Extension", "xml"⟩, ⟨"ContentType", "application/xml"⟩]] ++
    ownTypes.map fun (part, type) =>
      .empty "Override" [⟨"PartName", "/" ++ part⟩, ⟨"ContentType", type⟩]

/-! ## The package -/

/-- The relationships of the package. -/
def packageRelationships : List Relationship :=
  [.internal "rId1" Relationship.officeDocument "ppt/presentation.xml",
   .internal "rId2"
    "http://schemas.openxmlformats.org/package/2006/relationships/metadata/core-properties"
    "docProps/core.xml",
   .internal "rId3" (Relationship.typeBase ++ "extended-properties") "docProps/app.xml"]

/-- The relationships of the presentation. -/
def presentationRelationships : List Relationship :=
  [.internal "rId1" Relationship.slideMaster "slideMasters/slideMaster1.xml",
   .internal "rId2" (Relationship.typeBase ++ "theme") "theme/theme1.xml",
   .internal "rId3" (Relationship.typeBase ++ "presProps") "presProps.xml"]

/-- The relationships of the slide master. -/
def masterRelationships : List Relationship :=
  (layoutNumbers.map fun n =>
    .internal ("rId" ++ toString n) Relationship.slideLayout
      ("../slideLayouts/slideLayout" ++ toString n ++ ".xml")) ++
  [.internal ("rId" ++ toString (layouts.length + 1)) (Relationship.typeBase ++ "theme")
    "../theme/theme1.xml"]

/-- The relationships of a layout. -/
def layoutRelationships : List Relationship :=
  [.internal "rId1" Relationship.slideMaster "../slideMasters/slideMaster1.xml"]

/-- The parts of the template with their text. -/
def parts : List (String × String) :=
  [("[Content_Types].xml", contentTypesXml),
   ("_rels/.rels", Relationship.listXml packageRelationships),
   ("docProps/core.xml", coreXml),
   ("docProps/app.xml", appXml),
   ("ppt/presentation.xml", presentationXml),
   ("ppt/_rels/presentation.xml.rels", Relationship.listXml presentationRelationships),
   ("ppt/presProps.xml", propertiesXml),
   ("ppt/slideMasters/slideMaster1.xml", masterXml),
   ("ppt/slideMasters/_rels/slideMaster1.xml.rels", Relationship.listXml masterRelationships),
   ("ppt/theme/theme1.xml", themeXml)] ++
  ((layoutNumbers.zip layouts).flatMap fun (n, plan) =>
    [(layoutPart n, layoutXml plan),
     ("ppt/slideLayouts/_rels/slideLayout" ++ toString n ++ ".xml.rels",
      Relationship.listXml layoutRelationships)])

/-- The package of the template. -/
def package : Package :=
  parts.foldl (fun package (name, text) => package.insertText name text) .empty

end SlideDeck.Builtin
