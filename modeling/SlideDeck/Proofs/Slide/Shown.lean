import SlideDeck.Proofs.Slide.Sheet
import SlideDeck.Proofs.Text.Lines
import SlideDeck.Proofs.Xml.Query

/-!
# What slides show

`readShapes?` reads a slide as a reader of the format does: from the tree of its shapes, what each of
them shows. The document of a slide is read as what its shapes were made to show
(`readShapes?_sheet`).
-/

namespace SlideDeck

namespace Slide

open Xml

/-! ## Reading -/

/-- A paragraph as it is read. -/
structure Paragraph where
  level? : Option String
  text? : Option String

/-- A shape as it is read. -/
inductive Seen where
  /-- Paragraphs, with the type and the index of the placeholder if the shape fills one. -/
  | paragraphs (placeholder? : Option (Option String × Option String)) (held : List Paragraph)
  /-- A picture, by the ids of its image and of its vector image. -/
  | picture (image? vector? : Option String)

/-- The paragraph that an element holds. -/
def readParagraph (held : List Tree) : Paragraph where
  level? := (startsNamed "pPr" held).head?.bind (·.attribute? "lvl")
  text? := (unescape? (charsOf (within "t" (within "r" held)))).map String.ofList

/-- The shape that an element with paragraphs holds. -/
def readText (held : List Tree) : Seen :=
  .paragraphs
    ((startsNamed "ph" (within "nvPr" (within "nvSpPr" held))).head?.map fun start =>
      (start.attribute? "type", start.attribute? "idx"))
    ((contentsOf "p" (within "txBody" held)).map readParagraph)

/-- The picture that an element holds. -/
def readPicture (held : List Tree) : Seen :=
  let fill := within "blipFill" held
  .picture ((startsNamed "blip" fill).head?.bind (·.attribute? "r:embed"))
    ((startsNamed "svgBlip" (within "ext" (within "extLst" (within "blip" fill)))).head?.bind
      (·.attribute? "r:embed"))

/-- The shape that an element is. -/
def readShape? : Tree → Option Seen
  | .element start held =>
    if start.isNamed "sp" then some (readText held)
    else if start.isNamed "pic" then some (readPicture held)
    else none
  | .char _ => none

/-- The shapes of a slide in order. -/
def readShapes? (xml : String) : Option (List Seen) :=
  (readTrees? xml).map fun trees =>
    (within "spTree" (within "cSld" (within "sld" trees))).filterMap readShape?

/-! ## What is meant -/

/-- Whether these are the lines of a text. -/
def IsLines (text : String) (lines : List String) : Prop :=
  Text.IsLines text.toList (lines.map String.toList)

/-- A line as it is read, without what a document cannot carry. -/
def seenLine (line : String) : Paragraph := ⟨none, some (carried line)⟩

/-- Whether paragraphs are read as the lines of a text, one for each of them. -/
def AreLines (text : String) (held : List Paragraph) : Prop :=
  ∃ lines, IsLines text lines ∧ held = lines.map seenLine

/-- The items of a list as they are read, at level eight at the deepest; without items, there is an empty
paragraph. -/
def seenItems (items : List ListItem) : List Paragraph :=
  if items.isEmpty then [⟨none, some ""⟩]
  else items.map fun item => ⟨some (toString (min item.level 8)), some (carried item.text)⟩

/-- The lines are the pieces between the LFs, once there are no CRs in front of these. -/
theorem toList_textLines (text : String) :
    (textLines text).map String.toList = Text.splitAt '\n' (Text.joinReturns text.toList) := by
  rw [textLines, List.map_map]
  exact (List.map_congr_left fun piece _ => String.toList_ofList).trans (List.map_id _)

/-- The lines that paragraphs are made for are those of the text. -/
theorem isLines_textLines (text : String) : IsLines text (textLines text) :=
  Text.isLines_iff.2 (toList_textLines text)

/-- A text has no other lines. -/
theorem IsLines.eq_textLines {text : String} {lines : List String} (h : IsLines text lines) :
    lines = textLines text :=
  List.map_injective_iff.2 (fun _ _ => String.toList_injective)
    ((Text.isLines_iff.1 h).trans (toList_textLines text).symm)

/-- What a shape shows when it is read. -/
def Shape.seen : Shape → Seen
  | .title centered text =>
    .paragraphs (some (some (if centered then "ctrTitle" else "title"), none))
      ((textLines text).map seenLine)
  | .subtitle text => .paragraphs (some (some "subTitle", some "1")) ((textLines text).map seenLine)
  | .list items => .paragraphs (some (none, some "1")) (seenItems items)
  | .textBox _ text => .paragraphs none ((textLines text).map seenLine)
  | .picture _ image vector _ => .picture (some (carried image)) (vector.map carried)

/-! ## Paragraphs -/

/-- The text of a run is read without what a document cannot carry. -/
theorem text?_run (text : String) :
    (unescape? (charsOf (within "t" (within "r" (run text).trees)))).map String.ofList
      = some (carried text) := by
  rw [run]
  split
  · -- an empty line has no run, and is read as the empty text
    next hempty =>
    have htext : text = "" := by simpa using hempty
    rw [htext]
    rfl
  · have hheld : within "t" (within "r" (Node.element "a:r" []
        [.empty "a:rPr" [⟨"lang", "en-US"⟩, ⟨"dirty", "0"⟩], .element "a:t" [] [.text text]]).trees)
        = (escape text.toList).map .char := by
      rw [within_trees, within_allTrees]
      exact List.append_nil _
    rw [hheld, charsOf_text, unescape?_escape_toList]

/-- A run has no properties of a paragraph. -/
theorem startNamed?_run (text : String) : (run text).startNamed? "pPr" = none := by
  rw [run]
  split <;> rfl

/-- A line is read as its paragraph. -/
theorem readParagraph_line (line : String) :
    readParagraph (allTrees [run line]) = seenLine line := by
  have hstarts : startsNamed "pPr" (allTrees [run line]) = [] := by
    rw [startsNamed_allTrees, List.filterMap_cons_none (startNamed?_run line)]
    rfl
  have htext := text?_run line
  rw [readParagraph, hstarts, allTrees, allTrees, List.append_nil, htext]
  rfl

/-- So is an item, with its level. -/
theorem readParagraph_item (item : ListItem) :
    readParagraph (allTrees [.empty "a:pPr" [⟨"lvl", toString (min item.level maxLevel)⟩], run item.text])
      = ⟨some (toString (min item.level maxLevel)), some (carried item.text)⟩ := by
  have hplain : arePlain [⟨"lvl", toString (min item.level maxLevel)⟩] = true :=
    arePlain_of_names ["lvl"] (by decide) rfl (List.forall_mem_singleton.2 (not_mem_toString_nat _))
  have hstarts : startsNamed "pPr" (allTrees
      [.empty "a:pPr" [⟨"lvl", toString (min item.level maxLevel)⟩], run item.text])
      = [Start.read ("a:pPr", [⟨"lvl", toString (min item.level maxLevel)⟩])] := by
    have hrun : [run item.text].filterMap (Node.startNamed? "pPr") = [] :=
      List.filterMap_cons_none (startNamed?_run item.text)
    have hnamed : Start.isNamed "pPr" ("a:pPr", []) = true := by decide
    rw [startsNamed_allTrees, List.filterMap_cons_some (Node.startNamed?_of_isNamed hnamed _), hrun]
    rfl
  have hlevel : Start.value? "lvl" ("a:pPr", [⟨"lvl", toString (min item.level maxLevel)⟩])
      = some (toString (min item.level maxLevel)) := (isVerbatim_toString _).unescape?
  have hheld : within "t" (within "r" (allTrees
      [.empty "a:pPr" [⟨"lvl", toString (min item.level maxLevel)⟩], run item.text]))
      = within "t" (within "r" (run item.text).trees) := by
    rw [allTrees, allTrees, allTrees, List.append_nil, within_append]
    rfl
  rw [readParagraph, hstarts, hheld, text?_run, List.head?_cons, Option.bind_some,
    attribute?_read hplain, hlevel]

/-- The paragraphs of a text are read as its lines. -/
theorem readParagraphs_text (text : String) :
    (contentsOf "p" (allTrees (paragraphs text))).map readParagraph = (textLines text).map seenLine := by
  have hheld : (paragraphs text).filterMap (Node.contents? "p") = (textLines text).map fun line =>
      [run line] := by
    rw [paragraphs, List.filterMap_map, ← List.filterMap_eq_map]
    rfl
  rw [contentsOf_allTrees, hheld, List.map_map, List.map_map]
  exact List.map_congr_left fun line _ => readParagraph_line line

/-- The paragraphs of a list are read as its items. -/
theorem readParagraphs_list (items : List ListItem) :
    (contentsOf "p" (allTrees (listParagraphs items))).map readParagraph = seenItems items := by
  rw [listParagraphs, seenItems]
  split
  · rfl
  · have hheld : (items.map itemParagraph).filterMap (Node.contents? "p") = items.map fun item =>
        [.empty "a:pPr" [⟨"lvl", toString (min item.level maxLevel)⟩], run item.text] := by
      rw [List.filterMap_map, ← List.filterMap_eq_map]
      rfl
    rw [contentsOf_allTrees, hheld, List.map_map, List.map_map]
    exact List.map_congr_left fun item _ => readParagraph_item item

/-! ## Shapes -/

theorem readShape?_text (held : List Node) :
    (Node.element "p:sp" [] held).trees.filterMap readShape? = [readText (allTrees held)] := rfl

theorem readShape?_picture (held : List Node) :
    (Node.element "p:pic" [] held).trees.filterMap readShape? = [readPicture (allTrees held)] := rfl

/-- Paragraphs are read from what was printed. -/
theorem readText_allTrees (held : List Node) :
    readText (allTrees held) = .paragraphs
      ((((held.flatMap (Node.within "nvSpPr")).flatMap (Node.within "nvPr")).filterMap
        (Node.startNamed? "ph")).head?.map fun start =>
          (start.read.attribute? "type", start.read.attribute? "idx"))
      ((contentsOf "p" (allTrees (held.flatMap (Node.within "txBody")))).map readParagraph) := by
  rw [readText, within_allTrees, within_allTrees, within_allTrees, startsNamed_allTrees, List.head?_map,
    Option.map_map]
  rfl

/-- A picture is read from what was printed. -/
theorem readPicture_allTrees (held : List Node) :
    readPicture (allTrees held) = .picture
      (((held.flatMap (Node.within "blipFill")).filterMap (Node.startNamed? "blip")).head?.bind
        fun start => start.read.attribute? "r:embed")
      (((((held.flatMap (Node.within "blipFill")).flatMap (Node.within "blip")).flatMap
        (Node.within "extLst")).flatMap (Node.within "ext")).filterMap
          (Node.startNamed? "svgBlip") |>.head?.bind fun start => start.read.attribute? "r:embed") := by
  simp only [readPicture, within_allTrees, startsNamed_allTrees, List.head?_map, Option.bind_map]
  rfl

/-- A shape that fills a placeholder is read by its position and its paragraphs. -/
theorem readShape?_placeholder (id : Nat) (name : String) {position : List Attribute} (body : List Node)
    (hposition : arePlain position = true) :
    (placeholder id name position body).trees.filterMap readShape?
      = [.paragraphs (some (Start.value? "type" ("p:ph", position), Start.value? "idx" ("p:ph", position)))
          ((contentsOf "p" (allTrees body)).map readParagraph)] := by
  rw [placeholder, readShape?_text, readText_allTrees]
  show [Seen.paragraphs (some ((Start.read ("p:ph", position)).attribute? "type",
    (Start.read ("p:ph", position)).attribute? "idx"))
    ((contentsOf "p" (allTrees (([.empty "a:bodyPr" [], .empty "a:lstStyle" []] ++ body) ++ []))).map
      readParagraph)] = _
  rw [List.append_nil, attribute?_read hposition, attribute?_read hposition, contentsOf_allTrees,
    contentsOf_allTrees]
  rfl

/-- A text box is read as the lines of its text. -/
theorem readShape?_textBox (id : Nat) (frame : Frame) (text : String) :
    (textBox id frame text).trees.filterMap readShape? = [.paragraphs none ((textLines text).map seenLine)] := by
  rw [textBox, readShape?_text, readText_allTrees, ← readParagraphs_text]
  show [Seen.paragraphs none ((contentsOf "p" (allTrees
    (([.element "a:bodyPr" [⟨"wrap", "square"⟩, ⟨"rtlCol", "0"⟩] [.empty "a:normAutofit" []],
      .empty "a:lstStyle" []] ++ paragraphs text) ++ []))).map readParagraph)] = _
  rw [List.append_nil, contentsOf_allTrees, contentsOf_allTrees]
  rfl

/-- A reference is read behind attributes of other names. -/
theorem attribute?_reference (tag : String) (before : List Attribute) {value : String}
    (hplain : arePlain (before ++ [.escaped "r:embed" value]) = true)
    (hbefore : ∀ a ∈ before, a.name ≠ "r:embed") :
    (Start.read (tag, before ++ [.escaped "r:embed" value])).attribute? "r:embed"
      = some (carried value) :=
  (attribute?_read hplain "r:embed").trans (value?_escaped tag value before [] hbefore)

/-- A picture is read by the ids of its images. -/
theorem readShape?_pictureNode (id : Nat) (frame : Frame) (image : String) (vector : Option String)
    (description : String) : (picture id frame image vector description).trees.filterMap readShape?
      = [.picture (some (carried image)) (vector.map carried)] := by
  have himage : (Start.read ("a:blip", [.escaped "r:embed" image])).attribute? "r:embed"
      = some (carried image) := by
    refine attribute?_reference "a:blip" [] ?_ fun _ h => absurd h List.not_mem_nil
    exact arePlain_of_names ["r:embed"] (by decide) rfl (List.forall_mem_singleton.2 (not_mem_escaped _ _))
  rw [picture, readShape?_picture, readPicture_allTrees]
  cases vector with
  | none =>
    show [Seen.picture ((Start.read ("a:blip", [.escaped "r:embed" image])).attribute? "r:embed") none] = _
    rw [himage]
    rfl
  | some vector =>
    have hvector : (Start.read ("asvg:svgBlip",
        [⟨"xmlns:asvg", "http://schemas.microsoft.com/office/drawing/2016/SVG/main"⟩,
          .escaped "r:embed" vector])).attribute? "r:embed" = some (carried vector) := by
      refine attribute?_reference "asvg:svgBlip"
        [⟨"xmlns:asvg", "http://schemas.microsoft.com/office/drawing/2016/SVG/main"⟩] ?_ (by simp)
      refine arePlain_of_names ["xmlns:asvg", "r:embed"] (by decide) rfl ?_
      exact List.forall_mem_cons.2
        ⟨by decide, List.forall_mem_singleton.2 (not_mem_escaped _ _)⟩
    show [Seen.picture ((Start.read ("a:blip", [.escaped "r:embed" image])).attribute? "r:embed")
      ((Start.read ("asvg:svgBlip",
        [⟨"xmlns:asvg", "http://schemas.microsoft.com/office/drawing/2016/SVG/main"⟩,
          .escaped "r:embed" vector])).attribute? "r:embed")] = _
    rw [himage, hvector]
    rfl

/-- A shape is read as what it is made to show. -/
theorem readShape?_node (id : Nat) (shape : Shape) :
    (shape.node id).trees.filterMap readShape? = [shape.seen] := by
  cases shape with
  | title centered text =>
    rw [Shape.node, readShape?_placeholder, readParagraphs_text]
    · cases centered <;> rfl
    · cases centered <;> decide
  | subtitle text =>
    rw [Shape.node, readShape?_placeholder id "Subtitle" _ (by decide), readParagraphs_text]
    rfl
  | list items =>
    rw [Shape.node, readShape?_placeholder id "Content" _ (by decide), readParagraphs_list]
    rfl
  | textBox frame text => exact readShape?_textBox id frame text
  | picture frame image vector description => exact readShape?_pictureNode id frame image vector description

/-- Shapes are read one after the other. -/
theorem readShapes_shapeNodes (id : Nat) (shapes : List Shape) :
    (allTrees (shapeNodes id shapes)).filterMap readShape? = shapes.map Shape.seen := by
  induction shapes generalizing id with
  | nil => rfl
  | cons shape shapes ih =>
    rw [shapeNodes, allTrees, List.filterMap_append, readShape?_node, ih]
    rfl

/-- The tree of shapes of a slide, behind the properties of their group. -/
theorem within_sheetNode (shapes : List Shape) :
    within "spTree" (within "cSld" (within "sld" (sheetNode shapes).trees))
      = allTrees (group ++ shapeNodes 2 shapes) := by
  rw [within_trees, within_allTrees, within_allTrees]
  exact congrArg allTrees (List.append_nil (group ++ shapeNodes 2 shapes))

/-- A slide is read as what its shapes were made to show. -/
theorem readShapes?_sheet (shapes : List Shape) :
    readShapes? (sheet shapes) = some (shapes.map Shape.seen) := by
  -- the properties of the group in front of the shapes are no shape
  have hgroup : (allTrees group).filterMap readShape? = [] := by rfl
  rw [readShapes?, sheet, readTrees?_document (isPlain_sheetNode shapes), Option.map_some,
    within_sheetNode, allTrees_append, List.filterMap_append, hgroup, readShapes_shapeNodes]
  rfl

end Slide

end SlideDeck
