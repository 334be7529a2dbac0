import Mathlib.Data.List.Forall2
import SlideDeck.Proofs.Slide.Shown

/-!
# What is drawn for a shape

Beyond what a shape shows, a reader of the format finds its number, its place, the runs of text in its
paragraphs and its description. `readDrawn?` reads all of it, and of the document of a slide it reads what
is to be read of the shapes (`exists_readDrawing?_sheet`).
-/

namespace SlideDeck

namespace Slide

open Xml

/-! ## Reading -/

/-- The place of a shape as it is read. -/
structure Position where
  x? : Option String
  y? : Option String
  cx? : Option String
  cy? : Option String

/-- All that is read of a shape. The runs are those of each paragraph, with the text of each text element
in a run. -/
structure Drawn where
  seen : Seen
  id? : Option String
  position? : Option Position
  runs : List (List (List (Option String)))
  description? : Option String

/-- The runs of text that a paragraph holds. -/
def readRuns (held : List Tree) : List (List (Option String)) :=
  (contentsOf "r" held).map fun run =>
    (contentsOf "t" run).map fun text => (unescape? (charsOf text)).map String.ofList

/-- The tag that numbers and describes a shape. -/
def readProperties? (held : List Tree) : Option Element :=
  (startsNamed "cNvPr" (within "nvSpPr" held ++ within "nvPicPr" held)).head?

/-- The place of a shape, if it has one of its own. -/
def readPosition? (held : List Tree) : Option Position := do
  let place := within "xfrm" (within "spPr" held)
  let corner ← (startsNamed "off" place).head?
  let size ← (startsNamed "ext" place).head?
  pure ⟨corner.attribute? "x", corner.attribute? "y", size.attribute? "cx", size.attribute? "cy"⟩

/-- All that is read of the shape that an element is. -/
def readDrawn? : Tree → Option Drawn
  | .char _ => none
  | .element start held => (readShape? (.element start held)).map fun seen =>
    { seen
      id? := (readProperties? held).bind (·.attribute? "id")
      position? := readPosition? held
      runs := (contentsOf "p" (within "txBody" held)).map readRuns
      description? := (readProperties? held).bind (·.attribute? "descr") }

/-- All that is read of the shapes of a slide, in order. -/
def readDrawing? (xml : String) : Option (List Drawn) :=
  (readTrees? xml).map fun trees =>
    (within "spTree" (within "cSld" (within "sld" trees))).filterMap readDrawn?

/-! ## What is meant -/

/-- The runs of a line: one with its text, and none if the line is empty. -/
def lineRuns (line : String) : List (List (Option String)) :=
  if line.isEmpty then [] else [[some (carried line)]]

/-- The runs of the paragraphs of a list. Without items, there is one paragraph. -/
def itemRuns (items : List ListItem) : List (List (List (Option String))) :=
  if items.isEmpty then [[]] else items.map fun item => lineRuns item.text

/-- A frame as it is read. -/
def Frame.position (frame : Frame) : Position :=
  ⟨some (toString frame.x), some (toString frame.y), some (toString frame.cx), some (toString frame.cy)⟩

/-- What is to be read of a shape with a number. A text has a paragraph for each of its lines, a shape that
fills a placeholder has no place of its own, and only a picture is described. -/
inductive Shape.IsDrawn (id : Nat) : Shape → Drawn → Prop
  | title (centered : Bool) {text : String} {lines : List String} (h : IsLines text lines) :
    IsDrawn id (.title centered text)
      { seen := .paragraphs (some (some (if centered then "ctrTitle" else "title"), none))
          (lines.map seenLine)
        id? := some (toString id)
        position? := none
        runs := lines.map lineRuns
        description? := none }
  | subtitle {text : String} {lines : List String} (h : IsLines text lines) :
    IsDrawn id (.subtitle text)
      { seen := .paragraphs (some (some "subTitle", some "1")) (lines.map seenLine)
        id? := some (toString id)
        position? := none
        runs := lines.map lineRuns
        description? := none }
  | list (items : List ListItem) :
    IsDrawn id (.list items)
      { seen := .paragraphs (some (none, some "1")) (seenItems items)
        id? := some (toString id)
        position? := none
        runs := itemRuns items
        description? := none }
  | textBox (frame : Frame) {text : String} {lines : List String} (h : IsLines text lines) :
    IsDrawn id (.textBox frame text)
      { seen := .paragraphs none (lines.map seenLine)
        id? := some (toString id)
        position? := some frame.position
        runs := lines.map lineRuns
        description? := none }
  | picture (frame : Frame) (image : String) (vector : Option String) (description : String) :
    IsDrawn id (.picture frame image vector description)
      { seen := .picture (some (carried image)) (vector.map carried)
        id? := some (toString id)
        position? := some frame.position
        runs := []
        description? := some (carried description) }

/-- The runs of the paragraphs that a shape is made with. -/
def Shape.runs : Shape → List (List (List (Option String)))
  | .title _ text | .subtitle text | .textBox _ text => (textLines text).map lineRuns
  | .list items => itemRuns items
  | .picture _ _ _ _ => []

/-- The place of a shape; those that fill a placeholder have none. -/
def Shape.position? : Shape → Option Position
  | .textBox frame _ | .picture frame _ _ _ => some frame.position
  | _ => none

/-- The description of a shape. -/
def Shape.description? : Shape → Option String
  | .picture _ _ _ description => some (carried description)
  | _ => none

/-- What is drawn for a shape with a number. -/
def Shape.drawn (id : Nat) (shape : Shape) : Drawn where
  seen := shape.seen
  id? := some (toString id)
  position? := shape.position?
  runs := shape.runs
  description? := shape.description?

/-- What is drawn for a shape is what is to be read of it. -/
theorem Shape.isDrawn_drawn (id : Nat) (shape : Shape) : shape.IsDrawn id (shape.drawn id) := by
  cases shape with
  | title centered text => exact .title centered (isLines_textLines text)
  | subtitle text => exact .subtitle (isLines_textLines text)
  | list items => exact .list items
  | textBox frame text => exact .textBox frame (isLines_textLines text)
  | picture frame image vector description => exact .picture frame image vector description

/-! ## Runs -/

/-- The run of a line is read, whatever stands before it that is no run. -/
theorem readRuns_run (before : List Node) (h : before.filterMap (Node.contents? "r") = [])
    (line : String) : readRuns (allTrees (before ++ [run line])) = lineRuns line := by
  have hlast : (before ++ [run line]).filterMap (Node.contents? "r")
      = ((run line).contents? "r").toList := by
    rw [List.filterMap_append, h, List.nil_append, List.filterMap_cons]
    cases (run line).contents? "r" <;> rfl
  rw [readRuns, contentsOf_allTrees, hlast, run, lineRuns]
  split
  · rfl
  · show [(contentsOf "t" (allTrees [.empty "a:rPr" [⟨"lang", "en-US"⟩, ⟨"dirty", "0"⟩],
      .element "a:t" [] [.text line]])).map _] = _
    rw [contentsOf_allTrees]
    show [[(unescape? (charsOf ((escape line.toList).map .char ++ []))).map String.ofList]] = _
    rw [List.append_nil, charsOf_text, unescape?_escape_toList]

/-- The runs of the paragraphs of a text are those of its lines. -/
theorem readRuns_paragraphs (text : String) :
    (contentsOf "p" (allTrees (paragraphs text))).map readRuns = (textLines text).map lineRuns := by
  have hheld : (paragraphs text).filterMap (Node.contents? "p") = (textLines text).map fun line =>
      [run line] := by
    rw [paragraphs, List.filterMap_map, ← List.filterMap_eq_map]
    rfl
  rw [contentsOf_allTrees, hheld, List.map_map, List.map_map]
  exact List.map_congr_left fun line _ => readRuns_run [] rfl line

/-- The runs of the paragraphs of a list are those of its items. -/
theorem readRuns_listParagraphs (items : List ListItem) :
    (contentsOf "p" (allTrees (listParagraphs items))).map readRuns = itemRuns items := by
  rw [listParagraphs, itemRuns]
  split
  · rfl
  · have hheld : (items.map itemParagraph).filterMap (Node.contents? "p") = items.map fun item =>
        [.empty "a:pPr" [⟨"lvl", toString (min item.level maxLevel)⟩]] ++ [run item.text] := by
      rw [List.filterMap_map, ← List.filterMap_eq_map]
      rfl
    rw [contentsOf_allTrees, hheld, List.map_map, List.map_map]
    exact List.map_congr_left fun item _ => readRuns_run [_] rfl item.text

/-! ## Places -/

/-- An integer needs no escaping. -/
theorem isVerbatim_toString_int (n : Int) : IsVerbatim (toString n) := by
  cases n with
  | ofNat n => exact isVerbatim_toString n
  | negSucc n =>
    have htext : toString (Int.negSucc n) = "-" ++ toString (n + 1) := rfl
    rw [htext]
    exact .append (by decide) (isVerbatim_toString (n + 1))

/-- A value that needs no escaping is read as it is. -/
theorem attribute?_verbatim {start : Start} (h : arePlain start.2 = true) {key value : String}
    (hfind : start.2.find? (·.name == key) = some ⟨key, value⟩) (hvalue : IsVerbatim value) :
    start.read.attribute? key = some value := by
  rw [attribute?_read h, Start.value?, hfind, Option.bind_some]
  exact hvalue.unescape?

/-- The place of a frame is read from what is printed in the properties of a shape. -/
theorem readPosition?_transform {held : List Node} (frame : Frame) (rest : List Node)
    (h : held.flatMap (Node.within "spPr") = transform frame :: rest)
    (hrest : rest.flatMap (Node.within "xfrm") = []) :
    readPosition? (allTrees held) = some frame.position := by
  have hplace : within "xfrm" (within "spPr" (allTrees held)) = allTrees
      [.empty "a:off" [⟨"x", toString frame.x⟩, ⟨"y", toString frame.y⟩],
        .empty "a:ext" [⟨"cx", toString frame.cx⟩, ⟨"cy", toString frame.cy⟩]] := by
    rw [within_allTrees, h, within_allTrees, List.flatMap_cons, hrest, List.append_nil]
    rfl
  rw [readPosition?, hplace, startsNamed_allTrees, startsNamed_allTrees]
  show some (Position.mk
    ((Start.read ("a:off", [⟨"x", toString frame.x⟩, ⟨"y", toString frame.y⟩])).attribute? "x")
    ((Start.read ("a:off", [⟨"x", toString frame.x⟩, ⟨"y", toString frame.y⟩])).attribute? "y")
    ((Start.read ("a:ext", [⟨"cx", toString frame.cx⟩, ⟨"cy", toString frame.cy⟩])).attribute? "cx")
    ((Start.read ("a:ext", [⟨"cx", toString frame.cx⟩, ⟨"cy", toString frame.cy⟩])).attribute? "cy")) = _
  rw [attribute?_verbatim (arePlain_corner frame) rfl (isVerbatim_toString_int frame.x),
    attribute?_verbatim (arePlain_corner frame) rfl (isVerbatim_toString_int frame.y),
    attribute?_verbatim (arePlain_size frame) rfl (isVerbatim_toString_int frame.cx),
    attribute?_verbatim (arePlain_size frame) rfl (isVerbatim_toString_int frame.cy)]
  rfl

/-! ## Shapes -/

/-- What is drawn for an element that is read as a shape is read from what was printed in it. -/
theorem readDrawn?_element {tag : String} {attributes : List Attribute} {held : List Node} {seen : Seen}
    (h : (Node.element tag attributes held).trees.filterMap readShape? = [seen]) :
    (Node.element tag attributes held).trees.filterMap readDrawn? =
      [{ seen
         id? := (readProperties? (allTrees held)).bind (·.attribute? "id")
         position? := readPosition? (allTrees held)
         runs := (contentsOf "p" (allTrees (held.flatMap (Node.within "txBody")))).map readRuns
         description? := (readProperties? (allTrees held)).bind (·.attribute? "descr") }] := by
  have hshape : readShape? (.element (startOf tag attributes) (allTrees held)) = some seen := by
    have hcons : (Node.element tag attributes held).trees.filterMap readShape?
        = (readShape? (.element (startOf tag attributes) (allTrees held))).toList := by
      rw [Node.trees, List.filterMap_cons]
      cases readShape? (.element (startOf tag attributes) (allTrees held)) <;> rfl
    rw [hcons] at h
    exact Option.toList_eq_singleton_iff.1 h
  rw [Node.trees, List.filterMap_cons, readDrawn?, hshape, within_allTrees]
  rfl

/-- The tag that numbers a shape is read from what was printed. -/
theorem readProperties?_allTrees {held : List Node} (start : Start)
    (h : (held.flatMap (Node.within "nvSpPr") ++ held.flatMap (Node.within "nvPicPr")).filterMap
      (Node.startNamed? "cNvPr") = [start]) : readProperties? (allTrees held) = some start.read := by
  rw [readProperties?, within_allTrees, within_allTrees, ← allTrees_append, startsNamed_allTrees, h]
  rfl

/-- The number of a shape is read, whatever stands behind it. -/
theorem attribute?_identity (id : Nat) (name : String) (after : List Attribute)
    (h : arePlain (identity id name ++ after) = true) :
    (Start.read ("p:cNvPr", identity id name ++ after)).attribute? "id" = some (toString id) :=
  @attribute?_verbatim ("p:cNvPr", identity id name ++ after) h _ _ rfl (isVerbatim_toString id)

/-- Without a place among its properties, a shape has none. -/
theorem readPosition?_of_nil {held : List Node}
    (h : (held.flatMap (Node.within "spPr")).flatMap (Node.within "xfrm") = []) :
    readPosition? (allTrees held) = none := by
  have hplace : within "xfrm" (within "spPr" (allTrees held)) = [] := by
    rw [within_allTrees, within_allTrees, h]
    rfl
  simp only [readPosition?, hplace]
  rfl

section Text

variable {id : Nat} {name : String} {held before body : List Node} {seen : Seen}

/-- All that is read of a shape with text: its number, its place, and the runs in the body of its text. -/
theorem readDrawn?_text (hname : '"' ∉ name.toList)
    (hseen : (Node.element "p:sp" [] held).trees.filterMap readShape? = [seen])
    (hstart : (held.flatMap (Node.within "nvSpPr") ++ held.flatMap (Node.within "nvPicPr")).filterMap
      (Node.startNamed? "cNvPr") = [("p:cNvPr", identity id name)])
    (hbody : held.flatMap (Node.within "txBody") = before ++ body)
    (hbefore : before.filterMap (Node.contents? "p") = []) :
    (Node.element "p:sp" [] held).trees.filterMap readDrawn? =
      [⟨seen, some (toString id), readPosition? (allTrees held),
        (contentsOf "p" (allTrees body)).map readRuns, none⟩] := by
  have hplain := arePlain_identity id hname
  have hid : (Start.read ("p:cNvPr", identity id name)).attribute? "id" = some (toString id) := by
    have happend := attribute?_identity id name []
    rw [List.append_nil] at happend
    exact happend hplain
  have hdescription : (Start.read ("p:cNvPr", identity id name)).attribute? "descr" = none :=
    @attribute?_read ("p:cNvPr", identity id name) hplain "descr"
  have hparagraphs : contentsOf "p" (allTrees (before ++ body)) = contentsOf "p" (allTrees body) := by
    rw [contentsOf_allTrees, contentsOf_allTrees, List.filterMap_append, hbefore, List.nil_append]
  rw [readDrawn?_element hseen, readProperties?_allTrees _ hstart, Option.bind_some, Option.bind_some, hid,
    hdescription, hbody, hparagraphs]

/-- All that is read of a shape that fills a placeholder. -/
theorem readDrawn?_placeholder (hname : '"' ∉ name.toList) {position : List Attribute}
    (hseen : (placeholder id name position body).trees.filterMap readShape? = [seen]) :
    (placeholder id name position body).trees.filterMap readDrawn? =
      [⟨seen, some (toString id), none, (contentsOf "p" (allTrees body)).map readRuns, none⟩] := by
  have hbefore : [Node.empty "a:bodyPr" [], .empty "a:lstStyle" []].filterMap (Node.contents? "p") = [] :=
    rfl
  rw [placeholder, readDrawn?_text hname hseen rfl (List.append_nil _) hbefore, readPosition?_of_nil]
  rfl

end Text

/-- A text box is read as what it is made of. -/
theorem readDrawn?_textBox (id : Nat) (frame : Frame) (text : String) :
    (textBox id frame text).trees.filterMap readDrawn? = [(Shape.textBox frame text).drawn id] := by
  have hname : '"' ∉ "TextBox".toList := by decide
  have hbefore : [Node.element "a:bodyPr" [⟨"wrap", "square"⟩, ⟨"rtlCol", "0"⟩]
      [.empty "a:normAutofit" []], .empty "a:lstStyle" []].filterMap (Node.contents? "p") = [] := rfl
  rw [textBox, readDrawn?_text hname (readShape?_textBox id frame text) rfl (List.append_nil _) hbefore,
    readPosition?_transform frame [rectangle, .empty "a:noFill" []] rfl rfl,
    readRuns_paragraphs]
  rfl

/-- So is a picture. -/
theorem readDrawn?_picture (id : Nat) (frame : Frame) (image : String) (vector : Option String)
    (description : String) : (picture id frame image vector description).trees.filterMap readDrawn?
      = [(Shape.picture frame image vector description).drawn id] := by
  have hplain := arePlain_described id description
  have hdescription : (Start.read ("p:cNvPr", identity id "Picture" ++ [.escaped "descr" description])).attribute?
      "descr" = some (carried description) := by
    refine (@attribute?_read ("p:cNvPr", _) hplain "descr").trans ?_
    exact unescape?_escaped "descr" description
  rw [picture, readDrawn?_element (readShape?_pictureNode id frame image vector description),
    readProperties?_allTrees ("p:cNvPr", identity id "Picture" ++ [.escaped "descr" description]) rfl,
    Option.bind_some, Option.bind_some, attribute?_identity id _ _ hplain, hdescription, Shape.drawn]
  congr 2
  exact readPosition?_transform frame [rectangle] rfl rfl

/-- All that is read of a shape is what it is made of. -/
theorem readDrawn?_node (id : Nat) (shape : Shape) :
    (shape.node id).trees.filterMap readDrawn? = [shape.drawn id] := by
  have hseen := readShape?_node id shape
  cases shape with
  | title centered text =>
    rw [Shape.node, readDrawn?_placeholder (by decide) hseen, readRuns_paragraphs]
    rfl
  | subtitle text =>
    rw [Shape.node, readDrawn?_placeholder (by decide) hseen, readRuns_paragraphs]
    rfl
  | list items =>
    rw [Shape.node, readDrawn?_placeholder (by decide) hseen, readRuns_listParagraphs]
    rfl
  | textBox frame text => exact readDrawn?_textBox id frame text
  | picture frame image vector description => exact readDrawn?_picture id frame image vector description

/-- The shapes are numbered one after the other. -/
theorem readDrawn?_shapeNodes (id : Nat) (shapes : List Shape) :
    (allTrees (shapeNodes id shapes)).filterMap readDrawn?
      = (shapes.zipIdx id).map fun numbered => numbered.1.drawn numbered.2 := by
  induction shapes generalizing id with
  | nil => rfl
  | cons shape shapes ih =>
    rw [shapeNodes, allTrees, List.filterMap_append, readDrawn?_node, ih, List.zipIdx_cons]
    rfl

/-- All that is read of a slide is what is to be read of its shapes, which are numbered from two on. -/
theorem exists_readDrawing?_sheet (shapes : List Shape) :
    ∃ drawn, readDrawing? (sheet shapes) = some drawn ∧
      List.Forall₂ (fun numbered found => numbered.1.IsDrawn numbered.2 found) (shapes.zipIdx 2) drawn := by
  have hgroup : (allTrees group).filterMap readDrawn? = [] := by rfl
  refine ⟨(shapes.zipIdx 2).map fun numbered => numbered.1.drawn numbered.2, ?_, ?_⟩
  · rw [readDrawing?, sheet, readTrees?_document (isPlain_sheetNode shapes), Option.map_some,
      within_sheetNode, allTrees_append, List.filterMap_append, hgroup, readDrawn?_shapeNodes]
    rfl
  · rw [List.forall₂_map_right_iff, List.forall₂_same]
    exact fun numbered _ => numbered.1.isDrawn_drawn numbered.2

end Slide

end SlideDeck
