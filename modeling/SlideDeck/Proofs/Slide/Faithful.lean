import Mathlib.Data.List.Forall2
import Mathlib.Data.List.Nodup
import SlideDeck.Proofs.Slide.Drawn
import SlideDeck.Proofs.Xml.Skeleton

/-!
# Slides say what their shapes say

The document of a slide is balanced and can be read; its shapes are read as what they were made of and
are numbered without gaps; and the texts in them decide neither what elements and attributes there are
nor any value but that of a description (`faithful_sheet`). What a text does decide is how many lines it
has and which of them are empty.
-/

namespace SlideDeck

namespace Slide

open Xml

/-! ## Numbers -/

/-- The number in a start tag, if it is a tag that numbers a shape. -/
def numberOf? (start : Start) : Option (Option String) :=
  if Start.isNamed "cNvPr" (start.1, []) then some (start.value? "id") else none

/-- The tag that numbers a shape has its number. -/
theorem numberOf?_identity (id : Nat) (name : String) (after : List Attribute) :
    numberOf? ("p:cNvPr", identity id name ++ after) = some (some (toString id)) := by
  have hvalue : Start.value? "id" ("p:cNvPr", identity id name ++ after) = some (toString id) :=
    (isVerbatim_toString id).unescape?
  have hnamed : Start.isNamed "cNvPr" ("p:cNvPr", []) = true := by decide
  rw [numberOf?, hnamed, if_pos rfl, hvalue]

/-- Other tags have none. -/
theorem numberOf?_eq_none {tag : String} (h : Start.isNamed "cNvPr" (tag, []) = false)
    (attributes : List Attribute) : numberOf? (tag, attributes) = none := by
  rw [numberOf?, h, if_neg Bool.false_ne_true]

/-- A run numbers nothing. -/
theorem numbers_run (text : String) : (run text).starts.filterMap numberOf? = [] := by
  rw [run]
  split <;> rfl

/-- Nor do the paragraphs of a text. -/
theorem numbers_paragraphs (text : String) : (allStarts (paragraphs text)).filterMap numberOf? = [] := by
  apply filterMap_allStarts_eq_nil
  intro node hnode
  obtain ⟨line, -, rfl⟩ := List.mem_map.1 hnode
  rw [filterMap_starts_element, filterMap_allStarts_cons, numbers_run]
  rfl

/-- Nor do those of a list. -/
theorem numbers_listParagraphs (items : List ListItem) :
    (allStarts (listParagraphs items)).filterMap numberOf? = [] := by
  rw [listParagraphs]
  split
  · rfl
  · apply filterMap_allStarts_eq_nil
    intro node hnode
    obtain ⟨item, -, rfl⟩ := List.mem_map.1 hnode
    rw [itemParagraph, filterMap_starts_element, filterMap_allStarts_cons, filterMap_allStarts_cons,
      numbers_run, filterMap_starts_empty, numberOf?_eq_none (by decide), numberOf?_eq_none (by decide)]
    rfl

/-- A shape that fills a placeholder is numbered once. -/
theorem numbers_placeholder (id : Nat) (name : String) (position : List Attribute) {body : List Node}
    (h : (allStarts body).filterMap numberOf? = []) :
    (placeholder id name position body).starts.filterMap numberOf? = [some (toString id)] := by
  have hidentity := numberOf?_identity id name []
  rw [List.append_nil] at hidentity
  -- of the tags before and behind the one with the number, none has the name of that one
  simp (disch := decide) only [placeholder, filterMap_starts_element, filterMap_allStarts_cons,
    filterMap_starts_empty, filterMap_allStarts_nil, List.cons_append, List.nil_append, hidentity, h,
    numberOf?_eq_none]
  rfl

/-- So is a text box. -/
theorem numbers_textBox (id : Nat) (frame : Frame) (text : String) :
    (textBox id frame text).starts.filterMap numberOf? = [some (toString id)] := by
  have hidentity := numberOf?_identity id "TextBox" []
  rw [List.append_nil] at hidentity
  simp (disch := decide) only [textBox, transform, rectangle, filterMap_starts_element,
    filterMap_allStarts_cons, filterMap_starts_empty, filterMap_allStarts_nil, List.cons_append,
    List.nil_append, hidentity, numbers_paragraphs, numberOf?_eq_none]
  rfl

/-- The reference to an image numbers nothing. -/
theorem numbers_imageReference (image : String) (vector : Option String) :
    (imageReference image vector).starts.filterMap numberOf? = [] := by
  cases vector with
  | none =>
    rw [imageReference, filterMap_starts_empty, numberOf?_eq_none (by decide)]
    rfl
  | some vector =>
    simp (disch := decide) only [imageReference, vectorExtension, filterMap_starts_element,
      filterMap_allStarts_cons, filterMap_starts_empty, filterMap_allStarts_nil, numberOf?_eq_none]
    rfl

/-- A picture is numbered once. -/
theorem numbers_picture (id : Nat) (frame : Frame) (image : String) (vector : Option String)
    (description : String) :
    (picture id frame image vector description).starts.filterMap numberOf? = [some (toString id)] := by
  have hidentity := numberOf?_identity id "Picture" [.escaped "descr" description]
  simp (disch := decide) only [picture, transform, rectangle, filterMap_starts_element,
    filterMap_allStarts_cons, filterMap_starts_empty, filterMap_allStarts_nil, hidentity,
    numbers_imageReference, numberOf?_eq_none]
  rfl

/-- So every shape has one number. -/
theorem numbers_node (id : Nat) (shape : Shape) :
    (shape.node id).starts.filterMap numberOf? = [some (toString id)] := by
  cases shape with
  | title centered text => exact numbers_placeholder id "Title" _ (numbers_paragraphs text)
  | subtitle text => exact numbers_placeholder id "Subtitle" _ (numbers_paragraphs text)
  | list items => exact numbers_placeholder id "Content" _ (numbers_listParagraphs items)
  | textBox frame text => exact numbers_textBox id frame text
  | picture frame image vector description => exact numbers_picture id frame image vector description

/-- Shapes are numbered one after the other. -/
theorem numbers_shapeNodes (id : Nat) (shapes : List Shape) :
    (allStarts (shapeNodes id shapes)).filterMap numberOf?
      = (List.range' id shapes.length).map fun n => some (toString n) := by
  induction shapes generalizing id with
  | nil => rfl
  | cons shape shapes ih =>
    rw [shapeNodes, filterMap_allStarts_cons, numbers_node, ih, List.length_cons, List.range'_succ]
    rfl

/-- The group of the shapes is number one, and the shapes are numbered from two on. -/
theorem numbers_sheet (shapes : List Shape) :
    ((scan (sheet shapes)).elements.filter (·.isNamed "cNvPr")).map (·.attribute? "id")
      = (List.range' 1 (shapes.length + 1)).map fun n => some (toString n) := by
  have hgroup : (allStarts group).filterMap numberOf? = [some "1"] := by rfl
  have hshapes := numbers_shapeNodes 2 shapes
  rw [sheet, map_attribute?_named (isPlain_sheetNode shapes)]
  show (sheetNode shapes).starts.filterMap numberOf? = _
  simp only [sheetNode, masterColours, filterMap_starts_element, filterMap_allStarts_cons,
    filterMap_starts_empty, filterMap_allStarts_nil, allStarts_append, List.filterMap_append, hgroup,
    hshapes, List.range'_succ, List.map_cons]
  show (some "1" :: ((List.range' 2 shapes.length).map fun n => some (toString n)) ++ []) ++ [] = _
  rw [List.append_nil, List.append_nil]
  rfl

/-! ## What texts decide -/

/-- Whether two texts have as many lines and the same of them are empty. -/
def SameLines (a b : String) : Prop :=
  ∃ lines others, IsLines a lines ∧ IsLines b others ∧
    List.Forall₂ (fun line other => line.isEmpty = other.isEmpty) lines others

/-- Whether two shapes are made alike, with texts of their own. -/
inductive Shape.Alike : Shape → Shape → Prop
  | title (centered : Bool) {text other : String} (h : SameLines text other) :
    Alike (.title centered text) (.title centered other)
  | subtitle {text other : String} (h : SameLines text other) : Alike (.subtitle text) (.subtitle other)
  | list {items others : List ListItem}
    (h : List.Forall₂ (fun item other => item.level = other.level ∧
      item.text.isEmpty = other.text.isEmpty) items others) : Alike (.list items) (.list others)
  | textBox (frame : Frame) {text other : String} (h : SameLines text other) :
    Alike (.textBox frame text) (.textBox frame other)
  | picture (frame : Frame) (image other : String) {vector otherVector : Option String}
    (h : vector.isSome = otherVector.isSome) (description otherDescription : String) :
    Alike (.picture frame image vector description) (.picture frame other otherVector otherDescription)

/-- The attributes with a text of the caller for their value. -/
def textual : List String := ["descr", "r:embed"]

theorem maskAttributes_append (a b : List Attribute) :
    maskAttributes textual (a ++ b) = maskAttributes textual a ++ maskAttributes textual b :=
  List.map_append

/-- The value of a textual attribute is masked. -/
theorem maskAttributes_escaped (name : String) (h : name ∈ textual) (value : String) :
    maskAttributes textual [.escaped name value] = [(name.toList, none)] := by
  have hname : String.ofList name.toList ∈ textual := by rwa [String.ofList_toList]
  simp only [maskAttributes, Attribute.escaped, List.map_cons, List.map_nil, maskAttribute, hname, ite_true]

/-- Nodes of the same skeletons make the same together. -/
theorem allSkeletons_congr {nodes others : List Node}
    (h : List.Forall₂ (fun node other => node.skeleton textual = other.skeleton textual) nodes others) :
    allSkeletons textual nodes = allSkeletons textual others := by
  induction h with
  | nil => rfl
  | cons hnode _ ih => rw [allSkeletons, allSkeletons, hnode, ih]

/-- The skeleton of an element is decided by those of what it holds. -/
theorem skeleton_element_congr (name : String) (attributes : List Attribute) {nodes others : List Node}
    (h : allSkeletons textual nodes = allSkeletons textual others) :
    (Node.element name attributes nodes).skeleton textual
      = (Node.element name attributes others).skeleton textual := by
  rw [Node.skeleton, Node.skeleton, h]

/-- Of a run, the text decides only whether there is one. -/
theorem skeleton_run {text other : String} (h : text.isEmpty = other.isEmpty) :
    (run text).skeleton textual = (run other).skeleton textual := by
  rw [run, run, h]
  split <;> rfl

/-- Texts with the same lines have the same paragraphs, apart from the texts in them. -/
theorem skeletons_paragraphs {text other : String} (h : SameLines text other) :
    allSkeletons textual (paragraphs text) = allSkeletons textual (paragraphs other) := by
  apply allSkeletons_congr
  obtain ⟨lines, others, hlines, hothers, h⟩ := h
  obtain rfl := hlines.eq_textLines
  obtain rfl := hothers.eq_textLines
  rw [paragraphs, paragraphs, List.forall₂_map_left_iff, List.forall₂_map_right_iff]
  refine h.imp fun line otherLine hempty => skeleton_element_congr "a:p" [] ?_
  simp only [allSkeletons, skeleton_run hempty]

/-- So have lists with the same levels. -/
theorem skeletons_listParagraphs {items others : List ListItem}
    (h : List.Forall₂ (fun item other => item.level = other.level ∧
      item.text.isEmpty = other.text.isEmpty) items others) :
    allSkeletons textual (listParagraphs items) = allSkeletons textual (listParagraphs others) := by
  have hempty : items.isEmpty = others.isEmpty := by
    cases h <;> rfl
  rw [listParagraphs, listParagraphs, hempty]
  split
  · rfl
  · apply allSkeletons_congr
    rw [List.forall₂_map_left_iff, List.forall₂_map_right_iff]
    refine h.imp fun item other hitem => ?_
    obtain ⟨hlevel, htext⟩ := hitem
    rw [itemParagraph, itemParagraph, hlevel]
    refine skeleton_element_congr "a:p" [] ?_
    simp only [allSkeletons, skeleton_run htext]

/-- A placeholder is the same around the same paragraphs. -/
theorem skeleton_placeholder (id : Nat) (name : String) (position : List Attribute)
    {body other : List Node} (h : allSkeletons textual body = allSkeletons textual other) :
    (placeholder id name position body).skeleton textual
      = (placeholder id name position other).skeleton textual := by
  simp only [placeholder, Node.skeleton, allSkeletons, allSkeletons_append, h]

/-- A text box is the same but for its text. -/
theorem skeleton_textBox (id : Nat) (frame : Frame) {text other : String} (h : SameLines text other) :
    (textBox id frame text).skeleton textual = (textBox id frame other).skeleton textual := by
  simp only [textBox, Node.skeleton, allSkeletons, allSkeletons_append, skeletons_paragraphs h]

/-- A reference is the same but for the ids in it. -/
theorem skeleton_imageReference (image other : String) {vector otherVector : Option String}
    (h : vector.isSome = otherVector.isSome) :
    (imageReference image vector).skeleton textual
      = (imageReference other otherVector).skeleton textual := by
  have hembed := maskAttributes_escaped "r:embed" (by decide)
  match vector, otherVector, h with
  | none, none, _ => simp only [imageReference, Node.skeleton, hembed]
  | some vector, some otherVector, _ =>
    have hcons (value : String) := maskAttributes_append
      [⟨"xmlns:asvg", "http://schemas.microsoft.com/office/drawing/2016/SVG/main"⟩]
      [.escaped "r:embed" value]
    simp only [List.cons_append, List.nil_append, hembed] at hcons
    simp only [imageReference, vectorExtension, Node.skeleton, allSkeletons, hembed, hcons]

/-- A picture is the same but for its image and its description. -/
theorem skeleton_picture (id : Nat) (frame : Frame) (image other : String)
    {vector otherVector : Option String} (h : vector.isSome = otherVector.isSome)
    (description otherDescription : String) :
    (picture id frame image vector description).skeleton textual
      = (picture id frame other otherVector otherDescription).skeleton textual := by
  have hdescription := maskAttributes_escaped "descr" (by decide)
  simp only [picture, Node.skeleton, allSkeletons, maskAttributes_append, hdescription,
    skeleton_imageReference image other h]

/-- Shapes that are alike have the same skeleton. -/
theorem skeleton_node (id : Nat) {shape other : Shape} (h : shape.Alike other) :
    (shape.node id).skeleton textual = (other.node id).skeleton textual := by
  cases h with
  | title centered h => exact skeleton_placeholder id "Title" _ (skeletons_paragraphs h)
  | subtitle h => exact skeleton_placeholder id "Subtitle" _ (skeletons_paragraphs h)
  | list h => exact skeleton_placeholder id "Content" _ (skeletons_listParagraphs h)
  | textBox frame h => exact skeleton_textBox id frame h
  | picture frame image other h description otherDescription =>
    exact skeleton_picture id frame image other h description otherDescription

/-- So do lists of them. -/
theorem skeletons_shapeNodes (id : Nat) {shapes others : List Shape}
    (h : List.Forall₂ Shape.Alike shapes others) :
    allSkeletons textual (shapeNodes id shapes) = allSkeletons textual (shapeNodes id others) := by
  induction h generalizing id with
  | nil => rfl
  | cons hshape _ ih =>
    rw [shapeNodes, shapeNodes, allSkeletons, allSkeletons, skeleton_node id hshape, ih]

/-- Shapes that are made alike give documents with the same elements and attributes, all values included
but those of descriptions and of references to images. -/
theorem readSkeletons?_sheet {shapes others : List Shape} (h : List.Forall₂ Shape.Alike shapes others) :
    readSkeletons? textual (sheet shapes) = readSkeletons? textual (sheet others) := by
  rw [sheet, sheet, readSkeletons?_document textual (isPlain_sheetNode shapes),
    readSkeletons?_document textual (isPlain_sheetNode others)]
  simp only [sheetNode, Node.skeleton, allSkeletons, allSkeletons_append, skeletons_shapeNodes 2 h]

/-! ## Documents -/

/-- What is right about the document of a slide with these shapes. -/
structure Faithful (shapes : List Shape) (xml : String) : Prop where
  balanced : ∃ root, readTrees? xml = some [root]
  complete : (scan xml).complete = true
  drawn : ∃ drawn, readDrawing? xml = some drawn ∧
    List.Forall₂ (fun numbered found => numbered.1.IsDrawn numbered.2 found) (shapes.zipIdx 2) drawn
  numbered : ((scan xml).elements.filter (·.isNamed "cNvPr")).map (·.attribute? "id")
    = (List.range' 1 (shapes.length + 1)).map fun n => some (toString n)
  distinct : (((scan xml).elements.filter (·.isNamed "cNvPr")).map (·.attribute? "id")).Nodup
  inert : ∀ others, List.Forall₂ Shape.Alike shapes others →
    (readSkeletons? textual xml).isSome ∧
      readSkeletons? textual xml = readSkeletons? textual (sheet others)

/-- The document of a slide says of every list of shapes what they say: it is balanced and can be read,
each shape is read as it was made, the numbers are those from one on, and the elements and attributes are
the same whatever the texts are. -/
theorem faithful_sheet (shapes : List Shape) : Faithful shapes (sheet shapes) where
  balanced := ⟨_, readTrees?_document (isPlain_sheetNode shapes)⟩
  complete := by rw [sheet, scan_document (isPlain_sheetNode shapes)]
  drawn := exists_readDrawing?_sheet shapes
  numbered := numbers_sheet shapes
  distinct := by
    rw [numbers_sheet]
    refine List.Nodup.map (fun m n h => ?_) List.nodup_range'
    exact Number.toString_injective (Option.some.inj h)
  inert := by
    intro others h
    refine ⟨?_, readSkeletons?_sheet h⟩
    rw [sheet, readSkeletons?_document textual (isPlain_sheetNode shapes)]
    rfl

end Slide

end SlideDeck
