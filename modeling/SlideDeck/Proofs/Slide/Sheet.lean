import SlideDeck.Proofs.Xml.Starts
import SlideDeck.Slide.Sheet

/-!
# Slide parts can be read back

The document of a slide is well formed whatever texts its shapes show (`isPlain_sheetNode`), and refers
to the images of its pictures and nothing else (`embeds_sheet`).
-/

namespace SlideDeck

namespace Slide

open Xml

/-! ## Well-formed documents -/

/-- The number and the name of a shape can be read again. -/
theorem arePlain_identity (id : Nat) {name : String} (h : '"' ∉ name.toList) :
    arePlain (identity id name) = true := by
  have hname : '"' ∉ (name ++ " " ++ toString id).toList := by
    rw [String.toList_append, String.toList_append, List.mem_append, List.mem_append]
    rintro ((hname | hblank) | hdigit)
    · exact h hname
    · exact absurd hblank (by decide)
    · exact not_mem_toString_nat id hdigit
  refine arePlain_of_names ["id", "name"] (by decide) rfl ?_
  exact List.forall_mem_cons.2 ⟨not_mem_toString_nat id, List.forall_mem_singleton.2 hname⟩

/-- A run can be read again, whatever its text is. -/
theorem isPlain_run (text : String) : (run text).isPlain = true := by
  rw [run]
  split <;> rfl

/-- So can the paragraphs of a text. -/
theorem allPlain_paragraphs (text : String) : allPlain (paragraphs text) = true := by
  rw [allPlain_eq_true_iff]
  intro node hnode
  obtain ⟨line, -, rfl⟩ := List.mem_map.1 hnode
  rw [Node.isPlain, allPlain, allPlain, isPlain_run]
  rfl

/-- So can that of an item. -/
theorem isPlain_itemParagraph (item : ListItem) : (itemParagraph item).isPlain = true := by
  have hlevel : arePlain [⟨"lvl", toString (min item.level maxLevel)⟩] = true :=
    arePlain_of_names ["lvl"] (by decide) rfl (List.forall_mem_singleton.2 (not_mem_toString_nat _))
  rw [itemParagraph, Node.isPlain, allPlain, allPlain, allPlain, Node.isPlain, hlevel, isPlain_run]
  rfl

/-- So can those of a list. -/
theorem allPlain_listParagraphs (items : List ListItem) : allPlain (listParagraphs items) = true := by
  rw [listParagraphs]
  split
  · rfl
  · rw [allPlain_eq_true_iff]
    intro node hnode
    obtain ⟨item, -, rfl⟩ := List.mem_map.1 hnode
    exact isPlain_itemParagraph item

/-- A placeholder around what can be read again can be read again. -/
theorem isPlain_placeholder (id : Nat) {name : String} {position : List Attribute} {body : List Node}
    (hname : '"' ∉ name.toList) (hposition : arePlain position = true) (hbody : allPlain body = true) :
    (placeholder id name position body).isPlain = true := by
  simp only [placeholder, Node.isPlain, allPlain, allPlain_append, arePlain_identity id hname, hposition,
    hbody]
  decide

theorem arePlain_corner (frame : Frame) :
    arePlain [⟨"x", toString frame.x⟩, ⟨"y", toString frame.y⟩] = true := by
  refine arePlain_of_names ["x", "y"] (by decide) rfl ?_
  exact List.forall_mem_cons.2
    ⟨not_mem_toString_int frame.x, List.forall_mem_singleton.2 (not_mem_toString_int frame.y)⟩

theorem arePlain_size (frame : Frame) :
    arePlain [⟨"cx", toString frame.cx⟩, ⟨"cy", toString frame.cy⟩] = true := by
  refine arePlain_of_names ["cx", "cy"] (by decide) rfl ?_
  exact List.forall_mem_cons.2
    ⟨not_mem_toString_int frame.cx, List.forall_mem_singleton.2 (not_mem_toString_int frame.cy)⟩

/-- The place of a shape can be read again. -/
theorem isPlain_transform (frame : Frame) : (transform frame).isPlain = true := by
  simp only [transform, Node.isPlain, allPlain, arePlain_corner, arePlain_size]
  decide

/-- So can a text box. -/
theorem isPlain_textBox (id : Nat) (frame : Frame) (text : String) :
    (textBox id frame text).isPlain = true := by
  have hname : '"' ∉ "TextBox".toList := by decide
  simp only [textBox, Node.isPlain, allPlain, allPlain_append, arePlain_identity id hname,
    isPlain_transform, allPlain_paragraphs]
  decide

/-- So can the reference to an image, whatever its id is. -/
theorem isPlain_imageReference (image : String) (vector : Option String) :
    (imageReference image vector).isPlain = true := by
  have himage : arePlain [.escaped "r:embed" image] = true :=
    arePlain_of_names ["r:embed"] (by decide) rfl (List.forall_mem_singleton.2 (not_mem_escaped _ _))
  cases vector with
  | none =>
    simp only [imageReference, Node.isPlain, himage]
    decide
  | some vector =>
    have hvector : arePlain
        [⟨"xmlns:asvg", "http://schemas.microsoft.com/office/drawing/2016/SVG/main"⟩,
          .escaped "r:embed" vector] = true := by
      refine arePlain_of_names ["xmlns:asvg", "r:embed"] (by decide) rfl ?_
      exact List.forall_mem_cons.2
        ⟨by decide, List.forall_mem_singleton.2 (not_mem_escaped _ _)⟩
    simp only [imageReference, vectorExtension, Node.isPlain, allPlain, himage, hvector]
    decide

/-- So can a description. -/
theorem arePlain_described (id : Nat) (description : String) :
    arePlain (identity id "Picture" ++ [.escaped "descr" description]) = true := by
  have hname : '"' ∉ "Picture".toList := by decide
  have hplain := isPlain_of_arePlain (arePlain_identity id hname)
  refine arePlain_of_names ["id", "name", "descr"] (by decide) rfl fun a ha => ?_
  rcases List.mem_append.1 ha with ha | ha
  · exact (Attribute.isPlain_iff.1 (hplain a ha)).2
  · rw [List.mem_singleton.1 ha]
    exact not_mem_escaped _ _

/-- So can a picture. -/
theorem isPlain_picture (id : Nat) (frame : Frame) (image : String) (vector : Option String)
    (description : String) : (picture id frame image vector description).isPlain = true := by
  simp only [picture, Node.isPlain, allPlain, arePlain_described, isPlain_imageReference,
    isPlain_transform]
  decide

/-- So every shape can. -/
theorem isPlain_node (id : Nat) (shape : Shape) : (shape.node id).isPlain = true := by
  cases shape with
  | title centered text =>
    refine isPlain_placeholder id (by decide) ?_ (allPlain_paragraphs text)
    cases centered <;> decide
  | subtitle text => exact isPlain_placeholder id (by decide) (by decide) (allPlain_paragraphs text)
  | list items => exact isPlain_placeholder id (by decide) (by decide) (allPlain_listParagraphs items)
  | textBox frame text => exact isPlain_textBox id frame text
  | picture frame image vector description => exact isPlain_picture id frame image vector description

/-- All shapes can be read again. -/
theorem allPlain_shapeNodes (id : Nat) (shapes : List Shape) :
    allPlain (shapeNodes id shapes) = true := by
  induction shapes generalizing id with
  | nil => rfl
  | cons shape shapes ih => rw [shapeNodes, allPlain, isPlain_node, ih, Bool.and_self]

/-- The document of a slide can be read back. -/
theorem isPlain_sheetNode (shapes : List Shape) : (sheetNode shapes).isPlain = true := by
  have hgroup : allPlain group = true := by decide
  have hcolours : masterColours.isPlain = true := by decide
  simp only [sheetNode, Node.isPlain, allPlain, allPlain_append, hgroup, hcolours, allPlain_shapeNodes]
  decide

/-! ## References to images -/

/-- The ids by which a shape refers to images. -/
def Shape.embeds : Shape → List String
  | .picture _ image vector _ => image :: vector.toList
  | _ => []

/-- The values of the attribute that refers to images. -/
def embedsIn (starts : List Start) : List String := starts.filterMap (·.value? "r:embed")

theorem embedsIn_append (a b : List Start) : embedsIn (a ++ b) = embedsIn a ++ embedsIn b :=
  List.filterMap_append

/-- An empty element embeds what its tag refers to. -/
theorem embedsIn_empty (name : String) (attributes : List Attribute) :
    embedsIn (Node.empty name attributes).starts
      = (Start.value? "r:embed" (name, attributes)).toList := filterMap_starts_empty _ name attributes

/-- Any other element embeds also what is in it. -/
theorem embedsIn_element (name : String) (attributes : List Attribute) (children : List Node) :
    embedsIn (Node.element name attributes children).starts
      = (Start.value? "r:embed" (name, attributes)).toList ++ embedsIn (allStarts children) :=
  filterMap_starts_element _ name attributes children

theorem embedsIn_cons (node : Node) (nodes : List Node) :
    embedsIn (allStarts (node :: nodes)) = embedsIn node.starts ++ embedsIn (allStarts nodes) :=
  filterMap_allStarts_cons _ node nodes

theorem embedsIn_nil : embedsIn (allStarts []) = [] := filterMap_allStarts_nil _

/-- Elements that embed nothing do not do so together. -/
theorem embedsIn_allStarts {nodes : List Node} (h : ∀ node ∈ nodes, embedsIn node.starts = []) :
    embedsIn (allStarts nodes) = [] := filterMap_allStarts_eq_nil _ h

/-- A run embeds nothing. -/
theorem embedsIn_run (text : String) : embedsIn (run text).starts = [] := by
  rw [run]
  split <;> rfl

/-- Nor do the paragraphs of a text. -/
theorem embedsIn_paragraphs (text : String) : embedsIn (allStarts (paragraphs text)) = [] := by
  apply embedsIn_allStarts
  intro node hnode
  obtain ⟨line, -, rfl⟩ := List.mem_map.1 hnode
  rw [embedsIn_element, embedsIn_cons, embedsIn_run]
  rfl

/-- Nor do those of a list. -/
theorem embedsIn_listParagraphs (items : List ListItem) :
    embedsIn (allStarts (listParagraphs items)) = [] := by
  rw [listParagraphs]
  split
  · rfl
  · apply embedsIn_allStarts
    intro node hnode
    obtain ⟨item, -, rfl⟩ := List.mem_map.1 hnode
    rw [itemParagraph, embedsIn_element, embedsIn_cons, embedsIn_cons, embedsIn_run]
    rfl

/-- So a placeholder embeds nothing. -/
theorem embedsIn_placeholder (id : Nat) (name : String) {position : List Attribute} {body : List Node}
    (hposition : Start.value? "r:embed" ("p:ph", position) = none)
    (hbody : embedsIn (allStarts body) = []) :
    embedsIn (placeholder id name position body).starts = [] := by
  simp only [placeholder, embedsIn_element, embedsIn_cons, embedsIn_empty, embedsIn_nil, hposition,
    List.cons_append, List.nil_append, hbody]
  rfl

/-- Nor does a text box. -/
theorem embedsIn_textBox (id : Nat) (frame : Frame) (text : String) :
    embedsIn (textBox id frame text).starts = [] := by
  simp only [textBox, transform, rectangle, embedsIn_element, embedsIn_cons, embedsIn_empty,
    embedsIn_nil, List.cons_append, List.nil_append, embedsIn_paragraphs]
  rfl

/-- A reference is read without what a document cannot carry. -/
theorem value?_escaped (name value : String) (before after : List Attribute)
    (h : ∀ a ∈ before, a.name ≠ "r:embed") :
    Start.value? "r:embed" (name, before ++ .escaped "r:embed" value :: after) = some (carried value) := by
  have hfind : (before ++ .escaped "r:embed" value :: after).find? (·.name == "r:embed")
      = some (.escaped "r:embed" value) := by
    rw [List.find?_append, List.find?_eq_none.2 fun a ha => by simpa using h a ha, Option.none_or]
    exact List.find?_cons_of_pos (beq_self_eq_true "r:embed")
  rw [Start.value?, hfind, Option.bind_some]
  exact unescape?_escaped _ _

/-- A picture embeds its image and its vector image. -/
theorem embedsIn_picture (id : Nat) (frame : Frame) (image : String) (vector : Option String)
    (description : String) :
    embedsIn (picture id frame image vector description).starts
      = (image :: vector.toList).map carried := by
  have himage : Start.value? "r:embed" ("a:blip", [.escaped "r:embed" image]) = some (carried image) :=
    value?_escaped "a:blip" image [] [] (by simp)
  cases vector with
  | none =>
    simp only [picture, imageReference, transform, rectangle, embedsIn_element, embedsIn_cons,
      embedsIn_empty, embedsIn_nil, himage]
    rfl
  | some vector =>
    have hvector : Start.value? "r:embed" ("asvg:svgBlip",
        [⟨"xmlns:asvg", "http://schemas.microsoft.com/office/drawing/2016/SVG/main"⟩,
          .escaped "r:embed" vector]) = some (carried vector) :=
      value?_escaped "asvg:svgBlip" vector
        [⟨"xmlns:asvg", "http://schemas.microsoft.com/office/drawing/2016/SVG/main"⟩] [] (by simp)
    simp only [picture, imageReference, vectorExtension, transform, rectangle, embedsIn_element,
      embedsIn_cons, embedsIn_empty, embedsIn_nil, himage, hvector]
    rfl

/-- A shape embeds the images that it is made with. -/
theorem embedsIn_node (id : Nat) (shape : Shape) :
    embedsIn (shape.node id).starts = shape.embeds.map carried := by
  cases shape with
  | title centered text =>
    refine embedsIn_placeholder id "Title" ?_ (embedsIn_paragraphs text)
    cases centered <;> rfl
  | subtitle text => exact embedsIn_placeholder id "Subtitle" rfl (embedsIn_paragraphs text)
  | list items => exact embedsIn_placeholder id "Content" rfl (embedsIn_listParagraphs items)
  | textBox frame text => exact embedsIn_textBox id frame text
  | picture frame image vector description =>
    exact embedsIn_picture id frame image vector description

/-- So do shapes together. -/
theorem embedsIn_shapeNodes (id : Nat) (shapes : List Shape) :
    embedsIn (allStarts (shapeNodes id shapes)) = (shapes.flatMap Shape.embeds).map carried := by
  induction shapes generalizing id with
  | nil => rfl
  | cons shape shapes ih =>
    rw [shapeNodes, allStarts, embedsIn_append, embedsIn_node, ih, List.flatMap_cons, List.map_append]

/-- The images that the document of a slide refers to are those of its pictures. -/
theorem embeds_sheet (shapes : List Shape) :
    (scan (sheet shapes)).elements.filterMap (·.attribute? "r:embed")
      = (shapes.flatMap Shape.embeds).map carried := by
  have hvalues := filterMap_attribute? (isPlain_sheetNode shapes) "r:embed"
  have hgroup : embedsIn (allStarts group) = [] := rfl
  rw [sheet, hvalues, ← embedsIn_shapeNodes 2]
  show embedsIn (sheetNode shapes).starts = _
  simp only [sheetNode, masterColours, embedsIn_element, embedsIn_cons, embedsIn_empty, embedsIn_nil,
    allStarts_append, embedsIn_append, hgroup]
  show (embedsIn (allStarts (shapeNodes 2 shapes)) ++ []) ++ [] = _
  rw [List.append_nil, List.append_nil]

end Slide

end SlideDeck
