import Mathlib.Data.List.Basic
import SlideDeck.Proofs.Xml.Tree

/-!
# Start tags of printed documents

The elements that a scan of a printed document finds are the start tags that were printed, and their
attributes are read from the printed ones, so that what a scan finds can be computed from the tree.
-/

namespace SlideDeck.Xml

/-- The name and the attributes of an element that is printed. -/
abbrev Start := String × List Attribute

mutual

/-- The start tags of a piece of a document in order. -/
def Node.starts : Node → List Start
  | .text _ => []
  | .empty name attributes => [(name, attributes)]
  | .element name attributes children => (name, attributes) :: allStarts children

/-- The start tags of pieces of a document in order. -/
def allStarts : List Node → List Start
  | [] => []
  | node :: rest => node.starts ++ allStarts rest

end

/-- The starts in two lists are those in each. -/
theorem allStarts_append (a b : List Node) : allStarts (a ++ b) = allStarts a ++ allStarts b := by
  induction a with
  | nil => rfl
  | cons node rest ih => rw [List.cons_append, allStarts, allStarts, ih, List.append_assoc]

/-- The starts of listed nodes come one node after the other. -/
theorem allStarts_map {α : Type} (list : List α) (node : α → Node) :
    allStarts (list.map node) = list.flatMap fun a => (node a).starts := by
  induction list with
  | nil => rfl
  | cons a list ih => rw [List.map_cons, allStarts, ih, List.flatMap_cons]

/-- The element that a start tag is read as. -/
def Start.read (start : Start) : Element := startOf start.1 start.2

/-- The value that is read for an attribute of a start tag. -/
def Start.value? (key : String) (start : Start) : Option String :=
  (start.2.find? (·.name == key)).bind fun a => (unescape? a.written.toList).map String.ofList

/-- Whether the local name of a start tag is the given one. -/
def Start.isNamed (name : String) (start : Start) : Bool :=
  localName start.1.toList == name.toList

/-- Text has no elements. -/
theorem allElements_text (text : List Char) : allElements (text.map .char) = [] := by
  induction text with
  | nil => rfl
  | cons c text ih => rw [List.map_cons, allElements, ih]; rfl

mutual

/-- The elements of a node are read from its starts. -/
theorem allElements_trees (node : Node) : allElements node.trees = node.starts.map Start.read := by
  match node with
  | .text content => exact allElements_text _
  | .empty name attributes => rfl
  | .element name attributes children =>
    rw [Node.trees, allElements, Tree.elements, allElements_allTrees children, Node.starts]
    exact List.append_nil _

/-- The elements of nodes are read from all their starts. -/
theorem allElements_allTrees (nodes : List Node) :
    allElements (allTrees nodes) = (allStarts nodes).map Start.read := by
  match nodes with
  | [] => rfl
  | node :: nodes =>
    rw [allTrees, allElements_append, allElements_trees node, allElements_allTrees nodes, allStarts,
      List.map_append]

end

mutual

/-- In a plain node every start has plain attributes. -/
theorem arePlain_of_mem_starts (node : Node) (h : node.isPlain = true) :
    ∀ start ∈ node.starts, arePlain start.2 = true := by
  intro start hstart
  match node with
  | .text content => cases hstart
  | .empty name attributes =>
    rw [Node.isPlain, Bool.and_eq_true] at h
    rw [List.mem_singleton.1 hstart]
    exact h.2
  | .element name attributes children =>
    rw [Node.isPlain, Bool.and_eq_true, Bool.and_eq_true] at h
    rcases List.mem_cons.1 hstart with rfl | hstart
    · exact h.1.2
    · exact arePlain_of_mem_allStarts children h.2 start hstart

/-- So it has in plain nodes. -/
theorem arePlain_of_mem_allStarts (nodes : List Node) (h : allPlain nodes = true) :
    ∀ start ∈ allStarts nodes, arePlain start.2 = true := by
  intro start hstart
  match nodes with
  | [] => cases hstart
  | node :: nodes =>
    rw [allPlain, Bool.and_eq_true] at h
    rcases List.mem_append.1 hstart with hstart | hstart
    · exact arePlain_of_mem_starts node h.1 start hstart
    · exact arePlain_of_mem_allStarts nodes h.2 start hstart

end

/-- A scan of a printed document finds its start tags. -/
theorem scan_document_starts {root : Node} (h : root.isPlain = true) :
    scan (document root) = ⟨root.starts.map Start.read, true⟩ := by
  rw [scan_document h, allElements_trees]

/-- What is read from elements with some name is read from the start tags with that name. -/
theorem filterMap_elements {α : Type} {root : Node} (h : root.isPlain = true) (name : String)
    {read : Element → Option α} {found : Start → Option α}
    (hread : ∀ start, arePlain start.2 = true → read start.read = found start) :
    ((scan (document root)).elements.filter (·.isNamed name)).filterMap read
      = (root.starts.filter (·.isNamed name)).filterMap found := by
  rw [scan_document_starts h, List.filter_map, List.filterMap_map]
  refine List.filterMap_congr fun start hstart => hread start ?_
  exact arePlain_of_mem_starts root h start (List.mem_of_mem_filter hstart)

/-- An attribute reads back as the value that was written for it. -/
theorem attribute?_read {start : Start} (h : arePlain start.2 = true) (key : String) :
    start.read.attribute? key = start.value? key := attribute?_startOf h start.1 key

/-- The values of an attribute in a printed document. -/
theorem filterMap_attribute? {root : Node} (h : root.isPlain = true) (key : String) :
    (scan (document root)).elements.filterMap (·.attribute? key)
      = root.starts.filterMap (·.value? key) := by
  rw [scan_document_starts h, List.filterMap_map]
  refine List.filterMap_congr fun start hstart => attribute?_read ?_ key
  exact arePlain_of_mem_starts root h start hstart

/-! ## Picking from start tags -/

section Pick

variable {α : Type} (pick : Start → Option α)

/-- From an empty element its own start is picked. -/
theorem filterMap_starts_empty (name : String) (attributes : List Attribute) :
    (Node.empty name attributes).starts.filterMap pick = (pick (name, attributes)).toList := by
  rw [Node.starts, List.filterMap_cons]
  cases pick (name, attributes) <;> rfl

/-- From an element its own start is picked, and then those of its children. -/
theorem filterMap_starts_element (name : String) (attributes : List Attribute) (children : List Node) :
    (Node.element name attributes children).starts.filterMap pick
      = (pick (name, attributes)).toList ++ (allStarts children).filterMap pick := by
  rw [Node.starts, List.filterMap_cons]
  cases pick (name, attributes) <;> rfl

/-- From no nodes nothing is picked. -/
theorem filterMap_allStarts_nil : (allStarts []).filterMap pick = [] := rfl

/-- From the first node is picked first. -/
theorem filterMap_allStarts_cons (node : Node) (nodes : List Node) :
    (allStarts (node :: nodes)).filterMap pick
      = node.starts.filterMap pick ++ (allStarts nodes).filterMap pick := List.filterMap_append

/-- Nothing is picked from nodes with nothing to pick. -/
theorem filterMap_allStarts_eq_nil {nodes : List Node}
    (h : ∀ node ∈ nodes, node.starts.filterMap pick = []) : (allStarts nodes).filterMap pick = [] := by
  induction nodes with
  | nil => rfl
  | cons node nodes ih =>
    rw [filterMap_allStarts_cons, h node List.mem_cons_self,
      ih fun other hother => h other (List.mem_cons_of_mem node hother)]
    rfl

end Pick

/-- The values of an attribute of the elements with a name in a printed document. -/
theorem map_attribute?_named {root : Node} (h : root.isPlain = true) (name key : String) :
    ((scan (document root)).elements.filter (·.isNamed name)).map (·.attribute? key)
      = root.starts.filterMap fun start =>
          if start.isNamed name then some (start.value? key) else none := by
  have hvalues : ∀ starts : List Start, (∀ start ∈ starts, arePlain start.2 = true) →
      ((starts.map Start.read).filter (·.isNamed name)).map (·.attribute? key)
        = starts.filterMap fun start => if start.isNamed name then some (start.value? key) else none := by
    intro starts
    induction starts with
    | nil => exact fun _ => rfl
    | cons start starts ih =>
      intro hplain
      have hrest := ih fun other hother => hplain other (List.mem_cons_of_mem start hother)
      have hnamed : start.read.isNamed name = start.isNamed name := rfl
      rw [List.map_cons, List.filter_cons, List.filterMap_cons, hnamed]
      cases start.isNamed name with
      | false => exact hrest
      | true =>
        rw [if_pos rfl, List.map_cons, attribute?_read (hplain start List.mem_cons_self), hrest]
        rfl
  rw [scan_document_starts h]
  exact hvalues root.starts (arePlain_of_mem_starts root h)

/-! ## Texts that are written as they are -/

/-- Whether a text has only characters that are written as they are. -/
def IsVerbatim (text : String) : Prop :=
  ∀ c ∈ text.toList, isCarried c = true ∧ escapeChar c = [c]

instance (text : String) : Decidable (IsVerbatim text) :=
  List.decidableBAll (fun c => isCarried c = true ∧ escapeChar c = [c]) text.toList

/-- Two texts that need no escaping need none in one. -/
theorem IsVerbatim.append {a b : String} (ha : IsVerbatim a) (hb : IsVerbatim b) :
    IsVerbatim (a ++ b) := by
  intro c hc
  rw [String.toList_append, List.mem_append] at hc
  exact hc.elim (ha c) (hb c)

/-- Numbers need none. -/
theorem isVerbatim_toString (n : Nat) : IsVerbatim (toString n) := by
  intro c hc
  have hdigit := Number.isDigit_of_mem_toString hc
  have hne : ∀ d : Char, d.isDigit = false → c ≠ d := by
    rintro d hd rfl
    rw [hdigit] at hd
    cases hd
  refine ⟨isCarried_of_isDigit hdigit, ?_⟩
  rw [escapeChar, if_neg (hne _ (by decide)), if_neg (hne _ (by decide)), if_neg (hne _ (by decide)),
    if_neg (hne _ (by decide)), if_neg (hne _ (by decide))]

/-- Escaping leaves a text that needs none as it is. -/
theorem IsVerbatim.escape_eq {text : String} (h : IsVerbatim text) : escape text.toList = text.toList := by
  rw [escape, List.filter_eq_self.2 fun c hc => (h c hc).1]
  calc text.toList.flatMap escapeChar
      = text.toList.flatMap fun c => [c] := List.flatMap_congr fun c hc => (h c hc).2
    _ = text.toList := List.flatMap_singleton' _

/-- No angle and no quote stands in it. -/
theorem IsVerbatim.not_mem {text : String} (h : IsVerbatim text) {c : Char}
    (hc : c = '<' ∨ c = '>' ∨ c = '"' ∨ c = '\'') : c ∉ text.toList := by
  rw [← h.escape_eq]
  exact not_mem_escape hc _

/-- Unescaping leaves it as it is, too. -/
theorem IsVerbatim.unescape? {text : String} (h : IsVerbatim text) :
    (unescape? text.toList).map String.ofList = some text := by
  rw [← h.escape_eq, unescape?_escape, List.filter_eq_self.2 fun c hc => (h c hc).1]
  exact congrArg some (String.ofList_toList)

end SlideDeck.Xml
