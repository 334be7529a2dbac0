import SlideDeck.Proofs.Xml.Starts

/-!
# Skeletons of documents

The skeleton of a document is what is left of its trees without the text between the tags and without the
values of some attributes: the names of its elements and of their attributes, in their order and nesting.
The skeleton that is read from a printed document is that of what was printed (`skeletons_trees`).
-/

namespace SlideDeck.Xml

/-- An element without text. Attributes that are masked have no value. -/
inductive Skeleton where
  | element (name : List Char) (attributes : List (List Char × Option (List Char)))
      (children : List Skeleton)

/-- An attribute with its value, unless its name is among those that are masked. -/
def maskAttribute (masked : List String) (a : List Char × List Char) :
    List Char × Option (List Char) :=
  (a.1, if String.ofList a.1 ∈ masked then none else some a.2)

variable (masked : List String)

mutual

/-- The skeleton of a tree; a character has none. -/
def Tree.skeleton : Tree → List Skeleton
  | .char _ => []
  | .element start children =>
    [.element start.name (start.attributes.map (maskAttribute masked)) (skeletons children)]

/-- The skeletons of trees in order. -/
def skeletons : List Tree → List Skeleton
  | [] => []
  | tree :: rest => tree.skeleton ++ skeletons rest

end

/-- The skeletons of a document that can be read. -/
def readSkeletons? (text : String) : Option (List Skeleton) :=
  (readTrees? text).map (skeletons masked)

/-! ## Printed documents -/

/-- The attributes of a printed tag, masked. -/
def maskAttributes (attributes : List Attribute) : List (List Char × Option (List Char)) :=
  attributes.map fun a => maskAttribute masked (a.name.toList, a.written.toList)

mutual

/-- The skeleton of what is printed. -/
def Node.skeleton : Node → List Skeleton
  | .text _ => []
  | .empty name attributes => [.element name.toList (maskAttributes masked attributes) []]
  | .element name attributes children =>
    [.element name.toList (maskAttributes masked attributes) (allSkeletons children)]

/-- The skeletons of what is printed, in order. -/
def allSkeletons : List Node → List Skeleton
  | [] => []
  | node :: rest => node.skeleton ++ allSkeletons rest

end

/-- The skeletons of two lists of nodes are those of each. -/
theorem allSkeletons_append (a b : List Node) :
    allSkeletons masked (a ++ b) = allSkeletons masked a ++ allSkeletons masked b := by
  induction a with
  | nil => rfl
  | cons node rest ih => rw [List.cons_append, allSkeletons, allSkeletons, ih, List.append_assoc]

/-- The skeletons of two lists of trees are those of each. -/
theorem skeletons_append (a b : List Tree) :
    skeletons masked (a ++ b) = skeletons masked a ++ skeletons masked b := by
  induction a with
  | nil => rfl
  | cons tree rest ih => rw [List.cons_append, skeletons, skeletons, ih, List.append_assoc]

/-- Text has no skeleton. -/
theorem skeletons_text (text : List Char) : skeletons masked (text.map .char) = [] := by
  induction text with
  | nil => rfl
  | cons c text ih => rw [List.map_cons, skeletons, ih]; rfl

/-- Attributes that are read back are masked as they were written. -/
theorem map_attributes_startOf {attributes : List Attribute} (h : arePlain attributes = true)
    (name : String) : (startOf name attributes).attributes.map (maskAttribute masked)
      = maskAttributes masked attributes := by
  rw [Element.attributes, startOf, readAttributes_chars h, List.map_map]
  rfl

mutual

/-- What is printed is read with its skeleton. -/
theorem skeletons_trees (node : Node) (h : node.isPlain = true) :
    skeletons masked node.trees = node.skeleton masked := by
  match node with
  | .text content => exact skeletons_text masked _
  | .empty name attributes =>
    rw [Node.isPlain, Bool.and_eq_true] at h
    rw [Node.trees, skeletons, Tree.skeleton, map_attributes_startOf masked h.2]
    rfl
  | .element name attributes children =>
    rw [Node.isPlain, Bool.and_eq_true, Bool.and_eq_true] at h
    rw [Node.trees, skeletons, Tree.skeleton, map_attributes_startOf masked h.1.2,
      skeletons_allTrees children h.2]
    rfl

/-- The skeletons of plain nodes are found in all their trees. -/
theorem skeletons_allTrees (nodes : List Node) (h : allPlain nodes = true) :
    skeletons masked (allTrees nodes) = allSkeletons masked nodes := by
  match nodes with
  | [] => rfl
  | node :: nodes =>
    rw [allPlain, Bool.and_eq_true] at h
    rw [allTrees, skeletons_append, skeletons_trees node h.1, skeletons_allTrees nodes h.2, allSkeletons]

end

/-- The skeleton of a printed document is that of its root. -/
theorem readSkeletons?_document {root : Node} (h : root.isPlain = true) :
    readSkeletons? masked (document root) = some (root.skeleton masked) := by
  rw [readSkeletons?, readTrees?_document h, Option.map_some, skeletons_trees masked root h]

end SlideDeck.Xml
