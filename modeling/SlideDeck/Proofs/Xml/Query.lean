import SlideDeck.Proofs.Xml.Starts

/-!
# Looking into documents

What elements hold, by their names, in a document that was read as trees. In a printed document this
is what was printed (`within_allTrees`, `startsNamed_allTrees`, `contentsOf_allTrees`).
-/

namespace SlideDeck.Xml

/-- The trees in an element with a name. -/
def Tree.within (name : String) : Tree → List Tree
  | .element start children => if start.isNamed name then children else []
  | .char _ => []

/-- The start tag of an element with a name. -/
def Tree.startNamed? (name : String) : Tree → Option Element
  | .element start _ => if start.isNamed name then some start else none
  | .char _ => none

/-- The trees in an element, if it has a name. -/
def Tree.contents? (name : String) : Tree → Option (List Tree)
  | .element start children => if start.isNamed name then some children else none
  | .char _ => none

/-- The character that a tree is. -/
def Tree.char? : Tree → Option Char
  | .element _ _ => none
  | .char c => some c

/-- The trees that are held by elements with a name among trees. -/
def within (name : String) (trees : List Tree) : List Tree := trees.flatMap (Tree.within name)

/-- The start tags of the elements with a name among trees. -/
def startsNamed (name : String) (trees : List Tree) : List Element :=
  trees.filterMap (Tree.startNamed? name)

/-- What elements with a name hold among trees, each on its own. -/
def contentsOf (name : String) (trees : List Tree) : List (List Tree) :=
  trees.filterMap (Tree.contents? name)

/-- The text among trees, with its entities. -/
def charsOf (trees : List Tree) : List Char := trees.filterMap Tree.char?

/-! ## Printed documents -/

/-- What an element with a name was printed with. -/
def Node.within (name : String) : Node → List Node
  | .element tag _ children => if Start.isNamed name (tag, []) then children else []
  | _ => []

/-- The start tag with a name that was printed. -/
def Node.startNamed? (name : String) : Node → Option Start
  | .text _ => none
  | .empty tag attributes | .element tag attributes _ =>
    if Start.isNamed name (tag, []) then some (tag, attributes) else none

/-- What an element was printed with, if it has a name. -/
def Node.contents? (name : String) : Node → Option (List Node)
  | .text _ => none
  | .empty tag _ => if Start.isNamed name (tag, []) then some [] else none
  | .element tag _ children => if Start.isNamed name (tag, []) then some children else none

section Named

variable {name tag : String} (h : Start.isNamed name (tag, []) = true) (attributes : List Attribute)
  (children : List Node)

include h

/-- Within an element of the name are its children. -/
theorem Node.within_of_isNamed : (Node.element tag attributes children).within name = children :=
  if_pos h

/-- An empty element of the name has its start. -/
theorem Node.startNamed?_of_isNamed :
    (Node.empty tag attributes).startNamed? name = some (tag, attributes) := if_pos h

end Named

/-- Text has nothing within. -/
theorem within_text (name : String) (text : List Char) : within name (text.map .char) = [] := by
  rw [within, List.flatMap_map, List.flatMap_eq_nil_iff]
  exact fun _ _ => rfl

/-- Text has no starts. -/
theorem startsNamed_text (name : String) (text : List Char) :
    startsNamed name (text.map .char) = [] := by
  rw [startsNamed, List.filterMap_map, List.filterMap_eq_nil_iff]
  exact fun _ _ => rfl

/-- What is within two lists is what is within each. -/
theorem within_append (name : String) (a b : List Tree) :
    within name (a ++ b) = within name a ++ within name b := List.flatMap_append

/-- The starts in two lists are those in each. -/
theorem startsNamed_append (name : String) (a b : List Tree) :
    startsNamed name (a ++ b) = startsNamed name a ++ startsNamed name b := List.filterMap_append

/-- What is within a node is found in its trees. -/
theorem within_trees (name : String) (node : Node) :
    within name node.trees = allTrees (node.within name) := by
  cases node with
  | text content => exact within_text name _
  | empty tag attributes =>
    show (if _ then [] else []) ++ [] = _
    rw [ite_self]
    rfl
  | element tag attributes children =>
    show (if Start.isNamed name (tag, []) then allTrees children else []) ++ [] = _
    rw [List.append_nil, Node.within, apply_ite allTrees]
    rfl

/-- So is its start. -/
theorem startsNamed_trees (name : String) (node : Node) :
    startsNamed name node.trees = (node.startNamed? name).toList.map Start.read := by
  have hone : ∀ (start : Start) (children : List Tree),
      startsNamed name [.element start.read children]
        = (if start.isNamed name then some start else none).toList.map Start.read := by
    intro start children
    have htree : Tree.startNamed? name (.element start.read children)
        = if start.isNamed name then some start.read else none := rfl
    rw [startsNamed, List.filterMap_cons, htree]
    cases start.isNamed name <;> rfl
  cases node with
  | text content => exact startsNamed_text name _
  | empty tag attributes => exact hone (tag, attributes) []
  | element tag attributes children => exact hone (tag, attributes) (allTrees children)

/-- What is held by elements of a printed document is what was printed in them. -/
theorem within_allTrees (name : String) (nodes : List Node) :
    within name (allTrees nodes) = allTrees (nodes.flatMap (Node.within name)) := by
  induction nodes with
  | nil => rfl
  | cons node nodes ih =>
    rw [allTrees, within_append, within_trees, ih, List.flatMap_cons, allTrees_append]

/-- The starts of nodes are found in all their trees. -/
theorem startsNamed_allTrees (name : String) (nodes : List Node) :
    startsNamed name (allTrees nodes) = (nodes.filterMap (Node.startNamed? name)).map Start.read := by
  induction nodes with
  | nil => rfl
  | cons node nodes ih =>
    rw [allTrees, startsNamed_append, startsNamed_trees, ih, List.filterMap_cons, ← List.map_append]
    cases node.startNamed? name <;> rfl

/-- The contents of a node are found in its trees. -/
theorem contentsOf_trees (name : String) (node : Node) :
    contentsOf name node.trees = (node.contents? name).toList.map allTrees := by
  have hone : ∀ (start : Start) (children : List Node),
      contentsOf name [.element start.read (allTrees children)]
        = (if start.isNamed name then some children else none).toList.map allTrees := by
    intro start children
    have htree : Tree.contents? name (.element start.read (allTrees children))
        = if start.isNamed name then some (allTrees children) else none := rfl
    rw [contentsOf, List.filterMap_cons, htree]
    cases start.isNamed name <;> rfl
  cases node with
  | text content =>
    show contentsOf name ((escape content.toList).map Tree.char) = []
    rw [contentsOf, List.filterMap_map, List.filterMap_eq_nil_iff]
    exact fun _ _ => rfl
  | empty tag attributes => exact hone (tag, attributes) []
  | element tag attributes children => exact hone (tag, attributes) children

/-- The contents of nodes are found in all their trees. -/
theorem contentsOf_allTrees (name : String) (nodes : List Node) :
    contentsOf name (allTrees nodes) = (nodes.filterMap (Node.contents? name)).map allTrees := by
  induction nodes with
  | nil => rfl
  | cons node nodes ih =>
    rw [allTrees, contentsOf, List.filterMap_append, ← contentsOf, ← contentsOf, contentsOf_trees, ih,
      List.filterMap_cons, ← List.map_append]
    cases node.contents? name <;> rfl

/-- The characters of a text are its own. -/
theorem charsOf_text (text : List Char) : charsOf (text.map .char) = text := by
  rw [charsOf, List.filterMap_map]
  exact List.filterMap_some

end SlideDeck.Xml
