import SlideDeck.Xml.Escape

/-!
# XML documents as trees

The documents that the library writes are trees of elements. `Node.chars` prints a tree without
indentation; an element without content is printed either as one empty tag or as two tags, by its
constructor. The value of an attribute is held as it is written, so that printing it needs no rule;
`Attribute.escaped` makes one from any text.
-/

namespace SlideDeck.Xml

/-- An attribute, its value as it stands between the quotes. -/
structure Attribute where
  name : String
  written : String
deriving Repr, DecidableEq

/-- The attribute with this value, escaped. -/
def Attribute.escaped (name value : String) : Attribute :=
  ⟨name, String.ofList (escape value.toList)⟩

/-- An attribute with a blank before it. -/
def Attribute.chars (a : Attribute) : List Char :=
  ' ' :: (a.name.toList ++ ['=', '"'] ++ a.written.toList ++ ['"'])

/-- A piece of a document. -/
inductive Node where
  /-- Text, which is escaped when it is printed. -/
  | text (content : String)
  /-- An element printed as one empty tag. -/
  | empty (name : String) (attributes : List Attribute)
  /-- An element printed as a start tag, its children and an end tag. -/
  | element (name : String) (attributes : List Attribute) (children : List Node)

/-- The inside of a start tag. -/
def openingChars (name : String) (attributes : List Attribute) : List Char :=
  name.toList ++ attributes.flatMap Attribute.chars

mutual

/-- A piece of a document as text. -/
def Node.chars : Node → List Char
  | .text content => escape content.toList
  | .empty name attributes => '<' :: (openingChars name attributes ++ ['/', '>'])
  | .element name attributes children =>
    '<' :: (openingChars name attributes ++
      '>' :: (allChars children ++ '<' :: '/' :: (name.toList ++ ['>'])))

/-- Pieces of a document as text, one after the other. -/
def allChars : List Node → List Char
  | [] => []
  | node :: rest => node.chars ++ allChars rest

end

/-- A piece of a document as text. -/
def Node.render (node : Node) : String := String.ofList node.chars

/-- Pieces of a document as text, one after the other. -/
def renderAll (nodes : List Node) : String := String.ofList (allChars nodes)

/-- The declaration at the start of every document. -/
def declaration : String := "<?xml version=\"1.0\" encoding=\"UTF-8\" standalone=\"yes\"?>"

/-- A document with this root element, behind its declaration. -/
def document (root : Node) : String := String.ofList (declaration.toList ++ root.chars)

/-- The text of two lists is that of each. -/
theorem allChars_append (a b : List Node) : allChars (a ++ b) = allChars a ++ allChars b := by
  induction a with
  | nil => simp [allChars]
  | cons node rest ih => simp [allChars, ih]

end SlideDeck.Xml
