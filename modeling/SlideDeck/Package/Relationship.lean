import SlideDeck.Xml.Markup
import SlideDeck.Xml.Scan

/-!
# Relationships

A part refers to other parts through relationships, which a part of their own lists. `listXml` writes
such a part and `ofXml` reads one. Reading is lenient: it takes every element called `Relationship`,
and an attribute that is absent or unreadable counts as empty.
-/

namespace SlideDeck

/-- A relationship of a part. -/
structure Relationship where
  id : String
  type : String
  target : String
  /-- Whether the target lies outside the package. -/
  external : Bool
deriving Repr, DecidableEq

/-- A document of the package that is not well formed. -/
inductive MarkupFault where
  | relationships
  | slideMaster
  | presentation
  | contentTypes
deriving Repr, DecidableEq

/-- The wording of a fault. -/
def MarkupFault.message : MarkupFault → String
  | .relationships => "Error parsing relationships: the document is not well formed"
  | .slideMaster => "Error parsing slide master: the document is not well formed"
  | .presentation => "Error parsing presentation: the document is not well formed"
  | .contentTypes => "Error parsing content types: the document is not well formed"

namespace Relationship

/-! ## Types -/

/-- The common start of the names of relationship types. -/
def typeBase : String := "http://schemas.openxmlformats.org/officeDocument/2006/relationships/"

def officeDocument : String := typeBase ++ "officeDocument"
def slideMaster : String := typeBase ++ "slideMaster"
def slideLayout : String := typeBase ++ "slideLayout"
def slide : String := typeBase ++ "slide"
def image : String := typeBase ++ "image"

/-- A relationship to a part of the package. -/
def internal (id type target : String) : Relationship := ⟨id, type, target, false⟩

/-! ## Writing -/

/-- The element of a relationship. -/
def node (r : Relationship) : Xml.Node :=
  .empty "Relationship" <|
    [.escaped "Id" r.id, .escaped "Type" r.type, .escaped "Target" r.target] ++
      if r.external then [.escaped "TargetMode" "External"] else []

/-- The part that lists relationships. -/
def listXml (relationships : List Relationship) : String :=
  Xml.document <| .element "Relationships"
    [⟨"xmlns", "http://schemas.openxmlformats.org/package/2006/relationships"⟩]
    (relationships.map node)

/-! ## Reading -/

/-- The value of an attribute, empty if it is absent or unreadable. -/
def field (element : Xml.Element) (name : String) : String := (element.attribute? name).getD ""

/-- The relationship of an element. -/
def ofElement (element : Xml.Element) : Relationship where
  id := field element "Id"
  type := field element "Type"
  target := field element "Target"
  external := field element "TargetMode" == "External"

/-- The relationships that a part lists, in order. -/
def ofXml (xml : String) : Except MarkupFault (List Relationship) :=
  let found := Xml.scan xml
  if found.complete then
    .ok ((found.elements.filter (·.isNamed "Relationship")).map ofElement)
  else .error .relationships

end Relationship

end SlideDeck
