import SlideDeck.Package.Basic
import SlideDeck.Presentation.Fault
import SlideDeck.Text.Lowercase

/-!
# Entering slides into documents

New slides are entered into two documents of a package by inserting text: the presentation lists the
slides, and the content types name the type of each part. All else in the documents stays as it is.
-/

namespace SlideDeck.Presentation

/-- The start tag of the list of slides. -/
def listStart : List Char := "<p:sldIdLst>".toList

/-- The end tag of the list of slides. -/
def listEnd : List Char := "</p:sldIdLst>".toList

/-- The list of slides as an empty tag. -/
def listEmpty : List Char := "<p:sldIdLst/>".toList

/-- The end tag of the list of slide masters. -/
def mastersEnd : List Char := "</p:sldMasterIdLst>".toList

/-- The presentation with entries at the end of its list of slides. Without such a list, one is made
behind the list of slide masters. -/
def insertEntries (xml entries : List Char) : Except EntryFault (List Char) :=
  if entries.isEmpty then .ok xml
  else match Text.cutFirst listEnd xml with
    | some (before, after) => .ok (before ++ entries ++ listEnd ++ after)
    | none =>
      let list := listStart ++ entries ++ listEnd
      match Text.cutFirst listEmpty xml with
      | some (before, after) => .ok (before ++ list ++ after)
      | none =>
        match Text.cutFirst mastersEnd xml with
        | some (before, after) => .ok (before ++ mastersEnd ++ list ++ after)
        | none => .error .noMasterList

/-- The end tag of the content types. -/
def typesEnd : List Char := "</Types>".toList

/-- The content types with additions at their end. -/
def appendTypes (xml additions : List Char) : Except EntryFault (List Char) :=
  match Text.cutLast typesEnd xml with
  | some (before, after) => .ok (before ++ additions ++ typesEnd ++ after)
  | none => .error .noEndOfTypes

/-- The extensions, in lowercase, for which the content types have a default. -/
def knownExtensions (xml : String) : Except EntryFault (List String) :=
  let found := Xml.scan xml
  if found.complete then
    .ok <| (found.elements.filter (·.isNamed "Default")).filterMap fun element =>
      (element.attribute? "Extension").map fun extension =>
        String.ofList (Text.lowercase extension.toList)
  else .error (.markup .contentTypes)

end SlideDeck.Presentation
