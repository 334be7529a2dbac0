import SlideDeck.Error
import SlideDeck.Presentation.Builtin
import SlideDeck.Presentation.Entry
import SlideDeck.Slide.Sheet

/-!
# Decks

A deck is a presentation under construction: the package of its template with the parts of the slides
added so far, and what is needed to enter those slides into the presentation. `Deck.finalize` enters
them and writes the package to a file; after that the deck is closed. An operation that fails leaves
the deck as it was.
-/

namespace SlideDeck

/-- A slide added to a deck. -/
structure Deck.Added where
  part : String
  /-- The id of the relationship from the presentation to the slide. -/
  relationship : String
  /-- The number of the slide in the presentation. -/
  id : Nat
deriving Repr, DecidableEq

/-- A presentation under construction. -/
structure Deck where
  package : Package
  /-- The main part, which lists the slides. -/
  presentation : String
  /-- The parts of the layouts in order. -/
  layouts : List String
  slideSize : Picture.Extent
  /-- The slides added so far, the oldest first. -/
  added : List Deck.Added
  /-- The relationships of the main part, with those to added slides at the end. -/
  relationships : List Relationship
  /-- The number of the next slide, which wraps around behind the last one. -/
  nextId : UInt32
  /-- The content types of the media added so far by their extensions. -/
  mediaTypes : List (String × String)
  finalized : Bool

namespace Deck

open Presentation (TemplateFault EntryFault)

/-! ## Templates -/

/-- A result about a package as a result about a template. -/
def ofPackage {α : Type} : Except PackageFault α → Except TemplateFault α
  | .ok value => .ok value
  | .error fault => .error (.package fault)

/-- The first target of a type among the relationships of a part. -/
def targetOf? (part type : String) (relationships : List Relationship) : Option String :=
  (relationships.find? (·.type == type)).map fun r => PartName.resolve part r.target

/-- The ids of the relationships to layouts that a slide master lists. -/
def layoutIds (masterXml : String) : Except TemplateFault (List String) :=
  let found := Xml.scan masterXml
  if found.complete then
    .ok ((found.elements.filter (·.isNamed "sldLayoutId")).filterMap (·.attribute? "r:id"))
  else .error (.markup .slideMaster)

/-- The part of the layout with a relationship id. -/
def layoutPart (master : String) (relationships : List Relationship) (id : String) :
    Except TemplateFault String :=
  match relationships.find? fun r => r.id == id && r.type == Relationship.slideLayout with
  | some r => .ok (PartName.resolve master r.target)
  | none => .error (.layoutMissing id)

/-- The parts of the layouts of a slide master, in the order of its list. -/
def masterLayouts (package : Package) (master : String) : Except TemplateFault (List String) := do
  let relationships ← ofPackage (package.relationships master)
  let xml ← ofPackage (package.text master)
  let ids ← layoutIds xml
  ids.mapM (layoutPart master relationships)

/-- The size of a slide, unless the presentation gives another. -/
def standardSize : Picture.Extent := ⟨Builtin.slideWidth, Builtin.slideHeight⟩

/-- The size that an element gives by two whole numbers. -/
def sizeOf? (element : Xml.Element) : Option Picture.Extent := do
  let cx ← (element.attribute? "cx").bind fun text => Number.signed64? text.toList
  let cy ← (element.attribute? "cy").bind fun text => Number.signed64? text.toList
  pure ⟨cx, cy⟩

/-- The size of the slides of a presentation: the last one that it gives. -/
def sizeIn (elements : List Xml.Element) : Picture.Extent :=
  (((elements.filter (·.isNamed "sldSz")).filterMap sizeOf?).getLast?).getD standardSize

/-- The numbers of the slides of a presentation, as far as they are numbers below `2 ^ 32`. -/
def slideIdsIn (elements : List Xml.Element) : List UInt32 :=
  (elements.filter (·.isNamed "sldId")).filterMap fun element =>
    (element.attribute? "id").bind fun text => Number.unsigned32? text.toList

/-- The least number that a slide may have. -/
def minId : UInt32 := 256

/-- The number of the first slide to be added: the one behind all numbers that are taken. Behind the last
number of 32 bits this is the least one again. -/
def firstId (taken : List UInt32) : UInt32 := max minId (taken.foldl max 0 + 1)

/-- The deck with a package as its template. -/
def ofTemplate (package : Package) : Except TemplateFault Deck := do
  let packageRelationships ← ofPackage (package.relationships "")
  let some presentation := targetOf? "" Relationship.officeDocument packageRelationships
    | .error .noPresentation
  let relationships ← ofPackage (package.relationships presentation)
  let some master := targetOf? presentation Relationship.slideMaster relationships
    | .error .noSlideMaster
  let layouts ← masterLayouts package master
  if layouts.isEmpty then .error (.noLayouts master)
  let xml ← ofPackage (package.text presentation)
  let found := Xml.scan xml
  if !found.complete then .error (.markup .presentation)
  .ok
    { package, presentation, layouts, relationships
      slideSize := sizeIn found.elements
      added := []
      nextId := firstId (slideIdsIn found.elements)
      mediaTypes := []
      finalized := false }

/-- The deck with the contents of a file as its template. -/
def ofContents (contents : File.Contents) : Except TemplateFault Deck := do
  ofTemplate (← ofPackage (Package.ofContents contents))

/-- A deck, or the error that the file at a path holds no template. -/
def ofTemplateFile (path : File.Path) : Except TemplateFault Deck → Except Error Deck
  | .ok deck => .ok deck
  | .error fault => .error (.dataFormat path (.template fault))

/-- The deck with a file as its template. A folder can be opened but holds no archive. -/
def openTemplate (files : File.Tree) (path : File.Path) : Except Error Deck :=
  match files.read path with
  | .ok contents => ofTemplateFile path (ofContents contents)
  | .error .isAFolder => ofTemplateFile path (.error (.package (.archive .notAnArchive)))
  | .error cause => .error (.notFound path cause)

/-- The deck with the built-in template. -/
def builtin : Except Error Deck :=
  ofTemplateFile ⟨"<built-in template>"⟩ (ofTemplate Builtin.package)

/-! ## Views -/

/-- How many slides the template already had. -/
def existingCount (deck : Deck) : Nat :=
  (deck.relationships.filter (·.type == Relationship.slide)).length - deck.added.length

/-- English Metric Units in a centimetre. -/
def unitsPerCentimetre : Int := 360000

/-- A length less another one that is not negative. A difference below the numbers of 64 bits wraps
around. -/
def shorten (length less : Int) : Int :=
  if length - less < -2 ^ 63 then length - less + 2 ^ 64 else length - less

/-- The area below the title: three and a half centimetres from both sides, three from the top and one
from the bottom, and at least a centimetre wide and high. -/
def contentFrame (deck : Deck) : Slide.Frame where
  x := 35 * unitsPerCentimetre / 10
  y := 3 * unitsPerCentimetre
  cx := max (shorten deck.slideSize.cx (2 * (35 * unitsPerCentimetre / 10))) unitsPerCentimetre
  cy := max (shorten (shorten deck.slideSize.cy (3 * unitsPerCentimetre)) unitsPerCentimetre)
    unitsPerCentimetre

/-! ## Adding slides -/

/-- Fails if the deck is closed. -/
def checkOpen (deck : Deck) : Except Error Unit :=
  if deck.finalized then .error (.invalidArgument .finalized) else .ok ()

/-- The part of a layout. -/
def layoutOf (deck : Deck) (layout : Layout) : Except Error String :=
  match deck.layouts[layout.index]? with
  | some part => .ok part
  | none => .error (.backend (.layoutMissing layout deck.layouts.length))

/-- The id for the next relationship of the main part: the first that is free from the number behind all
those at the end of ids, which is zero behind the last number of 32 bits. -/
def nextRelationshipId (relationships : List Relationship) : String :=
  let numbers := relationships.filterMap fun r => PartName.trailingNumber? r.id
  let next := (UInt32.ofNat (numbers.foldl max 0) + 1).toNat
  let free := (List.range (relationships.length + 1)).find? fun k =>
    !relationships.any (·.id == "rId" ++ toString (next + k))
  "rId" ++ toString (next + free.getD 0)

/-- The deck with a slide on the part of a layout: its shapes, and its relationships to other parts by
their names. -/
def push (deck : Deck) (layoutPart : String) (shapes : List Slide.Shape)
    (links : List Relationship) : Deck :=
  let part := deck.package.nextPartName (PartName.inFolderOf deck.presentation "slides/slide") "xml"
  let layoutLink := Relationship.internal "rId1" Relationship.slideLayout layoutPart
  let relationships := (layoutLink :: links).map fun r =>
    { r with target := PartName.relative part r.target }
  let id := nextRelationshipId deck.relationships
  { deck with
    package := (deck.package.insertText part (Slide.sheet shapes)).insertText
      (PartName.relationshipsPart part) (Relationship.listXml relationships)
    relationships := deck.relationships ++
      [.internal id Relationship.slide (PartName.relative deck.presentation part)]
    added := deck.added ++ [⟨part, id, deck.nextId.toNat⟩]
    nextId := deck.nextId + 1 }

/-- The deck with a slide of plain shapes on a layout. -/
def addShapes (deck : Deck) (layout : Layout) (shapes : List Slide.Shape) :
    Except Error Deck := do
  let layoutPart ← deck.layoutOf layout
  pure (deck.push layoutPart shapes [])

/-- The deck with a title slide. -/
def addTitle (deck : Deck) (layout : Layout) (title subtitle : String) : Except Error Deck := do
  deck.checkOpen
  deck.addShapes layout [.title true title, .subtitle subtitle]

/-- The deck with a slide of text. -/
def addText (deck : Deck) (layout : Layout) (title body : String) : Except Error Deck := do
  deck.checkOpen
  deck.addShapes layout [.title false title, .textBox deck.contentFrame body]

/-- The deck with a slide of a list, given by the levels and the texts of its items. -/
def addList (deck : Deck) (layout : Layout) (title : String) (levels : List UInt32)
    (texts : List String) : Except Error Deck := do
  deck.checkOpen
  if levels.length ≠ texts.length then
    .error (.invalidArgument (.listLengths levels.length texts.length))
  deck.addShapes layout
    [.title false title, .list ((levels.zip texts).map fun (level, text) => ⟨level, text⟩)]

/-- The deck with a media part, and the name of the part. -/
def addMedia (deck : Deck) (format : Picture.Format) (contents : File.Contents) : String × Deck :=
  let stem := PartName.inFolderOf deck.presentation "media/image"
  let part := deck.package.nextPartName stem format.extension
  (part,
    { deck with
      package := deck.package.insert part contents
      mediaTypes := Ascending.insert format.extension format.contentType deck.mediaTypes })

/-- The deck with the media parts of a picture, and the relationships to them. A vector image comes
first and its stand-in second, but the stand-in has the lower id. -/
def addPicture (deck : Deck) (picture : Picture) : List Relationship × Deck :=
  let (part, deck) := deck.addMedia picture.format picture.contents
  match picture.format with
  | .svg =>
    let (standIn, deck) := deck.addMedia .png (Picture.standIn picture.pixels)
    ([.internal "rId2" Relationship.image standIn, .internal "rId3" Relationship.image part], deck)
  | _ => ([.internal "rId2" Relationship.image part], deck)

/-- The frame of a picture in an area, by the numbers that sizes are computed with. -/
def pictureFrame (α : Type) [Number.Scalar α] (area : Slide.Frame) (pixels : Option Picture.Pixels) :
    Slide.Frame :=
  let size := Picture.fit α pixels ⟨area.cx, area.cy⟩
  { area with cx := size.cx, cy := size.cy }

/-- The deck with a slide of a picture. -/
def addImage (deck : Deck) (files : File.Tree) (layout : Layout) (title : String)
    (path : File.Path) : Except Error Deck := do
  deck.checkOpen
  let layoutPart ← deck.layoutOf layout
  let picture ← match Picture.load files path with
    | .ok picture => .ok picture
    | .error fault => .error (.backend (.picture fault))
  let frame := pictureFrame Float deck.contentFrame picture.pixels
  let vector := if picture.format = .svg then some "rId3" else none
  let description := String.ofList (path.fileName?.getD [])
  let (links, deck) := deck.addPicture picture
  pure (deck.push layoutPart
    [.title false title, .picture frame "rId2" vector description] links)

/-! ## Finishing -/

/-- The entries for the added slides in the list of slides. -/
def slideEntries (deck : Deck) : List Char :=
  Xml.allChars <| deck.added.map fun slide =>
    .empty "p:sldId" [⟨"id", toString slide.id⟩, ⟨"r:id", slide.relationship⟩]

/-- The content type of slides. -/
def slideType : String := Builtin.presentationType "slide"

/-- The additions to the content types: the media extensions that have no default yet, and the added
slides. -/
def typeEntries (deck : Deck) (known : List String) : List Char :=
  let media := deck.mediaTypes.filter fun (extension, _) => !known.contains extension
  Xml.allChars <|
    (media.map fun (extension, type) =>
      .empty "Default" [⟨"Extension", extension⟩, ⟨"ContentType", type⟩]) ++
    (deck.added.map fun slide =>
      .empty "Override" [⟨"PartName", "/" ++ slide.part⟩, ⟨"ContentType", slideType⟩])

/-- A result about a package as a result about entering slides. -/
def ofPackageEntry {α : Type} : Except PackageFault α → Except EntryFault α
  | .ok value => .ok value
  | .error fault => .error (.package fault)

/-- The package with the added slides entered into the list of slides, the relationships of the main
part and the content types. -/
def register (deck : Deck) : Except EntryFault Package := do
  let xml ← ofPackageEntry (deck.package.text deck.presentation)
  let listed ← Presentation.insertEntries xml.toList deck.slideEntries
  let package := (deck.package.insertText deck.presentation (String.ofList listed)).insertText
    (PartName.relationshipsPart deck.presentation) (Relationship.listXml deck.relationships)
  let types ← ofPackageEntry (package.text Package.contentTypesPart)
  let known ← Presentation.knownExtensions types
  let extended ← Presentation.appendTypes types.toList (deck.typeEntries known)
  pure (package.insertText Package.contentTypesPart (String.ofList extended))

/-- Whether the extension of a path is that of presentations, in any mixture of ASCII cases. -/
def isPptx (path : File.Path) : Bool :=
  (path.extension?.map (·.map Char.toLower)) == some "pptx".toList

/-- Enters the added slides and writes the package to a file. The deck is closed by this, whether it
succeeds or not. The archive may fail to be written, and the file to be brought to the disk. -/
def finalize (deck : Deck) (files : File.Tree) (output : File.Path) :
    Except Error Unit × Deck × File.Tree :=
  match deck.checkOpen with
  | .error error => (.error error, deck, files)
  | .ok () =>
    let closed := { deck with finalized := true }
    if !isPptx output then (.error (.artifactWrite output .notPptx), closed, files)
    else match deck.register with
      | .error fault => (.error (.artifactWrite output (.entry fault)), closed, files)
      | .ok package =>
        let closed := { closed with package }
        match files.publish output ".slidegen-" ".pptx" (.archive package.toEntries) with
        | (.ok (), written) => (.ok (), closed, written)
        | (.error cause, same) => (.error (.artifactWrite output (.file cause)), closed, same)

end Deck

end SlideDeck
