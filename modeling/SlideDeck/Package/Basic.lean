import SlideDeck.Ascending
import SlideDeck.File.Contents
import SlideDeck.Package.PartName
import SlideDeck.Package.Relationship

/-!
# Packages

A presentation file is a package: an archive of named parts. The parts are held in ascending order of
their names. In the archive the part that lists the content types comes first.
-/

namespace SlideDeck

/-- Why a package or a part of it cannot be used. -/
inductive PackageFault where
  | archive (fault : Archive.Fault)
  | partMissing (name : String)
  | partNotText (name : String)
  | markup (fault : MarkupFault)
deriving Repr, DecidableEq

/-- The name without slashes at its start. -/
def Package.entryName (name : String) : String :=
  String.ofList (name.toList.dropWhile (· == '/'))

/-- The wording of a fault of the archive that a package is. -/
def Package.archiveMessage : Archive.Fault → String
  | .notAnArchive => "Failed to open ZIP: the file is not a ZIP archive"
  | .entry index cause => "Failed to read ZIP entry " ++ toString index ++ ": " ++ cause.message
  | .content name cause => "Failed to read '" ++ entryName name ++ "': " ++ cause.message

/-- The wording of a fault. -/
def PackageFault.message : PackageFault → String
  | .archive fault => Package.archiveMessage fault
  | .partMissing name => "Part not found in package: '" ++ name ++ "'"
  | .partNotText name => "Part '" ++ name ++ "' is not UTF-8"
  | .markup fault => fault.message

/-- The parts of a package by their names. -/
structure Package where
  parts : List (String × File.Contents)
  sorted : Ascending.Sorted parts

namespace Package

/-- The package without parts. -/
def empty : Package := ⟨[], List.Pairwise.nil⟩

/-- The name of the part that lists the content types. -/
def contentTypesPart : String := "[Content_Types].xml"

/-- A part of the package. -/
def get? (package : Package) (name : String) : Option File.Contents :=
  Ascending.find? name package.parts

/-- Whether the package has a part. -/
def contains (package : Package) (name : String) : Bool := (package.get? name).isSome

/-- The package with a part, which replaces a part of that name. -/
def insert (package : Package) (name : String) (contents : File.Contents) : Package where
  parts := Ascending.insert name contents package.parts
  sorted := Ascending.insert_sorted name contents package.sorted

/-- The package with a part that holds text. -/
def insertText (package : Package) (name text : String) : Package :=
  package.insert name (.text text)

/-- The names of the parts in ascending order. -/
def names (package : Package) : List String := package.parts.map (·.1)

/-- The text of a part. -/
def text (package : Package) (name : String) : Except PackageFault String :=
  match package.get? name with
  | none => .error (.partMissing name)
  | some contents =>
    match contents.utf8? with
    | some text => .ok text
    | none => .error (.partNotText name)

/-- The relationships of a part, none if no part lists any. -/
def relationships (package : Package) (part : String) : Except PackageFault (List Relationship) :=
  let listing := PartName.relationshipsPart part
  if package.contains listing then do
    let xml ← package.text listing
    match Relationship.ofXml xml with
    | .ok relationships => .ok relationships
    | .error fault => .error (.markup fault)
  else .ok []

/-- The first free part name with this stem and extension. -/
def nextPartName (package : Package) (stem extension : String) : String :=
  PartName.next package.names stem extension

/-! ## Archives -/

/-- The package of the entries of an archive. Entries for folders are left out, and of two entries
with one name the later counts. -/
def ofEntries (entries : List (String × File.Contents)) : Package :=
  (entries.filter fun entry => !Archive.isFolder entry.1).foldl
    (fun package entry => package.insert (entryName entry.1) entry.2) empty

/-- The package that a file holds. -/
def ofContents (contents : File.Contents) : Except PackageFault Package :=
  match contents.entries with
  | .ok entries => .ok (ofEntries entries)
  | .error fault => .error (.archive fault)

/-- The entries of the archive of a package: the content types, then all other parts in ascending
order of their names. -/
def toEntries (package : Package) : List (String × File.Contents) :=
  let (first, others) := package.parts.partition fun entry => entry.1 == contentTypesPart
  first ++ others

/-- A part is found with the contents that were inserted for it. -/
@[simp] theorem get?_insert_self (package : Package) (name : String) (contents : File.Contents) :
    (package.insert name contents).get? name = some contents :=
  Ascending.find?_insert_self name contents package.parts

/-- Inserting a part changes no other part. -/
theorem get?_insert_of_ne (package : Package) {name other : String} (h : other ≠ name)
    (contents : File.Contents) : (package.insert name contents).get? other = package.get? other :=
  Ascending.find?_insert_of_ne h contents package.parts

end Package

end SlideDeck
