import SlideDeck.Number.Decimal
import SlideDeck.Text.Find
import SlideDeck.Text.Lines

/-!
# Part names and targets

Parts are named by their path within the package, without a slash at the start. A relationship names
its target relative to the folder of the part that owns it: `resolve` follows a target and `relative`
makes one. The numbers at the end of part names and relationship ids are read and given out here too.
-/

namespace SlideDeck.PartName

/-! ## Folders -/

/-- The folder of a part and the rest of its name; a part at the root has no folder. -/
def split (part : List Char) : Option (List Char × List Char) := Text.cutLast ['/'] part

/-- The segments of the folder of a part; none at the root. -/
def folderSegments (part : List Char) : List (List Char) :=
  match split part with
  | some (folder, _) => Text.splitAt '/' folder
  | none => []

/-- A name within the folder of a part. -/
def inFolderOf (part : String) (name : String) : String :=
  match split part.toList with
  | some (folder, _) => String.ofList (folder ++ '/' :: name.toList)
  | none => name

/-- The part that holds the relationships of a part; the package itself counts as the part with the
empty name. -/
def relationshipsPart (part : String) : String :=
  let (folder, name) := match split part.toList with
    | some (folder, name) => (folder ++ ['/'], name)
    | none => ([], part.toList)
  String.ofList (folder ++ "_rels/".toList ++ name ++ ".rels".toList)

/-! ## Targets -/

/-- One step along a path: an empty segment and a dot stay, two dots go up, and all else goes down.
The path is held in reverse. -/
def step (path : List (List Char)) (segment : List Char) : List (List Char) :=
  if segment = [] ∨ segment = ['.'] then path
  else if segment = ['.', '.'] then path.tail
  else segment :: path

/-- The path that following the segments leads to, from the root. -/
def follow (segments : List (List Char)) : List (List Char) := (segments.foldl step []).reverse

/-- The part that a target names, for the part that owns the relationship. A target with a slash at
its start counts from the root of the package. -/
def resolve (source target : String) : String :=
  let segments := match target.toList with
    | '/' :: rest => Text.splitAt '/' rest
    | target => folderSegments source.toList ++ Text.splitAt '/' target
  String.ofList (Text.join ['/'] (follow segments))

/-- How many segments two paths have in common at their starts. -/
def commonLength : List (List Char) → List (List Char) → Nat
  | a :: as, b :: bs => if a = b then commonLength as bs + 1 else 0
  | _, _ => 0

/-- The target that leads from one part to another: up to the last folder they share, then down. The
last segment of the other part is always written. -/
def relative (source target : String) : String :=
  let folder := folderSegments source.toList
  let path := Text.splitAt '/' target.toList
  let common := min (commonLength folder path) (path.length - 1)
  let up := List.replicate (folder.length - common) ['.', '.']
  String.ofList (Text.join ['/'] (up ++ path.drop common))

/-! ## Numbers in names -/

/-- The number below `2 ^ 32` that the ASCII digits at the end of a name write, if there are any. -/
def trailingNumber? (name : String) : Option Nat :=
  let digits := (name.toList.reverse.takeWhile Char.isDigit).reverse
  (Number.natural? digits).filter (· < 2 ^ 32)

/-- Whether some name starts with the stem and the number, followed by a dot. -/
def isTaken (names : List String) (stem : String) (number : Nat) : Bool :=
  names.any fun name => (stem ++ toString number ++ ".").toList.isPrefixOf name.toList

/-- The least positive number that no name takes. Each name takes at most one number, so one of the
first numbers, as many as there are names and one more, is free. -/
def freeNumber (names : List String) (stem : String) : Nat :=
  let candidates := List.range' 1 (names.length + 1)
  (candidates.find? (!isTaken names stem ·)).getD (names.length + 1)

/-- The name with the least number whose stem no name starts with, whatever its extension. -/
def next (names : List String) (stem extension : String) : String :=
  stem ++ toString (freeNumber names stem) ++ "." ++ extension

end SlideDeck.PartName
