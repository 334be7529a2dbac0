import SlideDeck.Text.Lines

/-!
# Paths

A path is a text whose segments are separated by slashes. Empty segments and dots say nothing, except
that a dot at the very start names the current folder. The name of a file is the last segment that
says something, and its extension is what follows the last dot of it, unless that dot is its start.
-/

namespace SlideDeck.File

/-- A path of the file system, as it is written. -/
structure Path where
  text : String
deriving Repr, DecidableEq

namespace Path

/-- The segments between the slashes. -/
def segments (path : Path) : List (List Char) := Text.splitAt '/' path.text.toList

/-- Whether the path counts from the root. -/
def isAbsolute (path : Path) : Bool := path.text.toList.head? == some '/'

/-- Whether a segment says nothing: it is empty or a dot. -/
def isVoid (segment : List Char) : Bool := segment == [] || segment == ['.']

/-- The segments in reverse, from the last one that says something. -/
def ascending (path : Path) : List (List Char) := path.segments.reverse.dropWhile isVoid

/-- The name of the file, unless the path ends by going up or has no segment that says something. -/
def fileName? (path : Path) : Option (List Char) :=
  match path.ascending with
  | [] => none
  | name :: _ => if name = ['.', '.'] then none else some name

/-- What follows the last dot of a name, unless there is no dot or only one at its start. -/
def extensionOf (name : List Char) : Option (List Char) :=
  let extension := (name.reverse.takeWhile (· != '.')).reverse
  if name.length ≤ extension.length + 1 then none else some extension

/-- The extension of the file name. -/
def extension? (path : Path) : Option (List Char) := path.fileName?.bind extensionOf

/-- The path without its last segment, unless it is empty or the root. -/
def parent? (path : Path) : Option Path :=
  match path.ascending with
  | [] =>
    if path.isAbsolute ∨ path.text.isEmpty then none else some ⟨""⟩
  | _ :: above =>
    match above.dropWhile isVoid with
    | [] =>
      if path.isAbsolute then some ⟨"/"⟩
      else if above.getLast? = some ['.'] then some ⟨"."⟩
      else some ⟨""⟩
    | kept => some ⟨String.ofList (Text.join ['/'] kept.reverse)⟩

/-- The folder in which a file with this path lies; the current folder if the path names none. -/
def folder (path : Path) : Path :=
  match path.parent? with
  | some parent => if parent.text.isEmpty then ⟨"."⟩ else parent
  | none => ⟨"."⟩

/-- A file of this name in a folder. -/
def child (folder : Path) (name : String) : Path :=
  let text := folder.text.toList
  if text.isEmpty ∨ text.getLast? = some '/' then ⟨folder.text ++ name⟩
  else ⟨folder.text ++ "/" ++ name⟩

/-- The path and the paths above it, nearest first, as far as there are `n` of them. -/
def ancestorsUpTo : (n : Nat) → Path → List Path
  | 0, _ => []
  | n + 1, path =>
    path :: match path.parent? with
      | none => []
      | some parent => ancestorsUpTo n parent

/-- The path and all paths above it, nearest first. Each is shorter than the one before. -/
def ancestors (path : Path) : List Path := path.ancestorsUpTo (path.text.length + 1)

end Path

end SlideDeck.File
