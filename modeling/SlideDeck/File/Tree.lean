import SlideDeck.File.Contents
import SlideDeck.File.Error
import SlideDeck.File.Path

/-!
# The file system

A file tree holds files and folders by their addresses, which are the names on the way from the root.
Operations take paths and find addresses by walking from folder to folder. An operation that only
looks returns a value or a failure; one that changes the tree returns the new tree.

New files are written beside their final place under a temporary name and then renamed, so that
`publish` leaves either the complete file or the tree it was given (`Tree.publish`). The names of
temporary files and folders are drawn at random, and writing may fail at any time; how it turns out is
part of the tree (`Circumstances`), so that what holds of all trees holds whatever is drawn and whatever
fails.
-/

namespace SlideDeck.File

/-- The names on the way from the root to a file or folder. -/
abbrev Address := List String

/-- What is found at an address. -/
inductive Node where
  | file (contents : Contents)
  | folder

/-- Letters and digits. -/
structure Letters where
  text : String
  isAlphanum : ∀ c ∈ text.toList, c.isAlphanum = true

/-- The letters and digits of a text. -/
def Letters.of (text : String) : Letters where
  text := String.ofList (text.toList.filter Char.isAlphanum)
  isAlphanum := fun c hc => by
    rw [String.toList_ofList] at hc
    exact (List.mem_filter.1 hc).2

/-- How an attempt to write a file fails: what it leaves in the unfinished file, and the wording of the
failure. -/
structure Mishap where
  contents : Contents
  wording : String

/-- What the files do not settle. -/
structure Circumstances where
  /-- What is drawn for the name of a temporary file or folder. -/
  letters : Letters := .of "0"
  /-- Whether an attempt to write contents to a path fails, be it that the contents cannot be produced,
  that there is no room for them, or that they do not reach the disk. -/
  mishap? : Path → Contents → Option Mishap := fun _ _ => none

/-- A file system, with the folder from which relative paths count and the folder for temporary
files. The root is always a folder and has no entry of its own. -/
structure Tree where
  nodes : List (Address × Node)
  current : Address
  temporary : Path
  circumstances : Circumstances := {}

namespace Tree

/-! ## Addresses -/

/-- What is found at an address. -/
def node? (tree : Tree) (address : Address) : Option Node :=
  if address = [] then some .folder else tree.nodes.lookup address

/-- The tree with a file or folder at an address, in the place of what is there. -/
def set (tree : Tree) (address : Address) (node : Node) : Tree :=
  { tree with
    nodes :=
      if tree.nodes.any (·.1 == address) then
        tree.nodes.map fun entry => if entry.1 = address then (address, node) else entry
      else tree.nodes ++ [(address, node)] }

/-- The tree without the file or empty folder at an address. -/
def unset (tree : Tree) (address : Address) : Tree :=
  { tree with nodes := tree.nodes.filter (·.1 != address) }

/-- The tree without a folder and all that is in it. -/
def removeFolder (tree : Tree) (address : Address) : Tree :=
  { tree with nodes := tree.nodes.filter (!address.isPrefixOf ·.1) }

/-- Whether there is a folder at an address. -/
def isFolderAt (tree : Tree) (address : Address) : Bool :=
  match tree.node? address with
  | some .folder => true
  | _ => false

/-! ## Walking -/

/-- The longest name that a file or folder may have, in bytes of UTF-8. -/
def maxName : Nat := 255

/-- The longest path, in bytes of UTF-8. -/
def maxPath : Nat := 4095

/-- The address that a name leads to from a folder. -/
def enter (tree : Tree) (folder : Address) (name : String) : Except Error Address :=
  if !tree.isFolderAt folder then .error .notAFolder
  else if name = "." then .ok folder
  else if name = ".." then .ok folder.dropLast
  else if maxName < name.utf8ByteSize then .error .nameTooLong
  else match tree.node? (folder ++ [name]) with
    | some _ => .ok (folder ++ [name])
    | none => .error .notFound

/-- The address that names lead to from a folder. -/
def walk (tree : Tree) (folder : Address) : List String → Except Error Address
  | [] => .ok folder
  | name :: rest => do
    let next ← tree.enter folder name
    tree.walk next rest

/-- The end of a path: the folder that its last name is to be looked up in. -/
structure Place where
  folder : Address
  /-- The last name; none if the path is the root. -/
  name : Option String
  /-- Whether a slash follows the last name. -/
  slash : Bool

/-- Where a path leads to, up to its last name. -/
def place (tree : Tree) (path : Path) : Except Error Place := do
  if path.text.toList.contains '\x00' then throw .zeroInName
  if path.text.isEmpty then throw .notFound
  if maxPath < path.text.utf8ByteSize then throw .nameTooLong
  let names := (path.segments.filter (· ≠ [])).map String.ofList
  let start := if path.isAbsolute then [] else tree.current
  let folder ← tree.walk start names.dropLast
  if !tree.isFolderAt folder then throw .notAFolder
  pure ⟨folder, names.getLast?, path.text.toList.getLast? = some '/'⟩

/-- Whether a name leads to a folder without being the name of an entry. -/
def isDots (name : String) : Bool := name == "." || name == ".."

/-- What a path names. -/
def find (tree : Tree) (path : Path) : Except Error (Address × Node) := do
  let place ← tree.place path
  match place.name with
  | none => pure (place.folder, .folder)
  | some name =>
    let address ← tree.enter place.folder name
    match tree.node? address with
    | none => throw .notFound
    | some (.file contents) =>
      if place.slash then throw .notAFolder else pure (address, .file contents)
    | some .folder => pure (address, .folder)

/-- Whether a path names something. -/
def exists? (tree : Tree) (path : Path) : Bool := (tree.find path).toBool

/-- Whether a path names a folder. -/
def isFolder (tree : Tree) (path : Path) : Bool :=
  match tree.find path with
  | .ok (_, .folder) => true
  | _ => false

/-- The contents of the file that a path names. -/
def read (tree : Tree) (path : Path) : Except Error Contents := do
  match ← tree.find path with
  | (_, .file contents) => pure contents
  | (_, .folder) => throw .isAFolder

/-! ## Folders -/

/-- The tree with a new folder. -/
def makeFolder (tree : Tree) (path : Path) : Except Error Tree := do
  let place ← tree.place path
  match place.name with
  | none => throw .exists
  | some name =>
    if isDots name then throw .exists
    if maxName < name.utf8ByteSize then throw .nameTooLong
    match tree.node? (place.folder ++ [name]) with
    | some _ => throw .exists
    | none => pure (tree.set (place.folder ++ [name]) .folder)

/-- What making a folder amounts to when it is fine that the folder is there. -/
def settle (tree : Tree) (path : Path) : Except Error Tree → Except Error Unit × Tree
  | .ok made => (.ok (), made)
  | .error e => (if tree.isFolder path then .ok () else .error e, tree)

/-- The tree with a folder, given its path and the paths above it. A folder above it is made only if
the folder cannot be made without, and stays even if the folder cannot be made with it. -/
def makeFolderChain (tree : Tree) : List Path → Except Error Unit × Tree
  | [] => (.ok (), tree)
  | path :: above =>
    if path.text.isEmpty then (.ok (), tree)
    else match tree.makeFolder path with
      | .error .notFound =>
        match tree.makeFolderChain above with
        | (.error e, made) => (.error e, made)
        | (.ok (), made) => made.settle path (made.makeFolder path)
      | result => tree.settle path result

/-- The tree with a folder and the folders above it, as far as they are not there. -/
def makeFolders (tree : Tree) (path : Path) : Except Error Unit × Tree :=
  tree.makeFolderChain path.ancestors

/-! ## Files -/

/-- The tree with a file, in the place of a file that is there. -/
def write (tree : Tree) (path : Path) (contents : Contents) : Except Error Tree := do
  let place ← tree.place path
  match place.name with
  | none => throw .isAFolder
  | some name =>
    if place.slash ∨ isDots name then throw .isAFolder
    if maxName < name.utf8ByteSize then throw .nameTooLong
    match tree.node? (place.folder ++ [name]) with
    | some .folder => throw .isAFolder
    | _ => pure (tree.set (place.folder ++ [name]) (.file contents))

/-- The tree with the file at an address moved to where a path leads, in the place of a file that is
there. -/
def rename (tree : Tree) (source : Address) (target : Path) : Except Error Tree := do
  if target.text.toList.contains '\x00' then throw .invalid
  let place ← tree.place target
  match place.name with
  | none => throw .busy
  | some name =>
    if isDots name then throw .busy
    if maxName < name.utf8ByteSize then throw .nameTooLong
    if place.slash then throw .notAFolder
    match tree.node? (place.folder ++ [name]), tree.node? source with
    | some .folder, _ => throw .isAFolder
    | _, some node => pure ((tree.unset source).set (place.folder ++ [name]) node)
    | _, none => throw .notFound

/-- Whether nothing is at an address or below it. -/
def isFree (tree : Tree) (address : Address) : Bool := !tree.nodes.any (address.isPrefixOf ·.1)

/-- A name with this start and end that is free in a folder: with the letters that are drawn between
them or, if there is such a file or folder, with a number. Each file or folder takes at most one name, so
one of the first numbers, as many as there are files and folders and one more, is free. -/
def freshName (tree : Tree) (folder : Address) (start ending : String) : String :=
  let name (middle : String) : String := start ++ middle ++ ending
  let drawn := name tree.circumstances.letters.text
  let numbers := List.range (tree.nodes.length + 1)
  if tree.isFree (folder ++ [drawn]) then drawn
  else name (toString ((numbers.find? fun n => tree.isFree (folder ++ [name (toString n)])).getD 0))

/-- The address of a fresh name in the folder that a path names. -/
def freshAddress (tree : Tree) (folder : Path) (start ending : String) : Except Error Address := do
  let place ← tree.place (folder.child (start ++ ending))
  pure (place.folder ++ [tree.freshName place.folder start ending])

/-- The tree with a file at a path, all at once: the file is written under a temporary name in the
folder of the path, and then renamed. If either fails, the temporary file is removed and nothing else
has changed. -/
def publish (tree : Tree) (path : Path) (start ending : String) (contents : Contents) :
    Except Error Unit × Tree :=
  match tree.freshAddress path.folder start ending with
  | .error e => (.error e, tree)
  | .ok temporary =>
    match tree.circumstances.mishap? path contents with
    | some mishap =>
      (.error (.other mishap.wording),
        (tree.set temporary (.file mishap.contents)).unset temporary)
    | none =>
      let written := tree.set temporary (.file contents)
      match written.rename temporary path with
      | .ok renamed => (.ok (), renamed)
      | .error e => (.error e, written.unset temporary)

/-- A new folder for temporary files: its address and its path. -/
def makeScratch (tree : Tree) (start : String) : Except Error (Address × Path × Tree) := do
  let address ← tree.freshAddress tree.temporary start ""
  let path := tree.temporary.child (address.getLast?.getD start)
  pure (address, path, tree.set address .folder)

end Tree

end SlideDeck.File
