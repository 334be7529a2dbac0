import SlideDeck.CommandLine.Paths
import SlideDeck.CommandLine.Run
import SlideDeck.File.Encoding

/-!
# The program

The program takes a picture of the part of the file system that its command line is about, runs the
command line on it, and stores what has changed.
-/

namespace SlideDeck.Program

/-- What lies at an address of the file system, if it can be read. -/
def look (address : File.Address) : IO (Option File.Node) := do
  let place := System.mkFilePath ("" :: address)
  if ← place.isDir then return some .folder
  try
    return some (.file (.ofBytes (← IO.FS.readBinFile place)))
  catch _ => return none

/-- The file system with what lies on the way along names from an address, as far as there is
something. -/
def recordNames (files : File.Tree) (address : File.Address) : List String → IO File.Tree
  | [] => return files
  | "." :: rest => recordNames files address rest
  | ".." :: rest => recordNames files address.dropLast rest
  | name :: rest => do
    let address := address ++ [name]
    match ← look address with
    | none => return files
    | some node => recordNames (files.set address node) address rest

/-- The file system with what lies on the way along a path. -/
def recordPath (files : File.Tree) (path : File.Path) : IO File.Tree :=
  let names := (path.segments.filter (· ≠ [])).map String.ofList
  recordNames files (if path.isAbsolute then [] else files.current) names

/-- The file system with the current folder and the folder for temporary files, whose names are drawn at
random. -/
def start : IO File.Tree := do
  let current := (← IO.currentDir).components.filter (· ≠ "")
  let temporary : File.Path := ⟨(← IO.getEnv "TMPDIR").getD "/tmp"⟩
  let letters := File.Letters.of (toString (← IO.rand 0 (10 ^ 6 - 1)))
  let files : File.Tree := ⟨[], current, temporary, { letters }⟩
  recordPath (← recordNames files [] current) temporary

/-- The file system with all that a command line is about. -/
def record (words : List String) : IO File.Tree := do
  let files ← start
  match CommandLine.Arguments.ofWords words with
  | .error _ => return files
  | .ok arguments =>
    let files ← arguments.paths.foldlM recordPath files
    (CommandLine.configuredPaths arguments files).foldlM recordPath files

/-- Stores a file or folder. A file is complete or not stored at all. -/
def store (address : File.Address) : File.Node → IO Unit
  | .folder => IO.FS.createDirAll (System.mkFilePath ("" :: address))
  | .file contents => do
    let place := System.mkFilePath ("" :: address)
    let temporary := place.addExtension "part"
    IO.FS.writeBinFile temporary contents.toBytes
    IO.FS.rename temporary place

/-- Whether two nodes are the same. -/
def same : Option File.Node → File.Node → Bool
  | some .folder, .folder => true
  | some (.file old), .file new => old == new
  | _, _ => false

/-- Stores what has changed between two states of the file system. -/
def storeChanges (before after : File.Tree) : IO Unit :=
  after.nodes.forM fun (address, node) =>
    if same (before.node? address) node then pure () else store address node

/-- The status when what has changed cannot be stored. -/
def storeStatus : UInt32 := 6

end SlideDeck.Program

open SlideDeck in
/-- Runs a command line. -/
def main (words : List String) : IO UInt32 := do
  let before ← Program.record words
  let (outcome, after) := CommandLine.run words before
  try
    Program.storeChanges before after
    outcome.output.forM IO.println
    outcome.messages.forM IO.eprintln
    return UInt32.ofNat outcome.status
  catch error =>
    IO.eprintln ("error: " ++ toString error)
    return Program.storeStatus
