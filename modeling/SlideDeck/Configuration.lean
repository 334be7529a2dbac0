import SlideDeck.Error
import SlideDeck.Json.Reader

/-!
# Configurations

A configuration is a JSON document: an object whose member `presentation` is the array of the slides.
All slides are read before any of them is used, and the first that is not valid is reported.
-/

namespace SlideDeck.Configuration

/-- The slides of entries, the first of which has the given index. -/
def slidesFrom (index : Nat) : List Json → Except Error (List Slide)
  | [] => .ok []
  | entry :: rest =>
    match Slide.ofJson entry with
    | .error invalid => .error (.validation index invalid.kind invalid.fault)
    | .ok slide => (slidesFrom (index + 1) rest).map (slide :: ·)

/-- The slides of a document; the path of the document is for errors only. -/
def ofJson (path : File.Path) (document : Json) : Except Error (List Slide) :=
  match document.get? "presentation" with
  | none => .error (.dataFormat path .noPresentationKey)
  | some (.array entries) => slidesFrom 0 entries
  | some _ => .error (.dataFormat path .presentationNotArray)

/-- The slides of a configuration; its path is for errors only. -/
def ofText (path : File.Path) (text : String) : Except Error (List Slide) :=
  match Json.ofText? text with
  | none => .error (.dataFormat path .notJson)
  | some document => ofJson path document

/-- The slides of the configuration in a file. -/
def load (files : File.Tree) (path : File.Path) : Except Error (List Slide) :=
  match files.read path with
  | .error cause => .error (.notFound path cause)
  | .ok contents =>
    match contents.utf8? with
    | none => .error (.dataFormat path .configurationNotText)
    | some text => ofText path text

end SlideDeck.Configuration
