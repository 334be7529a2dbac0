import SlideDeck.File.Error
import SlideDeck.Picture.Basic
import SlideDeck.Presentation.Fault
import SlideDeck.Series.Basic
import SlideDeck.Slide.Reader

/-!
# Errors of deck generation

Every operation on decks fails with an `Error`, which says what was attempted and holds the cause. The
wording of all of them is `Error.message`.
-/

namespace SlideDeck

/-- What is wrong with the data in a file. -/
inductive DataFault where
  | series (fault : Series.Fault)
  | seriesNotText
  | configurationNotText
  | notJson
  | noPresentationKey
  | presentationNotArray
  | template (fault : Presentation.TemplateFault)
  /-- A fault that a back end words itself. -/
  | other (text : String)

/-- The wording of a fault. -/
def DataFault.message : DataFault → String
  | .series fault => fault.message
  | .seriesNotText => "source is not valid UTF-8 text"
  | .configurationNotText => "configuration is not valid UTF-8"
  | .notJson => "invalid JSON: the text is not a JSON document"
  | .noPresentationKey => "missing 'presentation' key"
  | .presentationNotArray => "'presentation' must be an array"
  | .template fault => fault.message
  | .other text => text

/-- Which argument is not acceptable. -/
inductive ArgumentFault where
  | emptyXLabel
  | emptyYLabel
  | chartFormat (lowercase : String)
  | lengthsDiffer (xs ys : Nat)
  | noPoints
  | finalized
  | listLengths (levels texts : Nat)
  | outputNotPptx (output : File.Path)
  /-- A fault that a back end words itself. -/
  | other (text : String)
deriving Repr, DecidableEq

/-- The wording of a fault. -/
def ArgumentFault.message : ArgumentFault → String
  | .emptyXLabel => "x-label must not be empty"
  | .emptyYLabel => "y-label must not be empty"
  | .chartFormat lowercase =>
    "unsupported chart format '" ++ lowercase ++ "' (expected svg or png)"
  | .lengthsDiffer xs ys =>
    "x and y differ in length (" ++ toString xs ++ " vs " ++ toString ys ++ ")"
  | .noPoints => "no points to plot"
  | .finalized => "deck has already been finalized"
  | .listLengths levels texts =>
    toString levels ++ " levels for " ++ toString texts ++ " list lines"
  | .outputNotPptx output => "output must be a .pptx file: " ++ output.text
  | .other text => text

/-- Why a file cannot be written. -/
inductive WriteFault where
  | file (cause : File.Error)
  | chartFormat
  | notPptx
  | entry (fault : Presentation.EntryFault)
  /-- Another failure, by its wording. -/
  | reported (text : String)
deriving Repr, DecidableEq

/-- The wording of a fault. -/
def WriteFault.message : WriteFault → String
  | .file cause => cause.message
  | .chartFormat => "unsupported image format (expected .svg or .png)"
  | .notPptx => "output must have a .pptx extension"
  | .entry fault => fault.message
  | .reported text => text

/-- Why a slide cannot be put into a deck. -/
inductive BackendFault where
  | layoutMissing (layout : Layout) (count : Nat)
  | picture (fault : Picture.Fault)
  /-- A fault that a back end words itself. -/
  | other (text : String)
deriving Repr, DecidableEq

/-- The wording of a fault. -/
def BackendFault.message : BackendFault → String
  | .layoutMissing layout count => "layout " ++ toString layout.index ++
      " not present in template (" ++ toString count ++ " layouts)"
  | .picture fault => fault.message
  | .other text => text

/-- Why the generation of a deck fails. -/
inductive Error where
  /-- An input file cannot be opened. -/
  | notFound (path : File.Path) (cause : File.Error)
  /-- An input file holds something else than it should. -/
  | dataFormat (path : File.Path) (fault : DataFault)
  /-- An entry of a configuration does not describe a slide. -/
  | validation (index : Nat) (kind : String) (fault : Slide.Fault)
  | unknownKind (name : String)
  | invalidArgument (fault : ArgumentFault)
  /-- An output file cannot be written. -/
  | artifactWrite (path : File.Path) (fault : WriteFault)
  /-- A slide fails while the deck is rendered. -/
  | render (index : Nat) (kind : String) (cause : Error)
  | backend (fault : BackendFault)

namespace Error

/-- The wording of an error. -/
def message : Error → String
  | .notFound path cause => "Failed to open " ++ path.text ++ ": " ++ cause.message
  | .dataFormat path fault => "Malformed data in " ++ path.text ++ ": " ++ fault.message
  | .validation index kind fault =>
    "Invalid slide " ++ toString index ++ " (" ++ kind ++ "): " ++ fault.message
  | .unknownKind name => "Unknown slide kind '" ++ name ++ "'"
  | .invalidArgument fault => "Invalid argument: " ++ fault.message
  | .artifactWrite path fault => "Failed to write " ++ path.text ++ ": " ++ fault.message
  | .render index kind cause =>
    "Slide " ++ toString index ++ " (" ++ kind ++ ") failed to render: " ++ cause.message
  | .backend fault => "Backend error: " ++ fault.message

/-- The error behind a fault of an entry: a kind that is a string but none of the known ones. -/
def ofSlideFault? : Slide.Fault → Option Error
  | .unrecognizedKind name => some (.unknownKind name)
  | _ => none

/-- The wordings of an error and of all causes behind it, outermost first. -/
def chain : Error → List String
  | .notFound path cause => [message (.notFound path cause), cause.message]
  | .validation index kind fault =>
    message (.validation index kind fault) :: (ofSlideFault? fault).toList.map message
  | .render index kind cause => message (.render index kind cause) :: chain cause
  | error => [message error]

end Error

/-- The kind that a name stands for, or the error that there is none. -/
def Slide.Kind.ofName (name : String) : Except Error Slide.Kind :=
  match ofName? name with
  | some kind => .ok kind
  | none => .error (.unknownKind name)

/-- The layout for slides of the kind that a name stands for. -/
def Layout.ofKindName (name : String) : Except Error Layout :=
  (Slide.Kind.ofName name).map Slide.Kind.layout

end SlideDeck
