import SlideDeck.CommandLine.Arguments
import SlideDeck.Render

/-!
# Running a command line

`run` does what a command line asks for: it writes the deck that a configuration describes, or says why
it cannot. The status of the program tells the kind of failure, and what the program says tells the rest.
-/

namespace SlideDeck.CommandLine

/-! ## Failures -/

/-- A failure of the program: what it was about, if that is to be told, and the error. -/
structure Failure where
  context : Option String
  error : Error

namespace Failure

/-- The status that the program ends with. -/
def status (failure : Failure) : Nat :=
  match failure.error with
  | .notFound .. => 2
  | .dataFormat .. => 3
  | .validation .. | .unknownKind _ => 4
  | .invalidArgument _ => 5
  | .artifactWrite .. => 6
  | .render .. => 7
  | .backend _ => 1

/-- The wording of a failure, with all causes. -/
def message (failure : Failure) : String :=
  "error: " ++ ": ".intercalate (failure.context.toList ++ failure.error.chain)

end Failure

/-- A result whose error is given a context. -/
def inContext {α : Type} (context : String) : Except Error α → Except Failure α
  | .ok value => .ok value
  | .error error => .error ⟨some context, error⟩

/-! ## Generating a deck -/

/-- Fails if the deck would not be stored as a presentation. -/
def checkOutput (output : File.Path) : Except Failure Unit :=
  if Deck.isPptx output then .ok ()
  else .error ⟨none, .invalidArgument (.outputNotPptx output)⟩

/-- The deck to start from. -/
def startingDeck (arguments : Arguments) (files : File.Tree) : Except Failure Deck :=
  match arguments.template with
  | some path =>
    inContext ("Failed to load template " ++ path.text) (Deck.openTemplate files path)
  | none =>
    match Deck.builtin with
    | .ok deck => .ok deck
    | .error error => .error ⟨none, error⟩

/-- The options for rendering. -/
def Arguments.options (arguments : Arguments) : Render.Options :=
  ⟨arguments.output, arguments.chartFolder, arguments.chartFormat⟩

/-- The file system with the deck that is asked for, and the number of its slides. -/
def generate (arguments : Arguments) (files : File.Tree) : Except Failure Nat × File.Tree :=
  match checkOutput arguments.output with
  | .error failure => (.error failure, files)
  | .ok () =>
    match startingDeck arguments files with
    | .error failure => (.error failure, files)
    | .ok deck =>
      let (result, session) :=
        Render.generate (Render.presentationBackend .standard) arguments.options
          arguments.configuration ⟨deck, files⟩
      (inContext ("Failed to generate deck from " ++ arguments.configuration.text)
        (result.map fun () => session.backend.added.length), session.files)

/-! ## The program -/

/-- The name of the program. -/
def programName : String := "slidegen"

/-- The version of the program. -/
def programVersion : String := "0.1.0"

/-- The help text, line by line. -/
def helpText : List String :=
  ["CLI tool for generating PowerPoint decks from JSON slide descriptions",
   "",
   "Usage: " ++ programName ++ " [OPTIONS] <CONFIG>",
   "",
   "Arguments:",
   "  <CONFIG>  JSON configuration with a top-level \"presentation\" array",
   "",
   "Options:",
   "  -o, --output <OUTPUT>              Output deck (.pptx) [default: presentation.pptx]",
   "  -t, --template <TEMPLATE>          Template deck (.pptx or .potx) providing layouts and styling",
   "      --chart-dir <CHART_DIR>        Keep generated plot images in this directory",
   "      --chart-format <CHART_FORMAT>  Image format for generated plots (svg or png) [default: svg]",
   "  -v, --verbose                      Verbose output",
   "  -h, --help                         Print help",
   "  -V, --version                      Print version"]

/-- The status after words that make no sense. -/
def usageStatus : Nat := 2

/-- What a run of the program comes to. -/
structure Outcome where
  status : Nat
  /-- The lines on the standard output. -/
  output : List String
  /-- The texts on the standard error output, each with its line end left out. -/
  messages : List String
deriving Repr, DecidableEq

/-- The outcome of reading a command line that asks for no deck. -/
def Stop.outcome : Stop → Outcome
  | .help => ⟨0, helpText, []⟩
  | .version => ⟨0, [programName ++ " " ++ programVersion], []⟩
  | .usage fault => ⟨usageStatus, [], ["error: " ++ fault.message]⟩

/-- The outcome of generating a deck. -/
def outcome (arguments : Arguments) : Except Failure Nat → Outcome
  | .error failure => ⟨failure.status, [], [failure.message]⟩
  | .ok count =>
    ⟨0, [],
      if arguments.verbose then
        ["Written " ++ toString count ++ " slides to " ++ arguments.output.text]
      else []⟩

/-- The outcome of a command line, and the file system after it. -/
def run (words : List String) (files : File.Tree) : Outcome × File.Tree :=
  match Arguments.ofWords words with
  | .error stop => (stop.outcome, files)
  | .ok arguments =>
    let (result, files) := generate arguments files
    (outcome arguments result, files)

end SlideDeck.CommandLine
