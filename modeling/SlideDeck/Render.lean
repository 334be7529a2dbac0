import SlideDeck.Chart.Plot
import SlideDeck.Configuration
import SlideDeck.Presentation.Deck
import SlideDeck.Series.File

/-!
# Rendering slides

Slides are rendered by calls of a back end, which draws charts and builds the deck. `render` says
which calls a list of slides takes: each slide in turn is one call, a plot two, and the deck is
finished by a last call. The first call that fails ends it all. A back end is any function that
answers calls and may change its own state and the file system.
-/

namespace SlideDeck.Render

/-! ## Back ends -/

/-- A call of a back end. -/
inductive Call where
  /-- Draws a line chart into a file. -/
  | plot (xs ys : List Float) (legend : Chart.Legend) (output : File.Path)
  | addTitle (layout : Layout) (title subtitle : String)
  | addText (layout : Layout) (title body : String)
  /-- Adds a list, by the levels and the texts of its items. -/
  | addList (layout : Layout) (title : String) (levels : List UInt32) (texts : List String)
  | addImage (layout : Layout) (title : String) (image : File.Path)
  /-- Writes the deck to a file. -/
  | finalize (output : File.Path)

/-- The state of a run: that of the back end and the file system. -/
structure Session (σ : Type) where
  backend : σ
  files : File.Tree

/-- An action that may fail and may change the state of the run either way. -/
abbrev Act (σ α : Type) := ExceptT Error (StateM (Session σ)) α

/-- A back end: how it answers calls. -/
abbrev Backend (σ : Type) := Call → Act σ Unit

/-- An action on the file system alone. -/
def onFiles {σ α : Type} (action : File.Tree → Except Error α × File.Tree) : Act σ α :=
  fun session =>
    let (result, files) := action session.files
    (result, { session with files })

/-- A value that depends on the file system alone. -/
def fromFiles {σ α : Type} (value : File.Tree → Except Error α) : Act σ α :=
  fun session => (value session.files, session)

/-- The back end that draws charts of a size and builds a presentation. -/
def presentationBackend (size : Chart.Size) : Backend Deck := fun call session =>
  let replace : Except Error Deck → Except Error Unit × Session Deck
    | .ok deck => (.ok (), { session with backend := deck })
    | .error error => (.error error, session)
  match call with
  | .plot xs ys legend output => onFiles (Chart.plot size xs ys legend output) session
  | .addTitle layout title subtitle => replace (session.backend.addTitle layout title subtitle)
  | .addText layout title body => replace (session.backend.addText layout title body)
  | .addList layout title levels texts =>
    replace (session.backend.addList layout title levels texts)
  | .addImage layout title image =>
    replace (session.backend.addImage session.files layout title image)
  | .finalize output =>
    let (result, deck, files) := session.backend.finalize session.files output
    (result, ⟨deck, files⟩)

/-- A back end that also keeps the list of the calls made, the oldest first. -/
def Backend.traced {σ : Type} (backend : Backend σ) : Backend (List Call × σ) :=
  fun call ⟨(calls, state), files⟩ =>
    let (result, session) := backend call ⟨state, files⟩
    (result, ⟨(calls ++ [call], session.backend), session.files⟩)

/-! ## Plots -/

/-- The settings of a run. -/
structure Options where
  /-- Where the deck is written. -/
  output : File.Path
  /-- Where the images of plots are kept; none for a folder that is removed after the run. -/
  chartFolder : Option File.Path
  chartFormat : Chart.Format
deriving Repr, DecidableEq

/-- The options with everything but the output left to choice. -/
def Options.ofOutput (output : File.Path) : Options := ⟨output, none, .svg⟩

/-- A number with zeros before it, up to three digits. -/
def threeDigits (n : Nat) : String :=
  let digits := (toString n).toList
  String.ofList (List.replicate (3 - digits.length) '0' ++ digits)

/-- The image of the plot with an index. -/
def imagePath (folder : File.Path) (format : Chart.Format) (index : Nat) : File.Path :=
  folder.child ("plot-" ++ threeDigits index ++ "." ++ format.extension)

/-- Fails if a label of an axis is blank. -/
def checkLabels (labels : AxisLabels) : Except Error Unit :=
  if Text.allBlank labels.x.toList then .error (.invalidArgument .emptyXLabel)
  else if Text.allBlank labels.y.toList then .error (.invalidArgument .emptyYLabel)
  else .ok ()

/-- Draws the series in a file into an image. -/
def plotSource {σ : Type} (backend : Backend σ) (source : File.Path) (legend : Chart.Legend)
    (output : File.Path) : Act σ Unit := do
  fromFiles fun _ => checkLabels legend.labels
  let series ← fromFiles (Series.load · source)
  backend (.plot series.x series.y legend output)

/-! ## Slides -/

/-- Renders a slide, whose plot goes into the given image. -/
def renderContent {σ : Type} (backend : Backend σ) (image : File.Path) (slide : Slide) :
    Act σ Unit :=
  let layout := slide.kind.layout
  match slide.content with
  | .title subtitle => backend (.addTitle layout slide.title subtitle)
  | .text body => backend (.addText layout slide.title body)
  | .list items =>
    backend (.addList layout slide.title (items.map (·.level)) (items.map (·.text)))
  | .picture path => backend (.addImage layout slide.title path)
  | .plot source labels => do
    plotSource backend source ⟨labels, slide.title⟩ image
    backend (.addImage layout slide.title image)

/-- An action whose errors are replaced. -/
def mapError {σ α : Type} (f : Error → Error) (action : Act σ α) : Act σ α := fun session =>
  match action session with
  | (.error error, session) => (.error (f error), session)
  | result => result

/-- Renders slides, the first of which has the given index. -/
def renderFrom {σ : Type} (backend : Backend σ) (image : Nat → File.Path) (index : Nat) :
    List Slide → Act σ Unit
  | [] => pure ()
  | slide :: rest => do
    mapError (.render index slide.kind.name) (renderContent backend (image index) slide)
    renderFrom backend image (index + 1) rest

/-- The error that the deck cannot be written, with the cause that the back end gives. -/
def writeError (output : File.Path) : Error → Error
  | .artifactWrite path fault => .artifactWrite path fault
  | error => .artifactWrite output (.reported error.message)

/-- Renders slides and finishes the deck. -/
def renderAll {σ : Type} (backend : Backend σ) (options : Options) (folder : File.Path)
    (slides : List Slide) : Act σ Unit := do
  renderFrom backend (imagePath folder options.chartFormat) 0 slides
  mapError (writeError options.output) (backend (.finalize options.output))

/-- An action within a new folder for temporary files, which is removed in the end. -/
def withScratch {σ : Type} (action : File.Path → Act σ Unit) : Act σ Unit := fun session =>
  match session.files.makeScratch "slidegen-charts-" with
  | .error cause =>
    (.error (.artifactWrite session.files.temporary (.file cause)), session)
  | .ok (address, path, files) =>
    let (result, session) := action path { session with files }
    (result, { session with files := session.files.removeFolder address })

/-- The folder and all folders above it, as far as they are not there. -/
def makeChartFolder (folder : File.Path) (files : File.Tree) : Except Error Unit × File.Tree :=
  match files.makeFolders folder with
  | (.ok (), made) => (.ok (), made)
  | (.error cause, made) => (.error (.artifactWrite folder (.file cause)), made)

/-- Whether a slide is a plot. -/
def isPlot (slide : Slide) : Bool := slide.kind == .plot

/-- Renders slides that are valid, and finishes the deck. The folder for images of plots is made
before anything else. -/
def render {σ : Type} (backend : Backend σ) (options : Options) (slides : List Slide) :
    Act σ Unit :=
  match options.chartFolder with
  | some folder => do
    onFiles (makeChartFolder folder)
    renderAll backend options folder slides
  | none =>
    if slides.any isPlot then withScratch fun folder => renderAll backend options folder slides
    else renderAll backend options ⟨""⟩ slides

/-- Renders the slides of the configuration in a file. -/
def generate {σ : Type} (backend : Backend σ) (options : Options) (configuration : File.Path) :
    Act σ Unit := do
  let slides ← fromFiles (Configuration.load · configuration)
  render backend options slides

end SlideDeck.Render
