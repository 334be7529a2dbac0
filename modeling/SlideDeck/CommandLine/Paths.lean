import SlideDeck.CommandLine.Arguments
import SlideDeck.Configuration
import SlideDeck.Render

/-!
# The paths of a run

A run looks only at the paths that its arguments and its configuration name, so these are what has to
be known of the file system before it.
-/

namespace SlideDeck.CommandLine

/-- The paths that a slide names, and those of the image that is made for it. -/
def slidePaths (arguments : Arguments) (index : Nat) (slide : Slide) : List File.Path :=
  match slide.content with
  | .picture path => [path]
  | .plot source _ =>
    source :: (arguments.chartFolder.toList.map fun folder =>
      Render.imagePath folder arguments.chartFormat index)
  | .title _ | .text _ | .list _ => []

/-- The paths that the arguments name. -/
def Arguments.paths (arguments : Arguments) : List File.Path :=
  [arguments.configuration, arguments.output] ++ arguments.template.toList ++
    arguments.chartFolder.toList

/-- The paths that the configuration names, if it can be read. -/
def configuredPaths (arguments : Arguments) (files : File.Tree) : List File.Path :=
  match Configuration.load files arguments.configuration with
  | .error _ => []
  | .ok slides =>
    (slides.zipIdx.map fun (slide, index) => slidePaths arguments index slide).flatten

end SlideDeck.CommandLine
