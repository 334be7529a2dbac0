import SlideDeck.File.Path

/-!
# Slides

A slide has a title and a content, and the kind of a slide is the kind of its content. Each kind is
drawn on one of the layouts of the template, which `Kind.layout` names by its number.
-/

namespace SlideDeck

/-- The kind of a slide. -/
inductive Slide.Kind where
  | title
  | text
  | list
  | picture
  | plot
deriving Repr, DecidableEq

namespace Slide.Kind

/-- All kinds. -/
def all : List Kind := [.title, .text, .list, .picture, .plot]

/-- The name of a kind in a configuration. -/
def name : Kind → String
  | .title => "title"
  | .text => "text"
  | .list => "list"
  | .picture => "picture"
  | .plot => "plot"

/-- The kind with a name. -/
def ofName? (name : String) : Option Kind := all.find? (·.name == name)

/-- A kind is found by its name. -/
theorem ofName?_name (kind : Kind) : ofName? kind.name = some kind := by
  cases kind <;> decide

end Slide.Kind

/-- The number of a layout of a template, from zero. -/
structure Layout where
  index : Nat
deriving Repr, DecidableEq

namespace Layout

/-- The layout for the title slide. -/
def title : Layout := ⟨0⟩

/-- The layout with a title and a placeholder for content. -/
def titleAndContent : Layout := ⟨1⟩

/-- The layout with a title and free space below. -/
def titleOnly : Layout := ⟨5⟩

end Layout

/-- The layout that slides of a kind are drawn on. -/
def Slide.Kind.layout : Slide.Kind → Layout
  | .title => .title
  | .list => .titleAndContent
  | .text | .picture | .plot => .titleOnly

/-- An entry of a list, at a level of indentation. -/
structure ListItem where
  level : UInt32
  text : String
deriving Repr, DecidableEq

/-- The descriptions of the axes of a plot. -/
structure AxisLabels where
  x : String
  y : String
deriving Repr, DecidableEq

/-- What a slide shows below its title. -/
inductive Slide.Content where
  | title (subtitle : String)
  | text (body : String)
  | list (items : List ListItem)
  | picture (path : File.Path)
  | plot (source : File.Path) (labels : AxisLabels)
deriving Repr, DecidableEq

/-- The kind of slide that shows a content. -/
def Slide.Content.kind : Slide.Content → Slide.Kind
  | .title _ => .title
  | .text _ => .text
  | .list _ => .list
  | .picture _ => .picture
  | .plot .. => .plot

/-- A slide as it is described. -/
structure Slide where
  title : String
  content : Slide.Content
deriving Repr, DecidableEq

/-- The kind of a slide. -/
def Slide.kind (slide : Slide) : Slide.Kind := slide.content.kind

end SlideDeck
