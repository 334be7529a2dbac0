import SlideDeck.Package.Basic

/-!
# Faults of presentation packages

Why a package cannot serve as a template, and why slides cannot be entered into one.
-/

namespace SlideDeck.Presentation

/-- Why a package is no template. -/
inductive TemplateFault where
  | package (fault : PackageFault)
  | markup (fault : MarkupFault)
  | noPresentation
  | noSlideMaster
  | layoutMissing (id : String)
  | noLayouts (master : String)
deriving Repr, DecidableEq

/-- The wording of a fault. -/
def TemplateFault.message : TemplateFault → String
  | .package fault => fault.message
  | .markup fault => fault.message
  | .noPresentation => "No presentation part in package"
  | .noSlideMaster => "No slide master in package"
  | .layoutMissing id => "Slide master references missing layout '" ++ id ++ "'"
  | .noLayouts master => "Slide master '" ++ master ++ "' has no layouts"

/-- Why slides cannot be entered into a package. -/
inductive EntryFault where
  | package (fault : PackageFault)
  | markup (fault : MarkupFault)
  | noMasterList
  | noEndOfTypes
deriving Repr, DecidableEq

/-- The wording of a fault. -/
def EntryFault.message : EntryFault → String
  | .package fault => fault.message
  | .markup fault => fault.message
  | .noMasterList => "presentation.xml has no slide master list"
  | .noEndOfTypes => "Malformed [Content_Types].xml"

end SlideDeck.Presentation
