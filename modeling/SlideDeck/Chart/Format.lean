import SlideDeck.Chart.Drawing
import SlideDeck.File.Path
import SlideDeck.Json.Basic
import SlideDeck.Text.Lowercase

/-!
# Image formats of charts

A chart is stored as SVG or PNG. The format is named by the extension of the file, in any case.
-/

namespace SlideDeck.Chart.Format

/-- The extension of files in a format. -/
def extension : Format → String
  | .svg => "svg"
  | .png => "png"

/-- The format with a lowercase name. -/
def ofLowercase? (name : List Char) : Option Format :=
  if name = "svg".toList then some .svg
  else if name = "png".toList then some .png
  else none

/-- The format with a name, in any case, or the lowercase name if there is none. -/
def ofName (name : String) : Except String Format :=
  let lower := Text.lowercase name.toList
  match ofLowercase? lower with
  | some format => .ok format
  | none => .error (String.ofList lower)

/-- The format that the extension of a path names. -/
def ofPath? (path : File.Path) : Option Format :=
  path.extension?.bind fun extension => ofLowercase? (Text.lowercase extension)

/-- The format with a name in lowercase; an object may name it by its only key, with the value null. -/
def ofJson? : Json → Option Format
  | .string name => ofLowercase? name.toList
  | .object [(name, .null)] => ofLowercase? name.toList
  | _ => none

/-- A format is found by its own extension. -/
theorem ofLowercase?_extension (format : Format) :
    ofLowercase? format.extension.toList = some format := by
  cases format <;> rfl

end SlideDeck.Chart.Format
