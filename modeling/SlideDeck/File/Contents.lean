import SlideDeck.Archive.Unzip
import SlideDeck.Chart.Drawing

/-!
# The contents of a file

A file holds bytes, but what the library tells apart is more than bytes and less: text, archives with
their entries, and the images that it draws itself. Bytes that are valid UTF-8 are always held as
text, so that equal contents are equal values.
-/

namespace SlideDeck.File

/-- The contents of a file or of an entry of an archive. -/
inductive Contents where
  /-- Valid UTF-8. -/
  | text (content : String)
  /-- Bytes that are not valid UTF-8. -/
  | binary (bytes : ByteArray)
  /-- A ZIP archive with these entries in this order. -/
  | archive (entries : List (String × Contents))
  /-- An image of a line chart. -/
  | chart (drawing : Chart.Drawing)
  /-- A fully transparent PNG image. -/
  | transparentPng (width height : Nat)
deriving BEq

namespace Contents

instance : Inhabited Contents := ⟨.text ""⟩

/-- The contents with these bytes. -/
def ofBytes (bytes : ByteArray) : Contents :=
  match String.fromUTF8? bytes with
  | some content => .text content
  | none => .binary bytes

/-- The text of an archive without entries, which is its last record alone: a mark and zeros. -/
def emptyArchive : String :=
  String.ofList (['P', 'K', Char.ofNat 5, Char.ofNat 6] ++ List.replicate 18 (Char.ofNat 0))

/-- The contents as text, if they are valid UTF-8. An archive with entries never is: it marks each
entry as a regular file by a byte that no UTF-8 text has at that place. -/
def utf8? : Contents → Option String
  | .text content => some content
  | .chart drawing =>
    match drawing.format with
    | .svg => some drawing.svg
    | .png => none
  | .archive [] => some emptyArchive
  | .archive (_ :: _) | .binary _ | .transparentPng .. => none

/-- The entries of the archive that bytes are. -/
def entriesOf (bytes : ByteArray) : Except Archive.Fault (List (String × Contents)) :=
  (Archive.decode bytes).map fun entries =>
    entries.map fun entry => (entry.name, ofBytes entry.content)

/-- The entries of an archive. -/
def entries : Contents → Except Archive.Fault (List (String × Contents))
  | .archive entries => .ok entries
  | .text content => entriesOf content.toUTF8
  | .binary bytes => entriesOf bytes
  | .chart _ | .transparentPng .. => .error .notAnArchive

/-- The bytes of text and of plain bytes. -/
def bytes? : Contents → Option ByteArray
  | .text content => some content.toUTF8
  | .binary bytes => some bytes
  | _ => none

end Contents

end SlideDeck.File
