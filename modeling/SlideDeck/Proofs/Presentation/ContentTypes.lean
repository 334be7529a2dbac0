import SlideDeck.Presentation.Deck
import SlideDeck.Proofs.Text.Search
import SlideDeck.Proofs.Xml.Starts

/-!
# Lists of content types

The content types of a package are a document with a list of entries. Inserting text at its end gives the
document with the longer list (`appendTypes_document`), and the extensions and parts that it names are
read back (`extensions_typesNode`, `parts_typesNode`).
-/

namespace SlideDeck

open Xml (Node Start document allChars)

/-- What the content types say: the type of parts with an extension or that of one part. -/
inductive TypeEntry where
  | default (extension type : String)
  | override (part type : String)
deriving DecidableEq

namespace TypeEntry

/-- The element of an entry. -/
def node : TypeEntry → Node
  | .default extension type => .empty "Default" [⟨"Extension", extension⟩, ⟨"ContentType", type⟩]
  | .override part type => .empty "Override" [⟨"PartName", "/" ++ part⟩, ⟨"ContentType", type⟩]

/-- The start tag of an entry. -/
def start : TypeEntry → Start
  | .default extension type => ("Default", [⟨"Extension", extension⟩, ⟨"ContentType", type⟩])
  | .override part type => ("Override", [⟨"PartName", "/" ++ part⟩, ⟨"ContentType", type⟩])

/-- The extension that an entry is for. -/
def extension? : TypeEntry → Option String
  | .default extension _ => some extension
  | .override _ _ => none

/-- The part that an entry is for. -/
def part? : TypeEntry → Option String
  | .default _ _ => none
  | .override part _ => some part

/-- Whether the texts of an entry are written as they are. -/
def IsVerbatim : TypeEntry → Prop
  | .default extension type => Xml.IsVerbatim extension ∧ Xml.IsVerbatim type
  | .override part type => Xml.IsVerbatim part ∧ Xml.IsVerbatim type

instance (entry : TypeEntry) : Decidable entry.IsVerbatim :=
  match entry with
  | .default extension type => inferInstanceAs (Decidable (Xml.IsVerbatim extension ∧ Xml.IsVerbatim type))
  | .override part type => inferInstanceAs (Decidable (Xml.IsVerbatim part ∧ Xml.IsVerbatim type))

end TypeEntry

/-- The content types with these entries. -/
def typesNode (entries : List TypeEntry) : Node :=
  .element "Types" [⟨"xmlns", "http://schemas.openxmlformats.org/package/2006/content-types"⟩]
    (entries.map TypeEntry.node)

/-- The entries of the built-in content types. -/
def builtinTypes : List TypeEntry :=
  [.default "rels" "application/vnd.openxmlformats-package.relationships+xml",
   .default "xml" "application/xml"] ++
  Builtin.ownTypes.map fun (part, type) => .override part type

theorem contentTypesXml_eq : Builtin.contentTypesXml = document (typesNode builtinTypes) := rfl

/-- The text of the content types with these entries up to the end tag of their root. -/
def openTypes (entries : List TypeEntry) : List Char :=
  Xml.declaration.toList ++ '<' :: (Xml.openingChars "Types"
    [⟨"xmlns", "http://schemas.openxmlformats.org/package/2006/content-types"⟩] ++
      '>' :: allChars (entries.map TypeEntry.node))

/-- The list of content types ends in its end tag. -/
theorem toList_typesNode (entries : List TypeEntry) :
    (document (typesNode entries)).toList = openTypes entries ++ Presentation.typesEnd := by
  have hend : '<' :: '/' :: ("Types".toList ++ ['>']) = Presentation.typesEnd := by decide
  rw [document, String.toList_ofList, typesNode, Node.chars, hend, openTypes]
  simp only [List.append_assoc, List.cons_append]

/-- So it is cut there, with nothing behind. -/
theorem cutLast_typesNode (entries : List TypeEntry) :
    Text.cutLast Presentation.typesEnd (document (typesNode entries)).toList
      = some (openTypes entries, []) := by
  rw [toList_typesNode, Text.cutLast_append_self (by decide)]

/-- Inserting the elements of further entries gives the content types with these entries. -/
theorem appendTypes_document (entries added : List TypeEntry) :
    Presentation.appendTypes (document (typesNode entries)).toList
      (allChars (added.map TypeEntry.node)) = .ok (document (typesNode (entries ++ added))).toList := by
  rw [Presentation.appendTypes, cutLast_typesNode, toList_typesNode, openTypes, openTypes, List.map_append,
    Xml.allChars_append]
  simp only [List.append_assoc, List.cons_append, List.append_nil]

/-! ## Reading the entries back -/

/-- An entry whose values need no escaping can be read again. -/
theorem TypeEntry.isPlain_node {entry : TypeEntry} (h : entry.IsVerbatim) :
    entry.node.isPlain = true := by
  cases entry with
  | default extension type =>
    have hattributes : Xml.arePlain [⟨"Extension", extension⟩, ⟨"ContentType", type⟩] = true := by
      refine Xml.arePlain_of_names ["Extension", "ContentType"] (by decide) rfl ?_
      exact List.forall_mem_cons.2
        ⟨h.1.not_mem (by simp), List.forall_mem_singleton.2 (h.2.not_mem (by simp))⟩
    rw [node, Node.isPlain, hattributes]
    decide
  | override part type =>
    have hpart : Xml.IsVerbatim ("/" ++ part) := .append (by decide) h.1
    have hattributes : Xml.arePlain [⟨"PartName", "/" ++ part⟩, ⟨"ContentType", type⟩] = true := by
      refine Xml.arePlain_of_names ["PartName", "ContentType"] (by decide) rfl ?_
      exact List.forall_mem_cons.2
        ⟨hpart.not_mem (by simp), List.forall_mem_singleton.2 (h.2.not_mem (by simp))⟩
    rw [node, Node.isPlain, hattributes]
    decide

/-- The extensions that count as known are those with a default, in lowercase. -/
theorem knownExtensions_of_complete {types : String} (h : (Xml.scan types).complete = true) :
    Presentation.knownExtensions types
      = .ok ((((Xml.scan types).elements.filter (·.isNamed "Default")).filterMap
          (·.attribute? "Extension")).map fun extension =>
            String.ofList (Text.lowercase extension.toList)) := by
  rw [Presentation.knownExtensions, h, if_pos rfl, List.map_filterMap]

section Reading

variable {entries : List TypeEntry} (h : ∀ entry ∈ entries, entry.IsVerbatim)

include h

/-- All entries can be read again. -/
theorem allPlain_typeEntries : Xml.allPlain (entries.map TypeEntry.node) = true := by
  rw [Xml.allPlain_eq_true_iff]
  intro node hnode
  obtain ⟨entry, hentry, rfl⟩ := List.mem_map.1 hnode
  exact TypeEntry.isPlain_node (h entry hentry)

/-- So the list of them can. -/
theorem isPlain_typesNode : (typesNode entries).isPlain = true := by
  rw [typesNode, Node.isPlain, allPlain_typeEntries h]
  decide

/-- What is read from the entries of one kind. -/
theorem filterMap_typesNode {α : Type} (kind : String) (hkind : Start.isNamed kind ("Types", []) = false)
    {read : Xml.Element → Option α} {found : Start → Option α}
    (hread : ∀ start : Start, Xml.arePlain start.2 = true → read start.read = found start)
    (held : TypeEntry → Option α)
    (hheld : ∀ entry ∈ entries,
      (if entry.start.isNamed kind then found entry.start else none) = held entry) :
    ((Xml.scan (document (typesNode entries))).elements.filter (·.isNamed kind)).filterMap read
      = entries.filterMap held := by
  have hstarts : Xml.allStarts (entries.map TypeEntry.node) = entries.map TypeEntry.start := by
    rw [Xml.allStarts_map, List.map_eq_flatMap]
    refine List.flatMap_congr fun entry _ => ?_
    cases entry <;> rfl
  have hroot : Start.isNamed kind
      ("Types", [⟨"xmlns", "http://schemas.openxmlformats.org/package/2006/content-types"⟩]) = false :=
    hkind
  rw [Xml.filterMap_elements (isPlain_typesNode h) kind hread, typesNode, Node.starts, hstarts,
    List.filter_cons_of_neg (by rw [hroot]; exact Bool.false_ne_true), List.filterMap_filter,
    List.filterMap_map]
  exact List.filterMap_congr hheld

/-- The extensions with a type of their own are read back. -/
theorem extensions_typesNode :
    ((Xml.scan (document (typesNode entries))).elements.filter (·.isNamed "Default")).filterMap
      (·.attribute? "Extension") = entries.filterMap TypeEntry.extension? := by
  refine filterMap_typesNode h "Default" (by decide)
    (fun start hstart => Xml.attribute?_read hstart "Extension") _ fun entry hentry => ?_
  have hverbatim := h entry hentry
  have hsame : Start.isNamed "Default" ("Default", []) = true := by decide
  have hother : ¬ Start.isNamed "Default" ("Override", []) = true := by decide
  cases entry with
  | default extension type => exact (if_pos hsame).trans hverbatim.1.unescape?
  | override part type => exact if_neg hother

/-- The parts with a type of their own are read back, each with a slash at its start. -/
theorem parts_typesNode :
    ((Xml.scan (document (typesNode entries))).elements.filter (·.isNamed "Override")).filterMap
      (·.attribute? "PartName") = entries.filterMap fun entry => entry.part?.map ("/" ++ ·) := by
  refine filterMap_typesNode h "Override" (by decide)
    (fun start hstart => Xml.attribute?_read hstart "PartName") _ fun entry hentry => ?_
  have hverbatim := h entry hentry
  have hsame : Start.isNamed "Override" ("Override", []) = true := by decide
  have hother : ¬ Start.isNamed "Override" ("Default", []) = true := by decide
  cases entry with
  | default extension type => exact if_neg hother
  | override part type =>
    have hpart : Xml.IsVerbatim ("/" ++ part) := .append (by decide) hverbatim.1
    exact (if_pos hsame).trans hpart.unescape?

/-- The extensions that count as known. -/
theorem knownExtensions_typesNode :
    Presentation.knownExtensions (document (typesNode entries))
      = .ok ((entries.filterMap TypeEntry.extension?).map fun extension =>
          String.ofList (Text.lowercase extension.toList)) := by
  have hcomplete : (Xml.scan (document (typesNode entries))).complete = true := by
    rw [Xml.scan_document_starts (isPlain_typesNode h)]
  rw [knownExtensions_of_complete hcomplete, extensions_typesNode h]

end Reading

end SlideDeck
