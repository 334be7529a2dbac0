import SlideDeck.Proofs.Presentation.Integrity
import SlideDeck.Proofs.Text.Lowercase
import SlideDeck.Proofs.Xml.Insertion

/-!
# Entries for slides in content types

Entering slides adds entries for the formats of their media and for the slides themselves. If content types
can be read and end with the end tag of their root, the entries are found behind all that were there
(`EndsWithRoot.scan_append`). Those for formats are read back as they are. The name of a slide is written
without escaping and is read back as what its text stands for (`parts_slideTypes`), which is the name itself
if it has no ampersand.
-/

namespace SlideDeck

open Xml (Node Start allChars)

/-! ## Values without entities -/

namespace Xml

/-- Without entities, unescaping changes nothing. -/
theorem unescape?_of_not_mem {text : List Char} (h : '&' ∉ text) : unescape? text = some text := by
  rw [unescape?]
  induction text with
  | nil => rfl
  | cons c text ih =>
    rw [List.mem_cons, not_or] at h
    rw [unescapeFrom?]
    simp only [if_neg (Ne.symm h.1), ih h.2, Option.map_some]

/-- What entities stand for is no longer than the text. -/
theorem length_unescapeFrom?_le {name : Option (List Char)} {text read : List Char}
    (h : unescapeFrom? name text = some read) : read.length ≤ text.length := by
  induction text generalizing name read with
  | nil =>
    cases name with
    | none => simp_all [unescapeFrom?]
    | some begun => cases h
  | cons c text ih =>
    cases name with
    | none =>
      rw [unescapeFrom?] at h
      split at h
      · exact Nat.le_succ_of_le (ih h)
      · obtain ⟨rest, hrest, rfl⟩ := Option.map_eq_some_iff.1 h
        exact Nat.succ_le_succ (ih hrest)
    | some begun =>
      rw [unescapeFrom?] at h
      split at h
      · obtain ⟨found, -, h⟩ := Option.bind_eq_some_iff.1 h
        obtain ⟨rest, hrest, h⟩ := Option.bind_eq_some_iff.1 h
        cases h
        exact Nat.succ_le_succ (ih hrest)
      · split at h
        · cases h
        · exact Nat.le_succ_of_le (ih h)

/-- With an entity, unescaping makes a text shorter. -/
theorem length_unescape?_lt {text read : List Char} (hmem : '&' ∈ text)
    (h : unescape? text = some read) : read.length < text.length := by
  rw [unescape?] at h
  induction text generalizing read with
  | nil => cases hmem
  | cons c text ih =>
    rw [unescapeFrom?] at h
    split at h
    · exact Nat.lt_succ_of_le (length_unescapeFrom?_le h)
    · next hc =>
      obtain ⟨rest, hrest, rfl⟩ := Option.map_eq_some_iff.1 h
      exact Nat.succ_lt_succ (ih ((List.mem_cons.1 hmem).resolve_left (Ne.symm hc)) hrest)

/-- Only a text without ampersands stands for itself. -/
theorem unescape?_eq_self_iff {text : List Char} : unescape? text = some text ↔ '&' ∉ text :=
  ⟨fun h hmem => Nat.lt_irrefl _ (length_unescape?_lt hmem h), unescape?_of_not_mem⟩

end Xml

/-! ## Extensions in any mixture of cases -/

/-- Whether two texts differ at most in the cases of ASCII letters. -/
def Text.EqIgnoringCase (a b : String) : Prop := a.toList.map Char.toLower = b.toList.map Char.toLower

instance (a b : String) : Decidable (Text.EqIgnoringCase a b) :=
  inferInstanceAs (Decidable (a.toList.map Char.toLower = b.toList.map Char.toLower))

/-- How many defaults content types have for an extension. -/
def Package.defaultCount (types extension : String) : Nat :=
  (typedExtensions types).countP (Text.EqIgnoringCase · extension)

/-- Whether content types have a default for an extension. -/
def Package.HasDefault (types extension : String) : Prop :=
  ∃ declared ∈ typedExtensions types, Text.EqIgnoringCase declared extension

/-- An extension without a type is counted as often as it is listed. -/
theorem Package.defaultCount_eq_zero_iff {types extension : String} :
    defaultCount types extension = 0 ↔ ¬ HasDefault types extension := by
  simp [defaultCount, HasDefault, List.countP_eq_zero]

/-- The extension of a format counts as known exactly if there is a default for it. -/
theorem Package.mem_known_iff {types : String} {known : List String}
    (h : Presentation.knownExtensions types = .ok known) (format : Picture.Format) :
    format.extension ∈ known ↔ HasDefault types format.extension := by
  cases hcomplete : (Xml.scan types).complete with
  | false =>
    rw [Presentation.knownExtensions, hcomplete] at h
    cases h
  | true =>
    rw [knownExtensions_of_complete hcomplete] at h
    obtain rfl := Except.ok.inj h
    rw [List.mem_map, HasDefault, typedExtensions]
    refine exists_congr fun declared => and_congr_right fun _ => ?_
    rw [← String.toList_inj, String.toList_ofList, Text.lowercase_eq_iff format.isOutside_extension,
      Text.EqIgnoringCase, format.map_toLower_extension]

/-- Formats have different extensions, in every mixture of cases. -/
theorem Picture.Format.countP_extension_le {formats : List Picture.Format} (h : formats.Nodup)
    (extension : String) : (formats.map (·.extension)).countP (Text.EqIgnoringCase · extension) ≤ 1 := by
  rw [List.countP_map]
  by_cases hsome : ∃ format ∈ formats, Text.EqIgnoringCase format.extension extension
  · obtain ⟨format, -, hformat⟩ := hsome
    refine Nat.le_trans (List.countP_mono_left (q := (· == format)) fun other _ hother => ?_)
      (List.nodup_iff_count.1 h format)
    have hsame := (of_decide_eq_true hother).trans hformat.symm
    rw [other.map_toLower_extension, format.map_toLower_extension, String.toList_inj] at hsame
    exact beq_iff_eq.2 (Picture.Format.extension_injective hsame)
  · refine Nat.le_trans (Nat.le_of_eq (List.countP_eq_zero.2 fun format hformat heq => ?_)) (Nat.zero_le 1)
    exact hsome ⟨format, hformat, of_decide_eq_true heq⟩

/-- New types of different formats are given once each. -/
theorem Package.defaultCount_append {types types' : String} {formats : List Picture.Format}
    (hextensions : typedExtensions types' = typedExtensions types ++ formats.map (·.extension))
    (hnodup : formats.Nodup) (hnew : ∀ format ∈ formats, ¬ HasDefault types format.extension)
    (extension : String) :
    defaultCount types' extension ≤ max 1 (defaultCount types extension) := by
  have hcount := Picture.Format.countP_extension_le hnodup extension
  rw [defaultCount, hextensions, List.countP_append, ← defaultCount]
  rcases Nat.eq_zero_or_pos ((formats.map (·.extension)).countP (Text.EqIgnoringCase · extension))
    with hzero | hpos
  · rw [hzero]
    exact Nat.le_max_right _ _
  · -- an extension that gets a default had none
    obtain ⟨added, hadded, heq⟩ := List.countP_pos_iff.1 hpos
    obtain ⟨format, hformat, rfl⟩ := List.mem_map.1 hadded
    have hnone : defaultCount types extension = 0 := by
      rw [defaultCount_eq_zero_iff]
      rintro ⟨declared, hdeclared, hsame⟩
      exact hnew format hformat ⟨declared, hdeclared, hsame.trans (of_decide_eq_true heq).symm⟩
    omega

namespace Deck

/-! ## The entries -/

/-- The entries for formats and for slides. -/
def slideTypes (formats : List Picture.Format) (made : List Made) : List TypeEntry :=
  (formats.map fun format => .default format.extension format.contentType) ++
    made.map fun m => .override m.part slideType

end Deck

/-! ## Reading the entries back -/

namespace TypeEntry

/-- An entry is written as its tag. -/
theorem node_eq (entry : TypeEntry) : entry.node = entry.start.node := by
  cases entry <;> rfl

/-- Entries are written as their tags. -/
theorem map_node (entries : List TypeEntry) :
    entries.map node = (entries.map start).map Start.node := by
  rw [List.map_map]
  exact List.map_congr_left fun entry _ => entry.node_eq

/-- The extension that a reader finds in an entry. -/
def readExtension? (element : Xml.Element) : Option String :=
  if element.isNamed "Default" then element.attribute? "Extension" else none

/-- The part that a reader finds in an entry. -/
def readPart? (element : Xml.Element) : Option String :=
  if element.isNamed "Override" then element.attribute? "PartName" else none

/-- The type of an image format can be read again. -/
theorem arePlain_default (format : Picture.Format) :
    Xml.arePlain (TypeEntry.default format.extension format.contentType).start.2 = true := by
  cases format <;> decide

/-- The type of a slide can be read again if there is no quote in the name of its part. -/
theorem arePlain_override {part : String} (h : '"' ∉ part.toList) :
    Xml.arePlain (TypeEntry.override part Deck.slideType).start.2 = true := by
  refine Xml.arePlain_of_names ["PartName", "ContentType"] (by decide) rfl ?_
  refine List.forall_mem_cons.2 ⟨?_, List.forall_mem_singleton.2 (by decide)⟩
  rw [String.toList_append, List.mem_append, not_or]
  exact ⟨by decide, h⟩

/-- What an entry is called does not depend on what it says. -/
theorem isNamed_read (name : String) (start : Start) :
    start.read.isNamed name = Start.isNamed name (start.1, []) := rfl

/-- The type of an image format is read with the extension of the format. -/
theorem readExtension?_default (format : Picture.Format) :
    readExtension? (TypeEntry.default format.extension format.contentType).start.read
      = some format.extension := by
  have hnamed : Start.isNamed "Default" ("Default", []) = true := by decide
  rw [readExtension?, isNamed_read, start, if_pos hnamed]
  exact (Xml.attribute?_read (arePlain_default format) "Extension").trans
    (Deck.isVerbatim_extension format).unescape?

/-- The type of a slide is that of no extension. -/
theorem readExtension?_override (part : String) :
    readExtension? (TypeEntry.override part Deck.slideType).start.read = none := by
  have hnamed : ¬ Start.isNamed "Default" ("Override", []) = true := by decide
  rw [readExtension?, isNamed_read, start, if_neg hnamed]

/-- The type of an image format is that of no part. -/
theorem readPart?_default (format : Picture.Format) :
    readPart? (TypeEntry.default format.extension format.contentType).start.read = none := by
  have hnamed : ¬ Start.isNamed "Override" ("Default", []) = true := by decide
  rw [readPart?, isNamed_read, start, if_neg hnamed]

/-- The type of a slide is read with what unescaping makes of the name of its part. -/
theorem readPart?_override {part : String} (h : '"' ∉ part.toList) :
    readPart? (TypeEntry.override part Deck.slideType).start.read
      = (Xml.unescape? ("/" ++ part).toList).map String.ofList := by
  have hnamed : Start.isNamed "Override" ("Override", []) = true := by decide
  rw [readPart?, isNamed_read, start, if_pos hnamed]
  exact Xml.attribute?_read (arePlain_override h) "PartName"

/-- The tag of an entry with plain attributes ends where it should. -/
theorem isPlain_node_start {entry : TypeEntry} (h : Xml.arePlain entry.start.2 = true) :
    entry.start.node.isPlain = true := by
  have hdefault : Xml.isName "Default".toList = true := by decide
  have hoverride : Xml.isName "Override".toList = true := by decide
  cases entry with
  | default extension type => exact Bool.and_eq_true_iff.2 ⟨hdefault, h⟩
  | override part type => exact Bool.and_eq_true_iff.2 ⟨hoverride, h⟩

end TypeEntry

/-- The extensions with types are read from the elements of the list. -/
theorem Package.typedExtensions_eq (types : String) :
    typedExtensions types = (Xml.scan types).elements.filterMap TypeEntry.readExtension? := by
  rw [typedExtensions, List.filterMap_filter]
  rfl

/-- So are the parts with types. -/
theorem Package.typedParts_eq (types : String) :
    typedParts types = (Xml.scan types).elements.filterMap TypeEntry.readPart? := by
  rw [typedParts, List.filterMap_filter]
  rfl

namespace Deck

/-- The attributes of the entries end where they should. -/
theorem allPlain_slideTypes {formats : List Picture.Format} {made : List Made}
    (h : ∀ m ∈ made, '"' ∉ m.part.toList) :
    Xml.allPlain (((slideTypes formats made).map TypeEntry.start).map Start.node) = true := by
  rw [Xml.allPlain_eq_true_iff]
  intro node hnode
  obtain ⟨start, hstart, rfl⟩ := List.mem_map.1 hnode
  obtain ⟨entry, hentry, rfl⟩ := List.mem_map.1 hstart
  rcases List.mem_append.1 hentry with hentry | hentry
  · obtain ⟨format, -, rfl⟩ := List.mem_map.1 hentry
    exact TypeEntry.isPlain_node_start (TypeEntry.arePlain_default format)
  · obtain ⟨m, hm, rfl⟩ := List.mem_map.1 hentry
    exact TypeEntry.isPlain_node_start (TypeEntry.arePlain_override (h m hm))

/-- What is read of the new types is read of the formats and then of the slides. -/
theorem filterMap_slideTypes {α : Type} (read : Xml.Element → Option α) (formats : List Picture.Format)
    (made : List Made) :
    (((slideTypes formats made).map TypeEntry.start).map Start.read).filterMap read
      = (formats.filterMap fun format =>
          read (TypeEntry.default format.extension format.contentType).start.read) ++
        made.filterMap fun m => read (TypeEntry.override m.part slideType).start.read := by
  rw [slideTypes, List.map_append, List.map_append, List.filterMap_append]
  simp only [List.map_map, List.filterMap_map]
  rfl

/-- All entries for formats are read back, and those for slides have no extension. -/
theorem extensions_slideTypes (formats : List Picture.Format) (made : List Made) :
    (((slideTypes formats made).map TypeEntry.start).map Start.read).filterMap TypeEntry.readExtension?
      = formats.map (·.extension) := by
  simp only [filterMap_slideTypes, TypeEntry.readExtension?_default, TypeEntry.readExtension?_override,
    List.filterMap_eq_map', List.filterMap_none, List.append_nil]

/-- The parts with new types are those of the slides, as unescaping makes of them. -/
theorem parts_slideTypes (formats : List Picture.Format) {made : List Made}
    (h : ∀ m ∈ made, '"' ∉ m.part.toList) :
    (((slideTypes formats made).map TypeEntry.start).map Start.read).filterMap TypeEntry.readPart?
      = made.filterMap fun m => (Xml.unescape? ("/" ++ m.part).toList).map String.ofList := by
  simp only [filterMap_slideTypes, TypeEntry.readPart?_default, List.filterMap_none, List.nil_append]
  exact List.filterMap_congr fun m hm => TypeEntry.readPart?_override (h m hm)

/-- Names without ampersands are read back as they were written. -/
theorem filterMap_part_of_not_mem {made : List Made} (h : ∀ m ∈ made, '&' ∉ m.part.toList) :
    (made.filterMap fun m => (Xml.unescape? ("/" ++ m.part).toList).map String.ofList)
      = made.map ("/" ++ ·.part) := by
  rw [← List.filterMap_eq_map]
  refine List.filterMap_congr fun m hm => ?_
  have hslash : '&' ∉ ("/" ++ m.part).toList := by
    rw [String.toList_append, List.mem_append, not_or]
    exact ⟨by decide, h m hm⟩
  rw [Xml.unescape?_of_not_mem hslash, Option.map_some, String.ofList_toList]
  rfl

/-- The name of a slide is not read back if it has an ampersand. -/
theorem not_mem_filterMap_part {m : Made} (h : '&' ∈ m.part.toList) : "/" ++ m.part ∉
    [m].filterMap fun m => (Xml.unescape? ("/" ++ m.part).toList).map String.ofList := by
  intro hmem
  obtain ⟨other, hother, heq⟩ := List.mem_filterMap.1 hmem
  obtain rfl := List.mem_singleton.1 hother
  obtain ⟨read, hread, hsame⟩ := Option.map_eq_some_iff.1 heq
  rw [← String.toList_inj, String.toList_ofList] at hsame
  rw [hsame] at hread
  refine Xml.unescape?_eq_self_iff.1 hread ?_
  rw [String.toList_append]
  exact List.mem_append_right _ h

end Deck

/-! ## Where the entries stand -/

namespace Presentation

/-- Whether content types can be read, and the last place in them that reads as the end tag of their root is
one: it is a tag of the document, and no tag follows it. -/
structure EndsWithRoot (types : String) : Prop where
  complete : (Xml.scan types).complete = true
  last : ∀ before after, Text.cutLast typesEnd types.toList = some (before, after) →
    Xml.EndsBetween before ∧ (Xml.tags after).tags = []

/-- What is added is found behind all that was there. -/
theorem EndsWithRoot.scan_append {types : String} (h : EndsWithRoot types) {starts : List Start}
    (hplain : Xml.allPlain (starts.map Start.node) = true) {extended : List Char}
    (happend : appendTypes types.toList (allChars (starts.map Start.node)) = .ok extended) :
    (∃ before after, types.toList = before ++ typesEnd ++ after ∧
      extended = before ++ allChars (starts.map Start.node) ++ typesEnd ++ after) ∧
    Xml.scan (String.ofList extended)
      = ⟨(Xml.scan types).elements ++ starts.map Start.read, true⟩ := by
  rw [appendTypes] at happend
  split at happend
  · next before after hcut =>
    obtain rfl := Except.ok.inj happend
    obtain ⟨hbetween, hlast⟩ := h.last before after hcut
    have htext := Text.eq_of_cutLast hcut
    have hend : typesEnd = Xml.endTag "Types".toList := by decide
    have hsame : types = String.ofList (before ++ (Xml.endTag "Types".toList ++ after)) := by
      rw [← hend, ← List.append_assoc, ← htext, String.ofList_toList]
    refine ⟨⟨before, after, htext, rfl⟩, ?_⟩
    have hcomplete := h.complete
    rw [hsame] at hcomplete ⊢
    rw [List.append_assoc, List.append_assoc, hend]
    exact Xml.scan_insert_last hbetween (by decide) hlast hcomplete hplain
  · cases happend

/-- Content types with entries that are written as they are end with their root. -/
theorem endsWithRoot_typesNode {entries : List TypeEntry} (h : ∀ entry ∈ entries, entry.IsVerbatim) :
    EndsWithRoot (Xml.document (typesNode entries)) where
  complete := by rw [Xml.scan_document_starts (isPlain_typesNode h)]
  last := by
    intro before after hcut
    rw [cutLast_typesNode] at hcut
    obtain ⟨rfl, rfl⟩ := Prod.mk.inj (Option.some.inj hcut)
    have hopen : openTypes entries = Xml.declaration.toList ++ (Xml.startTag "Types"
        [⟨"xmlns", "http://schemas.openxmlformats.org/package/2006/content-types"⟩] ++
          allChars (entries.map TypeEntry.node)) := by
      rw [openTypes, Xml.startTag, List.cons_append, List.append_assoc]
      rfl
    refine ⟨?_, by simp [Xml.tags]⟩
    rw [hopen]
    exact .append ⟨[], Xml.pieces_declaration⟩
      (.append (.startTag (by decide) (by decide)) (.allChars (allPlain_typeEntries h)))

end Presentation

end SlideDeck
