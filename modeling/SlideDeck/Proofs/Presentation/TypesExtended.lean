import Mathlib.Data.Set.List
import SlideDeck.Proofs.Presentation.Complete
import SlideDeck.Proofs.Presentation.TypeEntries

/-!
# Content types with those of slides

Entering slides adds entries to the content types of a template: one for each format of their media that has
no default yet in any mixture of cases, and one for each slide (`typesExtended_of_register`). The name of
a slide is written into its entry without escaping. The entry is read back if the folder of the presentation
has neither a double quote nor an ampersand in its name. With an ampersand it is not
(`not_typesExtended_ampersand`).
-/

namespace SlideDeck

open Xml (Start allChars)

namespace PartName

/-- Whether the folder of a part can stand between double quotes as it is. -/
def IsQuotable (part : String) : Prop :=
  '"' ∉ (inFolderOf part "").toList ∧ '&' ∉ (inFolderOf part "").toList

instance (part : String) : Decidable (IsQuotable part) :=
  inferInstanceAs (Decidable ('"' ∉ (inFolderOf part "").toList ∧ '&' ∉ (inFolderOf part "").toList))

/-- A name in the folder of a part stands behind that folder. -/
theorem toList_inFolderOf (part name : String) :
    (inFolderOf part name).toList = (inFolderOf part "").toList ++ name.toList := by
  rw [← String.toList_append, inFolderOf_append, String.empty_append]

end PartName

namespace Deck

open PartName (IsQuotable inFolderOf relationshipsPart)
open Presentation (EndsWithRoot typesEnd)

/-- The name of a slide has a character that is escaped only where its folder has it. -/
theorem Made.mem_part_iff {m : Made} {c : Char} (hc : Xml.escapeChar c ≠ [c]) :
    c ∈ m.part.toList ↔ c ∈ (inFolderOf m.before.presentation "").toList := by
  obtain ⟨n, hpart⟩ := m.exists_part_eq
  have hname : Xml.IsVerbatim ("slides" ++ "/" ++ "slide" ++ toString n ++ "." ++ "xml") :=
    .append (.append (.append (by decide) (Xml.isVerbatim_toString n)) (by decide)) (by decide)
  rw [hpart, PartName.toList_inFolderOf, List.mem_append]
  exact or_iff_left fun hmem => hc (hname _ hmem).2

/-! ## The formats that get an entry -/

/-- Whether slides show a picture in a format. -/
def Uses (made : List Made) (format : Picture.Format) : Prop :=
  ∃ m ∈ made, ∃ entry ∈ m.addition.media, entry.1 = format

/-- A deck has types for the formats of the images added to it, and for no others. -/
theorem extension_mem_mediaTypes_iff {start : Deck} (hnone : start.mediaTypes = [])
    (additions : List Addition) (format : Picture.Format) :
    format.extension ∈ ((Record.start start).addAll additions).deck.mediaTypes.map (·.1) ↔
      Uses ((Record.start start).addAll additions).made format := by
  rw [mem_mediaTypes_iff hnone]
  refine exists_congr fun m => and_congr_right fun _ => exists_congr fun entry =>
    and_congr_right fun _ => ⟨fun h => (Picture.Format.extension_injective h).symm, ?_⟩
  rintro rfl
  rfl

/-- The formats that get an entry are those of media that do not count as known. -/
theorem Typed.exists_formats {record : Record} (h : Typed record) (known : List String) :
    ∃ formats : List Picture.Format, newTypes record known = slideTypes formats record.made ∧
      formats.Nodup ∧ ∀ format : Picture.Format, format ∈ formats ↔
        format.extension ∈ record.deck.mediaTypes.map (·.1) ∧ format.extension ∉ known := by
  have hrange : (record.deck.mediaTypes.filter fun held => !known.contains held.1)
      ∈ Set.range (List.map fun format : Picture.Format => (format.extension, format.contentType)) := by
    rw [Set.range_list_map]
    exact fun held hmem => (h.exists_format held (List.mem_of_mem_filter hmem)).imp fun _ => Eq.symm
  obtain ⟨formats, hformats⟩ := hrange
  refine ⟨formats, ?_, ?_, fun format => ?_⟩
  · rw [newTypes, slideTypes, ← hformats, List.map_map]
    rfl
  · have hkeys : ((record.deck.mediaTypes.filter fun held => !known.contains held.1).map (·.1)).Nodup :=
      h.sorted.nodup_keys.sublist (List.filter_sublist.map _)
    rw [← hformats, List.map_map] at hkeys
    exact hkeys.of_map _
  · constructor
    · intro hformat
      have hmem := List.mem_map_of_mem (f := fun f : Picture.Format => (f.extension, f.contentType)) hformat
      rw [hformats, List.mem_filter] at hmem
      exact ⟨List.mem_map_of_mem hmem.1, by simpa using hmem.2⟩
    · rintro ⟨hmem, hunknown⟩
      obtain ⟨held, hheld, hextension⟩ := List.mem_map.1 hmem
      obtain ⟨other, rfl⟩ := h.exists_format held hheld
      obtain rfl := Picture.Format.extension_injective hextension
      have hfound : (other.extension, other.contentType)
          ∈ record.deck.mediaTypes.filter fun held => !known.contains held.1 :=
        List.mem_filter.2 ⟨hheld, by simpa using hunknown⟩
      rw [← hformats] at hfound
      obtain ⟨same, hsame, heq⟩ := List.mem_map.1 hfound
      rwa [← Picture.Format.extension_injective (Prod.mk.inj heq).1]

/-! ## What is added -/

/-- How content types with entries for formats and slides stand to those without. The entries stand in front
of the end of the root, behind all that were there. -/
structure EntriesAdded (types types' : String) (formats : List Picture.Format) (made : List Made) :
    Prop where
  nodup : formats.Nodup
  mem_iff : ∀ format, format ∈ formats ↔
    Uses made format ∧ ¬ Package.HasDefault types format.extension
  written : ∃ before after, types.toList = before ++ typesEnd ++ after ∧ types'.toList
    = before ++ allChars ((slideTypes formats made).map TypeEntry.node) ++ typesEnd ++ after
  scan_eq : Xml.scan types'
    = ⟨(Xml.scan types).elements ++ (slideTypes formats made).map (·.start.read), true⟩
  extensions_eq : Package.typedExtensions types'
    = Package.typedExtensions types ++ formats.map (·.extension)

/-- There is a default for each format of a picture, whether it was there or is added. -/
theorem EntriesAdded.hasDefault {types types' : String} {formats : List Picture.Format}
    {made : List Made} (h : EntriesAdded types types' formats made) {format : Picture.Format}
    (huses : Uses made format) : Package.HasDefault types' format.extension := by
  by_cases hdefault : Package.HasDefault types format.extension
  · obtain ⟨declared, hdeclared, hsame⟩ := hdefault
    exact ⟨declared, h.extensions_eq ▸ List.mem_append_left _ hdeclared, hsame⟩
  · have hadded : format ∈ formats := (h.mem_iff format).2 ⟨huses, hdefault⟩
    exact ⟨_, h.extensions_eq ▸ List.mem_append_right _ (List.mem_map_of_mem hadded), rfl⟩

/-- How content types with entries for slides and their media stand to those without: there is one entry for
each format of the media that had no default, and one for each slide. -/
structure TypesExtended (types types' : String) (made : List Made) : Prop where
  entries_added : ∃ formats, EntriesAdded types types' formats made
  parts_eq : Package.typedParts types' = Package.typedParts types ++ made.map ("/" ++ ·.part)
  typed : ∀ m ∈ made, "/" ++ m.part ∈ Package.typedParts types' ∧
    ∀ name ∈ m.media, ∃ extension, PartName.extension? name = some extension ∧
      Package.HasDefault types' extension
  /-- No extension has a default twice, unless it had before. -/
  defaultCount_le : ∀ extension,
    Package.defaultCount types' extension ≤ max 1 (Package.defaultCount types extension)

section Entered

variable {template : Package} {start : Deck} {types : String} {entered : Package}

/-- What entering does to the content types. -/
theorem exists_text_of_register {record : Record} (hopens : OpensAs template start)
    (hgrown : Grown start record)
    (hapart : start.presentation ≠ Package.contentTypesPart)
    (htypes : template.text Package.contentTypesPart = .ok types)
    (hregister : record.deck.register = .ok entered) :
    ∃ known extended, Presentation.knownExtensions types = .ok known ∧
      Presentation.appendTypes types.toList (allChars ((newTypes record known).map TypeEntry.node))
        = .ok extended ∧
      entered.text Package.contentTypesPart = .ok (String.ofList extended) := by
  obtain ⟨xml, listed, read, known, extended, -, -, hread, hknown, hextended, rfl⟩ :=
    entered_of_register hregister
  rw [text_contentTypes_of_insert _ (hgrown.presentation_eq ▸ hapart),
    hopens.text_eq hgrown (depth_contentTypesPart_le _), htypes] at hread
  obtain rfl := Except.ok.inj hread
  have hadded : record.deck.added = record.made.map Made.slide := by
    rw [hgrown.added_eq, hopens.added_eq, List.nil_append]
  rw [typeEntries_eq hadded] at hextended
  exact ⟨known, extended, hknown, hextended, Package.text_eq_ok (Package.get?_insertText_self _ _ _)⟩

/-- Where the names of the slides have no double quote, all entries stand in the content types, and those
for formats are read back. -/
theorem exists_entriesAdded_of_register (hopens : OpensAs template start)
    (hapart : start.presentation ≠ Package.contentTypesPart)
    (htypes : template.text Package.contentTypesPart = .ok types) (hroot : EndsWithRoot types)
    {additions : List Addition}
    (hquote : ∀ m ∈ ((Record.start start).addAll additions).made, '"' ∉ m.part.toList)
    (hregister : ((Record.start start).addAll additions).deck.register = .ok entered) :
    ∃ types' formats, entered.text Package.contentTypesPart = .ok types' ∧
      EntriesAdded types types' formats ((Record.start start).addAll additions).made ∧
      Package.typedParts types' = Package.typedParts types ++
        ((Record.start start).addAll additions).made.filterMap fun m =>
          (Xml.unescape? ("/" ++ m.part).toList).map String.ofList := by
  obtain ⟨known, extended, hknown, hextended, htext⟩ :=
    exists_text_of_register hopens (grown_addAll start additions) hapart htypes hregister
  obtain ⟨formats, heq, hnodup, hformats⟩ :=
    (typed_addAll hopens.mediaTypes_eq additions).exists_formats known
  rw [heq, TypeEntry.map_node] at hextended
  obtain ⟨hwritten, hscan⟩ := hroot.scan_append (allPlain_slideTypes hquote) hextended
  refine ⟨_, formats, htext, ⟨hnodup, fun format => ?_, ?_, ?_, ?_⟩, ?_⟩
  · rw [hformats, Package.mem_known_iff hknown, extension_mem_mediaTypes_iff hopens.mediaTypes_eq]
  · rw [String.toList_ofList, TypeEntry.map_node]
    exact hwritten
  · rw [hscan, List.map_map]
    rfl
  · rw [Package.typedExtensions_eq, Package.typedExtensions_eq, hscan, List.filterMap_append,
      extensions_slideTypes]
  · rw [Package.typedParts_eq, Package.typedParts_eq, hscan, List.filterMap_append,
      parts_slideTypes formats hquote]

/-- Entering slides whose names can be quoted leaves the content types of the template as they are and adds
to them, so that all that was made has a type. -/
theorem typesExtended_of_register (hstart : ofTemplate template = .ok start)
    (hapart : start.presentation ≠ Package.contentTypesPart) (hfolder : IsQuotable start.presentation)
    (htypes : template.text Package.contentTypesPart = .ok types) (hroot : EndsWithRoot types)
    (additions : List Addition)
    (hregister : ((Record.start start).addAll additions).deck.register = .ok entered) :
    ∃ types', entered.text Package.contentTypesPart = .ok types' ∧
      TypesExtended types types' ((Record.start start).addAll additions).made := by
  have hopens := opensAs hstart
  have hgrown := grown_addAll start additions
  have habsent : ∀ c : Char, Xml.escapeChar c ≠ [c] → c ∉ (inFolderOf start.presentation "").toList →
      ∀ m ∈ ((Record.start start).addAll additions).made, c ∉ m.part.toList := by
    intro c hc hnone m hm
    rwa [Made.mem_part_iff hc, (hgrown.before_eq m hm).1]
  obtain ⟨types', formats, htext, hadded, hparts⟩ := exists_entriesAdded_of_register hopens hapart htypes
    hroot (habsent '"' (by decide) hfolder.1) hregister
  rw [filterMap_part_of_not_mem (habsent '&' (by decide) hfolder.2)] at hparts
  refine ⟨types', htext, ⟨formats, hadded⟩, hparts, fun m hm => ⟨?_, fun name hname => ?_⟩, ?_⟩
  · rw [hparts]
    exact List.mem_append_right _ (List.mem_map_of_mem hm)
  · obtain ⟨entry, hentry, hextension⟩ := extension?_media hname
    exact ⟨_, hextension, hadded.hasDefault ⟨m, hm, entry, hentry, rfl⟩⟩
  · exact Package.defaultCount_append hadded.extensions_eq hadded.nodup fun format hformat =>
      ((hadded.mem_iff format).1 hformat).2

end Entered

/-! ## A drawing on the built-in template -/

/-- A folder with one drawing. -/
def drawings : File.Tree where
  nodes := [(["map.svg"], .file (.text "<svg/>"))]
  current := []
  temporary := ⟨"/tmp"⟩

/-- The addition of a slide with this drawing. -/
def drawing : Addition := .image drawings .titleOnly "Map" ⟨"map.svg"⟩

/-- The drawing is loaded as a vector image. -/
theorem load_drawing : Picture.load drawings ⟨"map.svg"⟩
    = .ok ⟨.svg, .text "<svg/>", Picture.Vector.size? "<svg/>"⟩ := by
  rfl

/-- The slide has the drawing and its stand-in. -/
theorem media_drawing : drawing.media =
    [(.svg, .text "<svg/>"), (.png, Picture.standIn (Picture.Vector.size? "<svg/>"))] := by
  rw [Addition.media, drawing, Addition.picture?, load_drawing]
  rfl

/-- Its slide uses the formats of the drawing and of its stand-in. -/
theorem uses_drawing (start : Deck) {format : Picture.Format} (h : format ∈ drawing.media.map (·.1)) :
    Uses [⟨drawing, start⟩] format := by
  obtain ⟨entry, hentry, heq⟩ := List.mem_map.1 h
  exact ⟨_, List.mem_singleton_self _, entry, hentry, heq⟩

/-- The content types of the template end with their root. -/
theorem endsWithRoot_builtin : EndsWithRoot Builtin.contentTypesXml := by
  rw [contentTypesXml_eq]
  exact Presentation.endsWithRoot_typesNode isVerbatim_builtinTypes

/-- The built-in content types have no defaults for pictures. -/
theorem not_hasDefault_builtin (format : Picture.Format) :
    ¬ Package.HasDefault Builtin.contentTypesXml format.extension := by
  have hextensions : Package.typedExtensions Builtin.contentTypesXml
      = builtinTypes.filterMap TypeEntry.extension? := by
    rw [contentTypesXml_eq]
    exact extensions_typesNode isVerbatim_builtinTypes
  rw [Package.HasDefault, hextensions]
  cases format <;> decide

/-- The built-in content types get defaults for the drawing and for its stand-in. -/
theorem typesExtended_drawing : ∃ start entered types', ofTemplate Builtin.package = .ok start ∧
    start.presentation ≠ Package.contentTypesPart ∧ IsQuotable start.presentation ∧
    Builtin.package.text Package.contentTypesPart = .ok Builtin.contentTypesXml ∧
    EndsWithRoot Builtin.contentTypesXml ∧
    ((Record.start start).addAll [drawing]).deck.register = .ok entered ∧
    entered.text Package.contentTypesPart = .ok types' ∧
    TypesExtended Builtin.contentTypesXml types' [⟨drawing, start⟩] ∧
    ∀ format ∈ [Picture.Format.svg, .png],
      ¬ Package.HasDefault Builtin.contentTypesXml format.extension ∧
        Package.HasDefault types' format.extension := by
  obtain ⟨start, hstart, hpresentation, hlayouts, -⟩ := composed_builtin.exists_ofTemplate_eq_ok
  have hregister := ((composed_builtin.ongoing hstart).addAll [drawing]).register_eq_ok
  have hlayout : start.layouts[drawing.layout.index]? = some (Builtin.layoutPart 6) := by
    rw [hlayouts]
    decide
  have hmade := (opensAs hstart).addAll_singleton hlayout ⟨_, load_drawing⟩
  have hapart : start.presentation ≠ Package.contentTypesPart := by
    rw [hpresentation]
    decide
  have hfolder : IsQuotable start.presentation := by
    rw [hpresentation]
    decide
  have htypes := Package.text_eq_ok Builtin.get?_contentTypesPart
  obtain ⟨types', htext, hextended⟩ := typesExtended_of_register hstart hapart hfolder htypes
    endsWithRoot_builtin [drawing] hregister
  rw [hmade] at hextended
  obtain ⟨formats, hadded⟩ := hextended.entries_added
  refine ⟨start, _, types', hstart, hapart, hfolder, htypes, endsWithRoot_builtin, hregister, htext,
    hextended, fun format hformat => ⟨not_hasDefault_builtin format, hadded.hasDefault ?_⟩⟩
  refine uses_drawing start ?_
  rwa [media_drawing]

/-! ## A folder with an ampersand in its name -/

/-- A presentation in a folder whose name has an ampersand. -/
def ampersandPart : String := "r&d/presentation.xml"

/-- A presentation with a slide master and no slides. -/
def ampersandNode : Xml.Node :=
  .element "p:presentation" []
    [.element "p:sldMasterIdLst" [] [.empty "p:sldMasterId" [⟨"r:id", "rId1"⟩]]]

/-- The relationship of the package to the presentation. -/
def toAmpersand : Relationship := .internal "rId1" Relationship.officeDocument ampersandPart

/-- The relationship of the presentation to the built-in slide master. -/
def fromAmpersand : Relationship :=
  .internal "rId1" Relationship.slideMaster "../ppt/slideMasters/slideMaster1.xml"

/-- The built-in template with its presentation in that folder. -/
def ampersand : Package :=
  ((Builtin.package.insertText (relationshipsPart "") (Relationship.listXml [toAmpersand])).insertText
    ampersandPart (Xml.document ampersandNode)).insertText
    (relationshipsPart ampersandPart) (Relationship.listXml [fromAmpersand])

/-- Apart from the parts put in, the template is the built-in one. -/
theorem get?_ampersand {name : String} (hpackage : name ≠ relationshipsPart "")
    (hpresentation : name ≠ ampersandPart) (hlisting : name ≠ relationshipsPart ampersandPart) :
    ampersand.get? name = Builtin.package.get? name := by
  rw [ampersand, Package.get?_insertText_of_ne _ hlisting, Package.get?_insertText_of_ne _ hpresentation,
    Package.get?_insertText_of_ne _ hpackage]

/-- Its presentation has slide masters and no slides. -/
theorem text_ampersand : ampersand.text ampersandPart = .ok (Xml.document ampersandNode) := by
  refine Package.text_eq_ok ?_
  rw [ampersand, Package.get?_insertText_of_ne _ (by decide), Package.get?_insertText_self]

/-- Its content types are those of the built-in template. -/
theorem types_ampersand : ampersand.text Package.contentTypesPart = .ok Builtin.contentTypesXml := by
  refine Package.text_eq_ok ?_
  rw [get?_ampersand (by decide) (by decide) (by decide), Builtin.get?_contentTypesPart]

/-- Its main part is in a folder with an ampersand in its name. -/
theorem main_ampersand : ampersand.relationships "" = .ok [toAmpersand] := by
  refine Package.relationships_eq_ok ?_ (Relationship.ofXml_listXml_of_isCarried ?_)
  · rw [ampersand, Package.get?_insertText_of_ne _ (by decide),
      Package.get?_insertText_of_ne _ (by decide), Package.get?_insertText_self]
  · exact List.forall_mem_singleton.2 ⟨by decide, by decide, by decide⟩

/-- The presentation leads to the built-in master. -/
theorem relationships_ampersand : ampersand.relationships ampersandPart = .ok [fromAmpersand] := by
  refine Package.relationships_eq_ok (by rw [ampersand, Package.get?_insertText_self])
    (Relationship.ofXml_listXml_of_isCarried ?_)
  exact List.forall_mem_singleton.2 ⟨by decide, by decide, by decide⟩

/-- So it has the built-in layouts. -/
theorem masterLayouts_ampersand :
    masterLayouts ampersand Builtin.masterPart = .ok Builtin.layoutParts := by
  have hmaster : ampersand.get? Builtin.masterPart = Builtin.package.get? Builtin.masterPart :=
    get?_ampersand (by decide) (by decide) (by decide)
  have hlisting : ampersand.get? (relationshipsPart Builtin.masterPart)
      = Builtin.package.get? (relationshipsPart Builtin.masterPart) :=
    get?_ampersand (by decide) (by decide) (by decide)
  have hread := Builtin.relationships_eq_ok Builtin.master_mem_owners hlisting
  exact Builtin.masterLayouts_eq_ok hread (hmaster.trans Builtin.get?_masterPart)

/-- The package is accepted as a template, and slides can be entered into it. -/
theorem exists_ofTemplate_ampersand : ∃ start, ofTemplate ampersand = .ok start ∧
    start.presentation = ampersandPart ∧ start.layouts = Builtin.layoutParts ∧
    TakesSlides ampersand start := by
  refine ⟨⟨ampersand, ampersandPart, Builtin.layoutParts,
    sizeIn (Xml.scan (Xml.document ampersandNode)).elements, [], [fromAmpersand],
    firstId (slideIdsIn (Xml.scan (Xml.document ampersandNode)).elements), [], false⟩,
    OpensAs.ofTemplate_eq_ok ?_, rfl, rfl, ?_⟩
  · exact
      { package_eq := rfl
        presentation_found := ⟨_, main_ampersand, by decide⟩
        relationships_read := relationships_ampersand
        layouts_read := ⟨Builtin.masterPart, by decide, masterLayouts_ampersand⟩
        layouts_ne_nil := show Builtin.layoutParts ≠ [] by decide
        presentation_read := ⟨_, text_ampersand, rfl, rfl⟩
        presentation_complete := fun xml hxml => by
          obtain rfl := Except.ok.inj (text_ampersand.symm.trans hxml)
          rw [Xml.scan_document_starts (by decide)]
        added_eq := rfl
        mediaTypes_eq := rfl
        finalized_eq := rfl }
  · refine ⟨show ampersandPart ≠ _ by decide, ⟨_, text_ampersand, ?_⟩, _, types_ampersand, ?_, ?_⟩
    · exact Presentation.isSome_cutFirst_anchor (by decide +kernel)
    · exact endsWithRoot_builtin.complete
    · rw [contentTypesXml_eq, cutLast_typesNode]
      rfl

/-- The built-in types are for no part with an ampersand in its name. -/
theorem not_mem_typedParts_builtin {name : String} (h : '&' ∈ name.toList) :
    "/" ++ name ∉ Package.typedParts Builtin.contentTypesXml := by
  have hparts : Package.typedParts Builtin.contentTypesXml
      = builtinTypes.filterMap fun entry => entry.part?.map ("/" ++ ·) := by
    rw [contentTypesXml_eq]
    exact parts_typesNode isVerbatim_builtinTypes
  have hnone : ∀ part ∈ builtinTypes.filterMap fun entry => entry.part?.map ("/" ++ ·),
      '&' ∉ part.toList := by
    decide
  intro hmem
  rw [hparts] at hmem
  refine hnone _ hmem ?_
  rw [String.toList_append]
  exact List.mem_append_right _ h

/-- The entry for a slide in that folder does not read as the name of the slide, so that the slide has no
type. -/
theorem not_typesExtended_ampersand : ∃ start entered types', ofTemplate ampersand = .ok start ∧
    start.presentation ≠ Package.contentTypesPart ∧
    ampersand.text Package.contentTypesPart = .ok Builtin.contentTypesXml ∧
    EndsWithRoot Builtin.contentTypesXml ∧
    ((Record.start start).addAll [.title .title "Report" "2024"]).deck.register = .ok entered ∧
    entered.text Package.contentTypesPart = .ok types' ∧
    (∃ m ∈ ((Record.start start).addAll [.title .title "Report" "2024"]).made,
      "/" ++ m.part ∉ Package.typedParts types') ∧
    ¬ TypesExtended Builtin.contentTypesXml types'
      ((Record.start start).addAll [.title .title "Report" "2024"]).made := by
  obtain ⟨start, hstart, hpresentation, hlayouts, htakes⟩ := exists_ofTemplate_ampersand
  have hopens := opensAs hstart
  obtain ⟨entered, hregister⟩ := htakes.exists_register_eq_ok hopens
    (grown_addAll start [.title .title "Report" "2024"])
  have hlayout : start.layouts[Layout.title.index]? = some (Builtin.layoutPart 1) := by
    rw [hlayouts]
    decide
  have hmade : ((Record.start start).addAll [.title .title "Report" "2024"]).made
      = [⟨.title .title "Report" "2024", start⟩] := by
    rw [hopens.addAll_title hlayout]
  have hquote : ∀ m ∈ ((Record.start start).addAll [.title .title "Report" "2024"]).made,
      '"' ∉ m.part.toList := by
    rw [hmade, List.forall_mem_singleton, Made.mem_part_iff (by decide), hpresentation]
    decide
  obtain ⟨types', formats, htext, -, hparts⟩ := exists_entriesAdded_of_register hopens
    (hpresentation ▸ by decide) types_ampersand endsWithRoot_builtin hquote hregister
  have hand : '&' ∈ (Made.mk (.title .title "Report" "2024") start).part.toList := by
    rw [Made.mem_part_iff (by decide), hpresentation]
    decide
  have huntyped : "/" ++ (Made.mk (.title .title "Report" "2024") start).part
      ∉ Package.typedParts types' := by
    rw [hparts, hmade, List.mem_append, not_or]
    exact ⟨not_mem_typedParts_builtin hand, not_mem_filterMap_part hand⟩
  have hmem : Made.mk (.title .title "Report" "2024") start
      ∈ ((Record.start start).addAll [.title .title "Report" "2024"]).made := by
    rw [hmade]
    exact List.mem_singleton_self _
  exact ⟨start, entered, types', hstart, htakes.apart, types_ampersand, endsWithRoot_builtin, hregister,
    htext, ⟨_, hmem, huntyped⟩, fun hextended => huntyped (hextended.typed _ hmem).1⟩

end Deck

end SlideDeck
