import SlideDeck.Proofs.Presentation.Builtin
import SlideDeck.Proofs.Presentation.Record
import SlideDeck.Proofs.Presentation.Template

/-!
# Packages made of the built-in template and slides

`Composed` describes the package that holds the built-in template and the slides that were made on it,
with all of them entered into its documents. Such a package opens as a template again
(`Composed.exists_ofTemplate_eq_ok`), with the built-in layouts and with its slides listed.
-/

namespace SlideDeck.Deck

open Builtin (presentationPart masterPart presentationRelationships)
open Xml (document IsVerbatim)

/-- The package with these slides on the built-in template, and with these types next to the built-in
ones. -/
structure Composed (made : List Made) (types : List TypeEntry) (package : Package) : Prop where
  mem_names_iff : ∀ name, name ∈ package.names ↔
    name ∈ Builtin.package.names ∨ ∃ m ∈ made, m.Owns name
  get?_presentation : package.get? presentationPart
    = some (.text (document (presentationNode (made.map Made.slide))))
  get?_relationships : package.get? (PartName.relationshipsPart presentationPart)
    = some (.text (Relationship.listXml (presentationRelationships ++ made.map Made.link)))
  get?_types : package.get? Package.contentTypesPart
    = some (.text (document (typesNode (builtinTypes ++ types))))
  get?_builtin : ∀ name ∈ Builtin.package.names, name ≠ presentationPart →
    name ≠ PartName.relationshipsPart presentationPart → name ≠ Package.contentTypesPart →
    package.get? name = Builtin.package.get? name
  get?_owned : ∀ m ∈ made, ∀ name, m.Owns name → package.get? name = m.after.package.get? name
  before_eq : ∀ m ∈ made, m.before.presentation = presentationPart
  layout_found : ∀ m ∈ made,
    Builtin.layoutParts[m.addition.layout.index]? = some m.layoutPart
  nodup_relationships :
    ((presentationRelationships ++ made.map Made.link).map (·.id)).Nodup
  nodup_parts : (made.flatMap Made.parts).Nodup
  new_parts : ∀ m ∈ made, ∀ name, m.Owns name → name ∉ Builtin.package.names
  types_verbatim : ∀ entry ∈ types, entry.IsVerbatim
  nodup_extensions : ((builtinTypes ++ types).filterMap TypeEntry.extension?).Nodup
  extensions_from : ∀ extension ∈ types.filterMap TypeEntry.extension?,
    ∃ format : Picture.Format, extension = format.extension
  parts_eq : types.filterMap TypeEntry.part? = made.map Made.part
  media_typed : ∀ m ∈ made, ∀ entry ∈ m.addition.media,
    entry.1.extension ∈ types.filterMap TypeEntry.extension?
  ids_eq : 256 + made.length ≤ 2 ^ 32 →
    made.map (·.slide.id) = List.range' 256 made.length

/-! ## What the slides say about themselves -/

namespace Made

variable {m : Made}

/-- The relationship that a slide is listed by needs no escaping. -/
theorem isVerbatim_relationship (m : Made) : IsVerbatim m.slide.relationship := by
  obtain ⟨n, heq, -⟩ := exists_nextRelationshipId_eq m.before.relationships
  rw [slide, heq]
  exact .append (by decide) (Xml.isVerbatim_toString n)

/-- Slides of a deck on the built-in template are numbered in one folder. -/
theorem exists_part_eq_of_builtin (h : m.before.presentation = presentationPart) :
    ∃ n : Nat, m.part = "ppt/slides/slide" ++ toString n ++ ".xml" := by
  obtain ⟨n, hpart⟩ := m.exists_part_eq
  refine ⟨n, ?_⟩
  have hfolder : PartName.split presentationPart.toList = some ("ppt".toList, "presentation.xml".toList) := by
    decide
  rw [hpart, h, PartName.inFolderOf, hfolder]
  apply String.toList_injective
  simp

/-- Images of a deck on the built-in template are numbered in one folder. -/
theorem exists_media_eq_of_builtin (h : m.before.presentation = presentationPart) {name : String}
    (hname : name ∈ m.media) : ∃ n : Nat, ∃ entry ∈ m.addition.media,
      name = "ppt/media/image" ++ toString n ++ "." ++ entry.1.extension := by
  obtain ⟨n, entry, hentry, hpart⟩ := Deck.exists_eq_of_mem_media _ _ hname
  refine ⟨n, entry, hentry, ?_⟩
  have hfolder : PartName.split presentationPart.toList = some ("ppt".toList, "presentation.xml".toList) := by
    decide
  rw [hpart, h, PartName.inFolderOf, hfolder]
  apply String.toList_injective
  simp

/-- The name of the part of a slide needs no escaping. -/
theorem isVerbatim_part (h : m.before.presentation = presentationPart) : IsVerbatim m.part := by
  obtain ⟨n, hpart⟩ := exists_part_eq_of_builtin h
  rw [hpart]
  exact .append (.append (by decide) (Xml.isVerbatim_toString n)) (by decide)

end Made

/-! ## The list of slides -/

/-- The entry of a slide in the list can be read again. -/
theorem isPlain_entry {slide : Added} (h : IsVerbatim slide.relationship) :
    slide.entry.isPlain = true := by
  have hattributes :
      Xml.arePlain [⟨"id", toString slide.id⟩, ⟨"r:id", slide.relationship⟩] = true := by
    refine Xml.arePlain_of_names ["id", "r:id"] (by decide) rfl ?_
    exact List.forall_mem_cons.2
      ⟨Xml.not_mem_toString_nat slide.id, List.forall_mem_singleton.2 (h.not_mem (by simp))⟩
  rw [Added.entry, Xml.Node.isPlain, hattributes]
  decide

/-- So can the presentation with all entries. -/
theorem isPlain_presentationNode {slides : List Added}
    (h : ∀ slide ∈ slides, IsVerbatim slide.relationship) :
    (presentationNode slides).isPlain = true := by
  have hentries : Xml.allPlain (slides.map Added.entry) = true := by
    rw [Xml.allPlain_eq_true_iff]
    intro node hnode
    obtain ⟨slide, hslide, rfl⟩ := List.mem_map.1 hnode
    exact isPlain_entry (h slide hslide)
  have hlist : Xml.allPlain (slideList slides) = true := by
    rw [slideList]
    split
    · rfl
    · rw [Xml.allPlain, Xml.Node.isPlain, hentries]
      decide
  have hmasters : Xml.allPlain [masterList] = true := by decide
  have hsizes : Xml.allPlain sizes = true := by decide
  rw [presentationNode, Xml.Node.isPlain, Xml.allPlain_append, Xml.allPlain_append, hmasters, hlist,
    hsizes]
  decide

/-- The start tags of the entries in the list of slides. -/
def Added.start (slide : Added) : Xml.Start :=
  ("p:sldId", [⟨"id", toString slide.id⟩, ⟨"r:id", slide.relationship⟩])

/-- The tags of the presentation are those of the template with the list of slides between them. -/
theorem starts_presentationNode (slides : List Added) :
    (presentationNode slides).starts
      = ("p:presentation", Slide.vocabularies ++ [⟨"saveSubsetFonts", "1"⟩]) :: (masterList.starts ++
        ((if slides.isEmpty then [] else ("p:sldIdLst", []) :: slides.map Added.start) ++
          Xml.allStarts sizes)) := by
  have hentries : Xml.allStarts (slides.map Added.entry) = slides.map Added.start := by
    rw [Xml.allStarts_map, List.map_eq_flatMap]
    rfl
  rw [presentationNode, Xml.Node.starts, Xml.allStarts_append, Xml.allStarts_append, slideList]
  cases hempty : slides.isEmpty
  · simp [Xml.allStarts, Xml.Node.starts, hentries]
  · simp [Xml.allStarts]

/-- The start tags with a name other than those of the root and of the list of slides. -/
theorem filter_starts_presentationNode (slides : List Added) {name : String}
    (hroot : ¬ Xml.Start.isNamed name
      ("p:presentation", Slide.vocabularies ++ [⟨"saveSubsetFonts", "1"⟩]) = true)
    (hlist : ¬ Xml.Start.isNamed name ("p:sldIdLst", []) = true) :
    (presentationNode slides).starts.filter (·.isNamed name)
      = masterList.starts.filter (·.isNamed name) ++
        ((slides.map Added.start).filter (·.isNamed name) ++
          (Xml.allStarts sizes).filter (·.isNamed name)) := by
  rw [starts_presentationNode, List.filter_cons_of_neg hroot, List.filter_append, List.filter_append]
  cases slides with
  | nil => rfl
  | cons slide slides => rw [List.isEmpty_cons, if_neg Bool.false_ne_true, List.filter_cons_of_neg hlist]

/-- Only the entries of slides are called like one. -/
theorem filter_starts_entries (slides : List Added) :
    (presentationNode slides).starts.filter (·.isNamed "sldId") = slides.map Added.start := by
  have hentry : Xml.Start.isNamed "sldId" ("p:sldId", []) = true := by decide
  have hmasters : masterList.starts.filter (·.isNamed "sldId") = [] := by decide
  have hsizes : (Xml.allStarts sizes).filter (·.isNamed "sldId") = [] := by decide
  have hentries : (slides.map Added.start).filter (·.isNamed "sldId") = slides.map Added.start := by
    rw [List.filter_eq_self]
    intro start hstart
    obtain ⟨slide, -, rfl⟩ := List.mem_map.1 hstart
    exact hentry
  rw [filter_starts_presentationNode slides (by decide) (by decide), hmasters, hentries, hsizes,
    List.nil_append, List.append_nil]

/-- The numbers of listed slides are read back if they fit into 32 bits. -/
theorem slideIdsIn_presentationNode {slides : List Added}
    (h : ∀ slide ∈ slides, IsVerbatim slide.relationship) (hids : ∀ slide ∈ slides, slide.id < 2 ^ 32) :
    slideIdsIn (Xml.scan (document (presentationNode slides))).elements
      = slides.map fun slide => UInt32.ofNat slide.id := by
  have hread : slideIdsIn (Xml.scan (document (presentationNode slides))).elements
      = ((presentationNode slides).starts.filter (·.isNamed "sldId")).filterMap fun start =>
        (start.value? "id").bind fun text => Number.unsigned32? text.toList :=
    Xml.filterMap_elements (isPlain_presentationNode h) "sldId" fun start hstart => by
      rw [Xml.attribute?_read hstart]
  rw [hread, filter_starts_entries, List.filterMap_map, ← List.filterMap_eq_map]
  refine List.filterMap_congr fun slide hslide => ?_
  have hvalue : slide.start.value? "id" = some (toString slide.id) :=
    (Xml.isVerbatim_toString slide.id).unescape?
  rw [Function.comp, hvalue, Option.bind_some]
  exact Number.unsigned32?_toString (hids slide hslide)

/-- Behind numbers in a row comes the next one, as long as that has 32 bits. -/
theorem toNat_firstId_range' {n : Nat} (hfit : 256 + n < 2 ^ 32) :
    (firstId ((List.range' 256 n).map UInt32.ofNat)).toNat = 256 + n := by
  have hid : ∀ id ∈ (List.range' 256 n).map UInt32.ofNat, id.toNat < 256 + n := by
    intro id hid
    obtain ⟨k, hk, rfl⟩ := List.mem_map.1 hid
    have hlast := (List.mem_range'_1.1 hk).2
    rw [UInt32.toNat_ofNat_of_lt' (Nat.lt_trans hlast hfit)]
    exact hlast
  have hone : ∀ id ∈ (List.range' 256 n).map UInt32.ofNat, id.toNat + 1 < 2 ^ 32 := fun id h =>
    Nat.lt_of_le_of_lt (hid id h) hfit
  refine Nat.le_antisymm ((toNat_firstId_le_iff hone _).2 ⟨Nat.le_add_right _ _, hid⟩) ?_
  -- the last of the numbers is the one before
  cases n with
  | zero => exact minId_le_firstId []
  | succ n =>
    have hbelow : 256 + n < 2 ^ 32 := by omega
    have hlast := lt_firstId hone (List.mem_map_of_mem (f := UInt32.ofNat)
      (List.mem_range'_1.2 ⟨Nat.le_add_right 256 n, Nat.lt_succ_self (256 + n)⟩))
    rwa [UInt32.toNat_ofNat_of_lt' hbelow] at hlast

/-! ## Opening -/

/-- The target of a type among relationships is found among the first of them. -/
theorem targetOf?_append {part type target : String} {first : List Relationship}
    (h : targetOf? part type first = some target) (rest : List Relationship) :
    targetOf? part type (first ++ rest) = some target := by
  obtain ⟨r, hfind, heq⟩ := Option.map_eq_some_iff.1 h
  rw [targetOf?, List.find?_append, hfind]
  exact congrArg some heq

namespace Composed

variable {made : List Made} {types : List TypeEntry} {package : Package}

/-- The relationships that slides are listed by need no escaping. -/
theorem isVerbatim_slides (made : List Made) :
    ∀ slide ∈ made.map Made.slide, IsVerbatim slide.relationship := by
  intro slide hslide
  obtain ⟨m, -, rfl⟩ := List.mem_map.1 hslide
  exact m.isVerbatim_relationship

/-- The relationships of an owner apart from the presentation are the built-in ones. -/
theorem relationships_builtin (h : Composed made types package) {owner : String × List Relationship}
    (howner : owner ∈ Builtin.owners) (hne : owner.1 ≠ presentationPart) :
    package.relationships owner.1 = .ok owner.2 := by
  have hlast := PartName.getLast?_relationshipsPart owner.1
  have hmem : PartName.relationshipsPart owner.1 ∈ Builtin.package.names :=
    Builtin.mem_names_of_get? (Builtin.get?_relationshipsPart howner)
  refine Builtin.relationships_eq_ok howner (h.get?_builtin _ hmem ?_ ?_ ?_)
  · intro heq
    rw [heq] at hlast
    exact absurd hlast (by decide)
  · exact fun heq => hne (PartName.relationshipsPart_injective heq)
  · intro heq
    rw [heq] at hlast
    exact absurd hlast (by decide)

/-- The relationships of the presentation are the built-in ones and one for each slide. -/
theorem relationships_presentation (h : Composed made types package) :
    package.relationships presentationPart = .ok (presentationRelationships ++ made.map Made.link) := by
  refine Package.relationships_eq_ok h.get?_relationships
    (Relationship.ofXml_listXml_of_isCarried fun r hr => ?_)
  rcases List.mem_append.1 hr with hr | hr
  · exact Builtin.isCarried_relationships Builtin.presentation_mem_owners r hr
  · obtain ⟨m, -, rfl⟩ := List.mem_map.1 hr
    exact m.isCarried_link

/-- The master still has the layouts of the template. -/
theorem masterLayouts_eq_ok (h : Composed made types package) :
    masterLayouts package masterPart = .ok Builtin.layoutParts := by
  have hpresentation : masterPart ≠ presentationPart := by decide
  have hlisting : masterPart ≠ PartName.relationshipsPart presentationPart := by decide
  have htypes : masterPart ≠ Package.contentTypesPart := by decide
  have hget := h.get?_builtin masterPart Builtin.masterPart_mem_names hpresentation hlisting htypes
  rw [Builtin.get?_masterPart] at hget
  have hread := h.relationships_builtin Builtin.master_mem_owners hpresentation
  exact Builtin.masterLayouts_eq_ok hread hget

/-- Such a package opens as a template, and what the deck takes from it is this. -/
theorem exists_ofTemplate_eq_ok (h : Composed made types package) :
    ∃ start, ofTemplate package = .ok start ∧ start.presentation = presentationPart ∧
      start.layouts = Builtin.layoutParts ∧
      start.relationships = presentationRelationships ++ made.map Made.link ∧
      start.nextId = firstId (slideIdsIn
        (Xml.scan (document (presentationNode (made.map Made.slide)))).elements) := by
  have hpackage := h.relationships_builtin Builtin.package_mem_owners (by decide)
  have hmain : targetOf? "" Relationship.officeDocument Builtin.packageRelationships
      = some presentationPart := by decide
  have hmaster : targetOf? presentationPart Relationship.slideMaster
      (presentationRelationships ++ made.map Made.link) = some masterPart :=
    targetOf?_append (by decide) _
  have htext := Package.text_eq_ok h.get?_presentation
  have hcomplete :
      (Xml.scan (document (presentationNode (made.map Made.slide)))).complete = true := by
    rw [Xml.scan_document_starts (isPlain_presentationNode (isVerbatim_slides made))]
  refine ⟨⟨package, presentationPart, Builtin.layoutParts,
    sizeIn (Xml.scan (document (presentationNode (made.map Made.slide)))).elements, [],
    presentationRelationships ++ made.map Made.link,
    firstId (slideIdsIn (Xml.scan (document (presentationNode (made.map Made.slide)))).elements), [],
    false⟩, OpensAs.ofTemplate_eq_ok ?_, rfl, rfl, rfl, rfl⟩
  exact
    { package_eq := rfl
      presentation_found := ⟨_, hpackage, hmain⟩
      relationships_read := h.relationships_presentation
      layouts_read := ⟨masterPart, hmaster, h.masterLayouts_eq_ok⟩
      layouts_ne_nil := show Builtin.layoutParts ≠ [] by decide
      presentation_read := ⟨_, htext, rfl, rfl⟩
      presentation_complete := fun xml hxml => by
        obtain rfl := Except.ok.inj (htext.symm.trans hxml)
        exact hcomplete
      added_eq := rfl
      mediaTypes_eq := rfl
      finalized_eq := rfl }

end Composed

/-- The built-in package is made of the template and no slides. -/
theorem composed_builtin : Composed [] [] Builtin.package where
  mem_names_iff := fun name => by simp
  get?_presentation := by
    rw [List.map_nil, ← presentationXml_eq]
    exact Builtin.get?_presentationPart
  get?_relationships := by
    rw [List.map_nil, List.append_nil]
    exact Builtin.get?_presentationListing
  get?_types := by
    rw [List.append_nil, ← contentTypesXml_eq]
    exact Builtin.get?_contentTypesPart
  get?_builtin := fun _ _ _ _ _ => rfl
  get?_owned := fun _ h => absurd h List.not_mem_nil
  before_eq := fun _ h => absurd h List.not_mem_nil
  layout_found := fun _ h => absurd h List.not_mem_nil
  nodup_relationships := by
    rw [List.map_nil, List.append_nil]
    decide
  nodup_parts := List.nodup_nil
  new_parts := fun _ h => absurd h List.not_mem_nil
  types_verbatim := fun _ h => absurd h List.not_mem_nil
  nodup_extensions := by decide
  extensions_from := fun _ h => absurd h List.not_mem_nil
  parts_eq := rfl
  media_typed := fun _ h => absurd h List.not_mem_nil
  ids_eq := fun _ => rfl

end SlideDeck.Deck
