import SlideDeck.Proofs.Presentation.Listed
import SlideDeck.Proofs.Presentation.Round
import SlideDeck.Proofs.Slide.Sheet

/-!
# Packages that hold together

`Intact` says of a package with slides that its relationships lead to parts it has, that its documents
refer to relationships they have, that all its parts have a content type and that its slides are listed in
order. A package that is made of the built-in template and slides is intact (`Composed.intact`).
-/

namespace SlideDeck

/-! ## What readers of a package look at -/

/-- The extension of a part: what follows the last dot in the last segment of its name. -/
def PartName.extension? (name : String) : Option String :=
  match Text.cutLast ['.'] name.toList with
  | some (_, extension) => if '/' ∈ extension then none else some (String.ofList extension)
  | none => none

/-- The extensions for which content types have a default. -/
def Package.typedExtensions (types : String) : List String :=
  ((Xml.scan types).elements.filter (·.isNamed "Default")).filterMap (·.attribute? "Extension")

/-- The parts, each with a slash at its start, for which content types have an entry of their own. -/
def Package.typedParts (types : String) : List String :=
  ((Xml.scan types).elements.filter (·.isNamed "Override")).filterMap (·.attribute? "PartName")

namespace Deck

open Builtin (presentationPart masterPart presentationRelationships)
open Xml (document)

/-- Whether the values of an attribute in a part are ids of relationships of that part. -/
def RefersToOwn (package : Package) (part key : String) : Prop :=
  ∃ xml relationships, package.text part = .ok xml ∧ package.relationships part = .ok relationships ∧
    ∀ id ∈ (Xml.scan xml).elements.filterMap (·.attribute? key), id ∈ relationships.map (·.id)

/-- A package with these slides that holds together. -/
structure Intact (package : Package) (made : List Made) : Prop where
  /-- Every part with relationships belongs to a part or to the package, its ids are different, and
  its targets are there. -/
  relationships_resolve : ∀ name ∈ package.names, PartName.IsListing name →
    ∃ part relationships, name = PartName.relationshipsPart part ∧
      (part = "" ∨ part ∈ package.names) ∧ package.relationships part = .ok relationships ∧
      (relationships.map (·.id)).Nodup ∧
      ∀ r ∈ relationships, r.external = false ∧ PartName.resolve part r.target ∈ package.names
  presentation_refers : RefersToOwn package presentationPart "r:id"
  master_refers : RefersToOwn package masterPart "r:id"
  slides_refer : ∀ m ∈ made, RefersToOwn package m.part "r:embed"
  /-- Every part has a content type, and no entry for a part or an extension occurs twice. -/
  typed : ∃ types, package.text Package.contentTypesPart = .ok types ∧
    (Package.typedParts types).Nodup ∧ (Package.typedExtensions types).Nodup ∧
    ∀ name ∈ package.names, "/" ++ name ∈ Package.typedParts types ∨
      ∃ extension ∈ Package.typedExtensions types, PartName.extension? name = some extension
  /-- The list of slides has all slides in order, by their numbers and by relationships to them. -/
  listed : ∃ xml relationships entries, package.text presentationPart = .ok xml ∧
    package.relationships presentationPart = .ok relationships ∧
    Presentation.listedSlides? xml = some entries ∧
    List.Forall₂ (fun entry m => entry.1 = some (toString m.slide.id) ∧
      ∃ r ∈ relationships, entry.2 = some r.id ∧ r.type = Relationship.slide ∧
        PartName.resolve presentationPart r.target = m.part) entries made
  /-- The numbers follow each other, as far as numbers of 32 bits go. -/
  ids_eq : 256 + made.length ≤ 2 ^ 32 →
    made.map (·.slide.id) = List.range' 256 made.length
  slides_kept : ∀ m ∈ made, package.get? m.part = some (.text (Slide.sheet m.shapes))

/-! ## Extensions -/

/-- The extension of a part is what follows the last dot of its name. -/
theorem extension?_eq {name extension : String} (before : List Char)
    (hname : name.toList = before ++ '.' :: extension.toList) (hdot : '.' ∉ extension.toList)
    (hslash : '/' ∉ extension.toList) : PartName.extension? name = some extension := by
  rw [PartName.extension?, hname, Text.cutLast_of_not_mem before hdot]
  simp only [if_neg hslash, String.ofList_toList]

/-- Parts that list relationships have an extension of their own. -/
theorem extension?_relationshipsPart (part : String) :
    PartName.extension? (PartName.relationshipsPart part) = some "rels" := by
  have hlisting := PartName.isListing_relationshipsPart part
  rw [PartName.IsListing, List.isSuffixOf_iff_suffix] at hlisting
  obtain ⟨before, hname⟩ := hlisting
  exact extension?_eq before hname.symm (by decide) (by decide)

/-- Each built-in part has an extension that the template gives a type. -/
theorem extension?_builtin : ∀ name ∈ Builtin.parts.map (·.1),
    ∃ extension ∈ builtinTypes.filterMap TypeEntry.extension?,
      PartName.extension? name = some extension := by
  have hnamed : ∀ name ∈ Builtin.namedParts, ∃ extension ∈ builtinTypes.filterMap TypeEntry.extension?,
      PartName.extension? name = some extension := by
    decide
  intro name hname
  rcases Builtin.cases_of_mem_parts hname with hname | ⟨n, -, rfl | rfl⟩
  · exact hnamed name hname
  · refine ⟨"xml", by decide, extension?_eq ("ppt/slideLayouts/slideLayout" ++ toString n).toList ?_
      (by decide) (by decide)⟩
    rw [Builtin.toList_layoutPart]
    simp
  · exact ⟨"rels", by decide, extension?_relationshipsPart _⟩

/-- A media part has the extension of its format. -/
theorem extension?_media {m : Made} {name : String} (h : name ∈ m.media) :
    ∃ entry ∈ m.addition.media, PartName.extension? name = some entry.1.extension := by
  obtain ⟨n, entry, hentry, heq⟩ := Deck.exists_eq_of_mem_media _ _ h
  refine ⟨entry, hentry, extension?_eq (PartName.inFolderOf m.before.presentation
    ("media" ++ "/" ++ "image" ++ toString n)).toList ?_ ?_ ?_⟩
  · rw [heq, ← PartName.inFolderOf_append, ← PartName.inFolderOf_append]
    simp
  · cases entry.1 <;> decide
  · cases entry.1 <;> decide

/-! ## References of slides -/

/-- A slide embeds the images it has relationships to. -/
theorem embeds_shapes (m : Made) :
    m.shapes.flatMap Slide.Shape.embeds = (linksTo m.media).map (·.id) := by
  rw [Made.shapes, Made.media]
  cases m.addition with
  | title | text | list => rfl
  | image files layout heading path =>
    rw [Addition.shapes, Addition.media, Addition.picture?]
    cases Picture.load files path with
    | error fault => rfl
    | ok picture =>
      obtain ⟨format, pixels, contents⟩ := picture
      cases format <;> rfl

namespace Composed

variable {made : List Made} {types : List TypeEntry} {package : Package}

/-- The name of the presentation is carried whole. -/
theorem isCarried_before (h : Composed made types package) {m : Made} (hm : m ∈ made) :
    Xml.IsCarried m.before.presentation := by
  rw [h.before_eq m hm]
  decide

/-- It is a normal name. -/
theorem isNormal_before (h : Composed made types package) {m : Made} (hm : m ∈ made) :
    PartName.IsNormal m.before.presentation := by
  rw [h.before_eq m hm]
  decide

theorem layoutPart_mem (h : Composed made types package) {m : Made} (hm : m ∈ made) :
    m.layoutPart ∈ Builtin.layoutParts := List.mem_of_getElem? (h.layout_found m hm)

/-- The relationships of a slide are its links. -/
theorem relationships_eq_links (h : Composed made types package) {m : Made} (hm : m ∈ made) :
    package.relationships m.part = .ok m.links :=
  m.relationships_eq_links (h.isCarried_before hm)
    (Builtin.isCarried_layoutParts _ (h.layoutPart_mem hm)) (h.get?_owned m hm _ (.inl rfl))

/-- The part of a slide is the document of its shapes. -/
theorem get?_part (h : Composed made types package) {m : Made} (hm : m ∈ made) :
    package.get? m.part = some (.text (Slide.sheet m.shapes)) :=
  (h.get?_owned m hm _ (.inr List.mem_cons_self)).trans m.get?_part

/-- The parts of a slide are in the package. -/
theorem mem_names_of_owns (h : Composed made types package) {m : Made} (hm : m ∈ made) {name : String}
    (hname : m.Owns name) : name ∈ package.names := (h.mem_names_iff name).2 (.inr ⟨m, hm, hname⟩)

/-- The parts of the template are still there. -/
theorem mem_names_of_builtin (h : Composed made types package) {name : String}
    (hname : name ∈ Builtin.parts.map (·.1)) : name ∈ package.names :=
  (h.mem_names_iff name).2 (.inl (Builtin.mem_names.2 hname))

/-- The link of the presentation to a slide leads to its part. -/
theorem resolve_link (h : Composed made types package) {m : Made} (hm : m ∈ made) :
    PartName.resolve presentationPart m.link.target = m.part := by
  have hlink := m.resolve_link (h.isNormal_before hm)
  rwa [h.before_eq m hm] at hlink

/-- The targets written for a slide lead to the parts it refers to. -/
theorem resolve_target (h : Composed made types package) {m : Made} (hm : m ∈ made) {r : Relationship}
    (hr : r ∈ m.references) :
    PartName.resolve m.part (PartName.relative m.part r.target) = r.target :=
  m.resolve_target (h.isNormal_before hm) (Builtin.isNormal_layoutParts _ (h.layoutPart_mem hm)) hr

/-- The targets of a slide are in the package. -/
theorem target_mem_names (h : Composed made types package) {m : Made} (hm : m ∈ made)
    {r : Relationship} (hr : r ∈ m.links) : PartName.resolve m.part r.target ∈ package.names := by
  obtain ⟨reference, hreference, rfl⟩ := List.mem_map.1 hr
  show PartName.resolve m.part (PartName.relative m.part reference.target) ∈ package.names
  rw [h.resolve_target hm hreference]
  rcases List.mem_cons.1 hreference with rfl | hmedia
  · exact h.mem_names_of_builtin (Builtin.layoutParts_mem_names _ (h.layoutPart_mem hm))
  · exact h.mem_names_of_owns hm (.inr (List.mem_cons_of_mem _ (m.mem_media_of_mem_linksTo hmedia)))

/-- Every part that lists relationships lists those of a part that is there, and each of them leads to
one. -/
theorem relationships_resolve (h : Composed made types package) {name : String}
    (hname : name ∈ package.names) (hlisting : PartName.IsListing name) :
    ∃ part relationships, name = PartName.relationshipsPart part ∧
      (part = "" ∨ part ∈ package.names) ∧ package.relationships part = .ok relationships ∧
      (relationships.map (·.id)).Nodup ∧
      ∀ r ∈ relationships, r.external = false ∧ PartName.resolve part r.target ∈ package.names := by
  rcases (h.mem_names_iff name).1 hname with hbuiltin | ⟨m, hm, heq | hpart⟩
  · obtain ⟨owner, howner, rfl⟩ :=
      Builtin.exists_owner_of_isListing (Builtin.mem_names.1 hbuiltin) hlisting
    have hwhole := Builtin.owner_mem_names owner howner
    by_cases hpresentation : owner.1 = presentationPart
    · -- the relationships of the presentation have grown by those to the slides
      refine ⟨presentationPart, _, by rw [hpresentation], ?_, h.relationships_presentation,
        h.nodup_relationships, ?_⟩
      · exact .inr (h.mem_names_of_builtin (Builtin.mem_names.1 Builtin.presentationPart_mem_names))
      · intro r hr
        rcases List.mem_append.1 hr with hr | hr
        · exact ⟨Builtin.external_eq_false _ Builtin.presentation_mem_owners r hr,
            h.mem_names_of_builtin (Builtin.target_mem_names _ Builtin.presentation_mem_owners r hr)⟩
        · obtain ⟨m, hm, rfl⟩ := List.mem_map.1 hr
          refine ⟨rfl, ?_⟩
          rw [h.resolve_link hm]
          exact h.mem_names_of_owns hm (.inr List.mem_cons_self)
    · refine ⟨owner.1, owner.2, rfl, hwhole.imp_right h.mem_names_of_builtin,
        h.relationships_builtin howner hpresentation, Builtin.nodup_ids owner howner, ?_⟩
      exact fun r hr => ⟨Builtin.external_eq_false owner howner r hr,
        h.mem_names_of_builtin (Builtin.target_mem_names owner howner r hr)⟩
  · refine ⟨m.part, m.links, heq, .inr (h.mem_names_of_owns hm (.inr List.mem_cons_self)),
      h.relationships_eq_links hm, ?_, fun r hr => ⟨m.external_of_mem_links hr, h.target_mem_names hm hr⟩⟩
    rw [m.ids_links]
    exact Made.nodup_ids_linksTo m.media
  · exact absurd hlisting (m.not_isListing hpart)

/-- The presentation refers to relationships of its own only. -/
theorem presentation_refers (h : Composed made types package) :
    RefersToOwn package presentationPart "r:id" := by
  refine ⟨_, _, Package.text_eq_ok h.get?_presentation, h.relationships_presentation, ?_⟩
  rw [relationshipIds_presentationNode (isVerbatim_slides made), List.map_append, List.map_map,
    List.map_map]
  intro id hid
  rcases List.mem_cons.1 hid with rfl | hid
  · have hmaster : "rId1" ∈ presentationRelationships.map (·.id) := by decide
    exact List.mem_append_left _ hmaster
  · exact List.mem_append_right _ hid

/-- So does the master. -/
theorem master_refers (h : Composed made types package) : RefersToOwn package masterPart "r:id" := by
  have hpresentation : masterPart ≠ presentationPart := by decide
  have hlisting : masterPart ≠ PartName.relationshipsPart presentationPart := by decide
  have htypes : masterPart ≠ Package.contentTypesPart := by decide
  have hget := h.get?_builtin masterPart Builtin.masterPart_mem_names hpresentation hlisting htypes
  rw [Builtin.get?_masterPart] at hget
  have hids : ∀ id ∈ Builtin.layoutNumbers.map fun n => "rId" ++ toString n,
      id ∈ Builtin.masterRelationships.map (·.id) := by decide
  have hread := h.relationships_builtin Builtin.master_mem_owners hpresentation
  rw [← Builtin.masterIds] at hids
  exact ⟨Builtin.masterXml, Builtin.masterRelationships, Package.text_eq_ok hget, hread, hids⟩

/-- So does each slide. -/
theorem slides_refer (h : Composed made types package) {m : Made} (hm : m ∈ made) :
    RefersToOwn package m.part "r:embed" := by
  refine ⟨_, _, Package.text_eq_ok (h.get?_part hm), h.relationships_eq_links hm, ?_⟩
  rw [Slide.embeds_sheet, embeds_shapes, m.ids_links]
  intro id hid
  obtain ⟨image, himage, rfl⟩ := List.mem_map.1 hid
  obtain ⟨r, hr, rfl⟩ := List.mem_map.1 himage
  rw [Xml.carried_eq_self (Made.isCarried_of_mem_linksTo hr).1]
  exact List.mem_cons_of_mem _ (List.mem_map_of_mem hr)

/-- Every part has a content type, and none is given twice. -/
theorem typed (h : Composed made types package) :
    ∃ text, package.text Package.contentTypesPart = .ok text ∧
      (Package.typedParts text).Nodup ∧ (Package.typedExtensions text).Nodup ∧
      ∀ name ∈ package.names, "/" ++ name ∈ Package.typedParts text ∨
        ∃ extension ∈ Package.typedExtensions text, PartName.extension? name = some extension := by
  have hextensions : Package.typedExtensions (document (typesNode (builtinTypes ++ types)))
      = (builtinTypes ++ types).filterMap TypeEntry.extension? :=
    extensions_typesNode h.isVerbatim_types
  have hparts : Package.typedParts (document (typesNode (builtinTypes ++ types)))
      = ((builtinTypes ++ types).filterMap TypeEntry.part?).map ("/" ++ ·) := by
    rw [Package.typedParts, parts_typesNode h.isVerbatim_types, List.map_filterMap]
  have hown : (builtinTypes ++ types).filterMap TypeEntry.part?
      = builtinTypes.filterMap TypeEntry.part? ++ made.map Made.part := by
    rw [List.filterMap_append, h.parts_eq]
  refine ⟨_, Package.text_eq_ok h.get?_types, ?_, ?_, ?_⟩
  · have hinjective : Function.Injective (fun name : String => "/" ++ name) := fun a b hab => by
      simpa using hab
    have hbuiltin : (builtinTypes.filterMap TypeEntry.part?).Nodup := by decide
    have hmade : (made.map Made.part).Nodup := by
      refine List.pairwise_map.2 ((List.nodup_flatMap.1 h.nodup_parts).2.imp ?_)
      intro a b hdisjoint heq
      exact hdisjoint (a := a.part) List.mem_cons_self (heq ▸ List.mem_cons_self)
    have hheld : ∀ name ∈ builtinTypes.filterMap TypeEntry.part?, name ∈ Builtin.parts.map (·.1) := by
      decide
    rw [hparts, hown]
    refine (List.nodup_append.2 ⟨hbuiltin, hmade, ?_⟩).map hinjective
    rintro name hname _ hpart rfl
    obtain ⟨m, hm, rfl⟩ := List.mem_map.1 hpart
    exact h.new_parts m hm _ (.inr List.mem_cons_self) (Builtin.mem_names.2 (hheld _ hname))
  · rw [hextensions]
    exact h.nodup_extensions
  · -- slides have types of their own, all other parts by their extensions
    rw [hparts, hown, hextensions, List.filterMap_append]
    intro name hname
    rcases (h.mem_names_iff name).1 hname with hbuiltin | ⟨m, hm, rfl | hpart⟩
    · obtain ⟨extension, hmem, heq⟩ := extension?_builtin name (Builtin.mem_names.1 hbuiltin)
      exact .inr ⟨extension, List.mem_append_left _ hmem, heq⟩
    · have hrels : "rels" ∈ builtinTypes.filterMap TypeEntry.extension? := by decide
      exact .inr ⟨"rels", List.mem_append_left _ hrels, extension?_relationshipsPart m.part⟩
    · rcases List.mem_cons.1 hpart with rfl | hmedia
      · exact .inl (List.mem_map_of_mem (List.mem_append_right _ (List.mem_map_of_mem hm)))
      · obtain ⟨entry, hentry, heq⟩ := extension?_media hmedia
        exact .inr ⟨_, List.mem_append_right _ (h.media_typed m hm entry hentry), heq⟩

/-- The list of slides leads to the slides that were made, in their order. -/
theorem listed (h : Composed made types package) :
    ∃ xml relationships entries, package.text presentationPart = .ok xml ∧
      package.relationships presentationPart = .ok relationships ∧
      Presentation.listedSlides? xml = some entries ∧
      List.Forall₂ (fun entry m => entry.1 = some (toString m.slide.id) ∧
        ∃ r ∈ relationships, entry.2 = some r.id ∧ r.type = Relationship.slide ∧
          PartName.resolve presentationPart r.target = m.part) entries made := by
  refine ⟨_, _, _, Package.text_eq_ok h.get?_presentation, h.relationships_presentation,
    listedSlides?_presentationNode (isVerbatim_slides made), ?_⟩
  rw [List.map_map, List.forall₂_map_left_iff, List.forall₂_same]
  intro m hm
  exact ⟨rfl, m.link, List.mem_append_right _ (List.mem_map_of_mem hm), rfl, rfl, h.resolve_link hm⟩

/-- A package of the template and slides holds together. -/
theorem intact (h : Composed made types package) : Intact package made where
  relationships_resolve := fun _ hname hlisting => h.relationships_resolve hname hlisting
  presentation_refers := h.presentation_refers
  master_refers := h.master_refers
  slides_refer := fun _ hm => h.slides_refer hm
  typed := h.typed
  listed := h.listed
  ids_eq := h.ids_eq
  slides_kept := fun _ hm => h.get?_part hm

end Composed

end Deck

end SlideDeck
