import SlideDeck.Proofs.Presentation.Composed
import SlideDeck.Proofs.Presentation.MediaTypes

/-!
# A round of additions

A deck that was opened from a package of the template and slides gives, once further slides are entered,
the package of the template and all these slides (`Ongoing.composed_entered`).
-/

namespace SlideDeck.Deck

open Builtin (presentationPart presentationRelationships)
open Xml (document)

/-! ## The entries that are inserted -/

/-- The entries for the content types: the formats of new media and the added slides. -/
def newTypes (record : Record) (known : List String) : List TypeEntry :=
  ((record.deck.mediaTypes.filter fun held => !known.contains held.1).map fun held =>
    .default held.1 held.2) ++
  record.made.map fun m => .override m.part slideType

/-- The entries that are put in are those of the slides that were made. -/
theorem slideEntries_eq {record : Record} (h : record.deck.added = record.made.map Made.slide) :
    record.deck.slideEntries = Xml.allChars ((record.made.map Made.slide).map Added.entry) := by
  rw [slideEntries, h]
  rfl

/-- The types that are appended are the new ones. -/
theorem typeEntries_eq {record : Record} (h : record.deck.added = record.made.map Made.slide)
    (known : List String) :
    record.deck.typeEntries known = Xml.allChars ((newTypes record known).map TypeEntry.node) := by
  rw [typeEntries, h, newTypes, List.map_append, List.map_map, List.map_map, List.map_map]
  rfl

/-- Slides are entered if each of the three documents can be changed. -/
theorem register_of_eq_ok {deck : Deck} {xml types : String} {listed extended : List Char}
    {known : List String} (hxml : deck.package.text deck.presentation = .ok xml)
    (hlisted : Presentation.insertEntries xml.toList deck.slideEntries = .ok listed)
    (htypes : ((deck.package.insertText deck.presentation (String.ofList listed)).insertText
      (PartName.relationshipsPart deck.presentation) (Relationship.listXml deck.relationships)).text
        Package.contentTypesPart = .ok types)
    (hknown : Presentation.knownExtensions types = .ok known)
    (hextended : Presentation.appendTypes types.toList (deck.typeEntries known) = .ok extended) :
    deck.register = .ok (((deck.package.insertText deck.presentation (String.ofList listed)).insertText
      (PartName.relationshipsPart deck.presentation) (Relationship.listXml deck.relationships)).insertText
        Package.contentTypesPart (String.ofList extended)) := by
  rw [register, hxml, ofPackageEntry, ok_bind, hlisted, ok_bind]
  simp only [htypes, ofPackageEntry, ok_bind, hknown, hextended]
  rfl

/-- Extensions of images need no escaping. -/
theorem isVerbatim_extension (format : Picture.Format) : Xml.IsVerbatim format.extension := by
  cases format <;> decide

/-- Nor do their types. -/
theorem isVerbatim_contentType (format : Picture.Format) : Xml.IsVerbatim format.contentType := by
  cases format <;> decide

/-- Extensions of images are in lowercase. -/
theorem lowercase_extension (format : Picture.Format) :
    String.ofList (Text.lowercase format.extension.toList) = format.extension := by
  cases format <;> decide

/-- None of them has a type in the template. -/
theorem extension_not_builtin (format : Picture.Format) :
    format.extension ∉ builtinTypes.filterMap TypeEntry.extension? := by
  cases format <;> decide

/-- The extensions with types in the template are in lowercase. -/
theorem lowercase_builtin : ∀ extension ∈ builtinTypes.filterMap TypeEntry.extension?,
    String.ofList (Text.lowercase extension.toList) = extension := by
  decide +kernel

/-- Types of presentation parts need no escaping if their last words do not. -/
theorem isVerbatim_presentationType {name : String} (h : Xml.IsVerbatim name) :
    Xml.IsVerbatim (Builtin.presentationType name) :=
  .append (.append (by decide) h) (by decide)

/-- The types of the built-in parts need none. -/
theorem isVerbatim_ownTypes : ∀ own ∈ Builtin.ownTypes,
    Xml.IsVerbatim own.1 ∧ Xml.IsVerbatim own.2 := by
  intro own hown
  rcases List.mem_append.1 hown with hown | hown
  · simp only [List.mem_cons, List.not_mem_nil, or_false] at hown
    rcases hown with rfl | rfl | rfl | rfl | rfl | rfl
    · exact ⟨by decide, isVerbatim_presentationType (by decide)⟩
    · exact ⟨by decide, isVerbatim_presentationType (by decide)⟩
    · exact ⟨by decide, isVerbatim_presentationType (by decide)⟩
    · exact ⟨by decide, by decide⟩
    · exact ⟨by decide, by decide⟩
    · exact ⟨by decide, by decide⟩
  · obtain ⟨n, -, rfl⟩ := List.mem_map.1 hown
    exact ⟨.append (.append (by decide) (Xml.isVerbatim_toString n)) (by decide),
      isVerbatim_presentationType (by decide)⟩

/-- So the built-in content types need none. -/
theorem isVerbatim_builtinTypes : ∀ entry ∈ builtinTypes, entry.IsVerbatim := by
  intro entry hentry
  rcases List.mem_append.1 hentry with hentry | hentry
  · simp only [List.mem_cons, List.not_mem_nil, or_false] at hentry
    rcases hentry with rfl | rfl <;> decide
  · obtain ⟨own, hown, rfl⟩ := List.mem_map.1 hentry
    exact isVerbatim_ownTypes own hown

namespace Composed

variable {made : List Made} {types : List TypeEntry} {package : Package}

/-- Nor do all types of a package that was made. -/
theorem isVerbatim_types (h : Composed made types package) :
    ∀ entry ∈ builtinTypes ++ types, entry.IsVerbatim := fun entry hentry =>
  (List.mem_append.1 hentry).elim (isVerbatim_builtinTypes entry) (h.types_verbatim entry)

/-- All extensions with a type are in lowercase. -/
theorem knownExtensions_eq (h : Composed made types package) :
    Presentation.knownExtensions (document (typesNode (builtinTypes ++ types)))
      = .ok ((builtinTypes ++ types).filterMap TypeEntry.extension?) := by
  rw [knownExtensions_typesNode h.isVerbatim_types]
  refine congrArg Except.ok ?_
  conv_rhs => rw [← List.map_id ((builtinTypes ++ types).filterMap TypeEntry.extension?)]
  refine List.map_congr_left fun extension hextension => ?_
  -- the extensions of the template and those of media are written in lowercase
  rw [List.filterMap_append, List.mem_append] at hextension
  rcases hextension with hbuiltin | htypes
  · exact lowercase_builtin extension hbuiltin
  · obtain ⟨format, rfl⟩ := h.extensions_from extension htypes
    exact lowercase_extension format

/-- As long as the numbers of the slides and the next one fit into 32 bits, that one follows them. -/
theorem toNat_firstId (h : Composed made types package) (hfit : 256 + made.length < 2 ^ 32) :
    (firstId (slideIdsIn (Xml.scan (document (presentationNode (made.map Made.slide)))).elements)).toNat
      = 256 + made.length := by
  have hids : (made.map Made.slide).map (fun slide => UInt32.ofNat slide.id)
      = (List.range' 256 made.length).map UInt32.ofNat := by
    rw [← h.ids_eq (Nat.le_of_lt hfit), List.map_map, List.map_map]
    rfl
  have hsmall : ∀ slide ∈ made.map Made.slide, slide.id < 2 ^ 32 := by
    intro slide hslide
    obtain ⟨m, -, rfl⟩ := List.mem_map.1 hslide
    exact m.before.nextId.toNat_lt
  rw [slideIdsIn_presentationNode (isVerbatim_slides made) hsmall, hids, toNat_firstId_range' hfit]

/-- The parts of the template are all there. -/
theorem builtin_mem_names (h : Composed made types package) {name : String}
    (hname : name ∈ Builtin.package.names) : name ∈ package.names :=
  (h.mem_names_iff name).2 (.inl hname)

end Composed

/-- A record of slides on a package that was opened from the template and earlier slides. -/
structure Ongoing (made : List Made) (types : List TypeEntry) (package : Package) (start : Deck)
    (record : Record) : Prop where
  composed : Composed made types package
  package_eq : start.package = package
  presentation_eq : start.presentation = presentationPart
  layouts_eq : start.layouts = Builtin.layoutParts
  relationships_eq : start.relationships = presentationRelationships ++ made.map Made.link
  nextId_eq : start.nextId = firstId (slideIdsIn
    (Xml.scan (document (presentationNode (made.map Made.slide)))).elements)
  added_eq : start.added = []
  grown : Grown start record
  typed : Typed record

/-- A deck that was opened from a package of the template and slides. -/
theorem Composed.ongoing {made : List Made} {types : List TypeEntry} {package : Package} {start : Deck}
    (h : Composed made types package) (hstart : ofTemplate package = .ok start) :
    Ongoing made types package start (Record.start start) := by
  obtain ⟨opened, hopened, hpresentation, hlayouts, hrelationships, hnext⟩ := h.exists_ofTemplate_eq_ok
  obtain rfl := Except.ok.inj (hopened.symm.trans hstart)
  have hopens := opensAs hstart
  exact ⟨h, hopens.package_eq, hpresentation, hlayouts, hrelationships, hnext, hopens.added_eq,
    grown_start opened, typed_start hopens.mediaTypes_eq⟩

namespace Ongoing

variable {made : List Made} {types : List TypeEntry} {package : Package} {start : Deck}
  {record : Record}

/-- The parts of new slides, their relationships included, are new. -/
theorem not_mem_names (h : Ongoing made types package start record) {m : Made} (hm : m ∈ record.made)
    {name : String} (hname : m.Owns name) : name ∉ package.names := by
  have hpart : m.part ∉ package.names := by
    rw [← h.package_eq]
    exact h.grown.new_parts _ (List.mem_flatMap.2 ⟨m, hm, List.mem_cons_self⟩)
  rcases hname with rfl | hname
  · intro hmem
    rcases (h.composed.mem_names_iff _).1 hmem with hbuiltin | ⟨earlier, hearlier, howns⟩
    · -- the only listings of the template are those of its own parts
      obtain ⟨owner, howner, heq⟩ := Builtin.exists_owner_of_isListing (Builtin.mem_names.1 hbuiltin)
        (PartName.isListing_relationshipsPart _)
      have hsame := PartName.relationshipsPart_injective heq
      rcases Builtin.owner_mem_names owner howner with hempty | hnames
      · have hlast := m.getLast?_part
        rw [hsame, hempty] at hlast
        cases hlast
      · rw [hsame] at hpart
        exact hpart (h.composed.builtin_mem_names (Builtin.mem_names.2 hnames))
    · rcases howns with heq | hpart'
      · rw [PartName.relationshipsPart_injective heq] at hpart
        exact hpart ((h.composed.mem_names_iff _).2 (.inr ⟨earlier, hearlier, .inr List.mem_cons_self⟩))
      · exact earlier.ne_relationshipsPart hpart' _ rfl
  · rw [← h.package_eq]
    exact h.grown.new_parts _ (List.mem_flatMap.2 ⟨m, hm, hname⟩)

/-- Whatever is added, and whichever additions fail. -/
theorem addAll (h : Ongoing made types package start record) (additions : List Addition) :
    Ongoing made types package start (record.addAll additions) :=
  Record.addAll_induction h
    (fun _ a h hlayout => { h with grown := h.grown.next hlayout, typed := h.typed.next a }) additions

/-! ## Entering the slides -/

/-- The slides to be entered are those that were made. -/
theorem added_eq_map (h : Ongoing made types package start record) :
    record.deck.added = record.made.map Made.slide := by
  rw [h.grown.added_eq, h.added_eq, List.nil_append]

/-- What is not a part of a new slide is as it was. -/
theorem get?_of_mem_names (h : Ongoing made types package start record) {name : String}
    (hname : name ∈ package.names) : record.deck.package.get? name = package.get? name := by
  rw [← h.package_eq]
  exact h.grown.get?_of_not_owned name fun m hm howns => h.not_mem_names hm howns hname

/-- The types that are new among those of the deck. -/
def types' (record : Record) (types : List TypeEntry) : List TypeEntry :=
  newTypes record ((builtinTypes ++ types).filterMap TypeEntry.extension?)

/-- The package with the new slides entered. -/
def entered (record : Record) (made : List Made) (types : List TypeEntry) : Package :=
  ((record.deck.package.insertText presentationPart
      (document (presentationNode (made.map Made.slide ++ record.made.map Made.slide)))).insertText
    (PartName.relationshipsPart presentationPart)
    (Relationship.listXml record.deck.relationships)).insertText Package.contentTypesPart
    (document (typesNode (builtinTypes ++ types ++ types' record types)))

/-- Entering the slides gives the package with them entered. -/
theorem register_eq_ok (h : Ongoing made types package start record) :
    record.deck.register = .ok (entered record made types) := by
  have hpresentation : record.deck.presentation = presentationPart :=
    h.grown.presentation_eq.trans h.presentation_eq
  have hlisting : Package.contentTypesPart ≠ PartName.relationshipsPart presentationPart := by
    decide
  have hpart : Package.contentTypesPart ≠ presentationPart := by decide
  have hget : record.deck.package.get? presentationPart = package.get? presentationPart :=
    h.get?_of_mem_names (Package.contains_eq_true_iff.1
      (Package.contains_of_get? h.composed.get?_presentation))
  have htypes : record.deck.package.get? Package.contentTypesPart
      = package.get? Package.contentTypesPart :=
    h.get?_of_mem_names (Package.contains_eq_true_iff.1 (Package.contains_of_get? h.composed.get?_types))
  have hinsert := insertEntries_presentation (record.made.map Made.slide)
    (Composed.isVerbatim_slides made)
  have happend := appendTypes_document (builtinTypes ++ types) (types' record types)
  rw [types', ← typeEntries_eq h.added_eq_map] at happend
  rw [← slideEntries_eq h.added_eq_map] at hinsert
  have hxml : record.deck.package.text record.deck.presentation
      = .ok (document (presentationNode (made.map Made.slide))) :=
    hpresentation ▸ Package.text_eq_ok (hget.trans h.composed.get?_presentation)
  -- the content types are read behind two changes to other parts
  rw [register_of_eq_ok hxml hinsert ?_ h.composed.knownExtensions_eq happend, hpresentation,
    String.ofList_toList, String.ofList_toList, entered, types']
  refine Package.text_eq_ok ?_
  rw [hpresentation, Package.get?_insertText_of_ne _ hlisting, Package.get?_insertText_of_ne _ hpart,
    htypes, h.composed.get?_types]

/-! ## What is entered -/

/-- New types are given to the extensions of images that have none yet. -/
theorem extensions_types' (record : Record) (types : List TypeEntry) :
    (types' record types).filterMap TypeEntry.extension?
      = (record.deck.mediaTypes.filter fun held =>
          !((builtinTypes ++ types).filterMap TypeEntry.extension?).contains held.1).map (·.1) := by
  have hmade : (record.made.map fun m => TypeEntry.override m.part slideType).filterMap
      TypeEntry.extension? = [] := by
    rw [List.filterMap_map, List.filterMap_eq_nil_iff]
    exact fun _ _ => rfl
  rw [types', newTypes, List.filterMap_append, hmade, List.append_nil, List.filterMap_map, ← List.filterMap_eq_map]
  rfl

/-- The extensions that get a type are those of media that had none. -/
theorem mem_extensions_types' {extension : String} :
    extension ∈ (types' record types).filterMap TypeEntry.extension? ↔
      (∃ held ∈ record.deck.mediaTypes, held.1 = extension) ∧
        extension ∉ (builtinTypes ++ types).filterMap TypeEntry.extension? := by
  rw [extensions_types', List.mem_map]
  simp only [List.mem_filter, Bool.not_eq_true', List.contains_eq_mem, decide_eq_false_iff_not]
  constructor
  · rintro ⟨held, ⟨hheld, hunknown⟩, rfl⟩
    exact ⟨⟨held, hheld, rfl⟩, hunknown⟩
  · rintro ⟨⟨held, hheld, rfl⟩, hunknown⟩
    exact ⟨held, ⟨hheld, hunknown⟩, rfl⟩

/-- A type of its own is given to each new slide. -/
theorem parts_types' (record : Record) (types : List TypeEntry) :
    (types' record types).filterMap TypeEntry.part? = record.made.map Made.part := by
  have hmedia : ∀ table : List (String × String),
      (table.map fun held => TypeEntry.default held.1 held.2).filterMap TypeEntry.part? = [] := by
    intro table
    rw [List.filterMap_map, List.filterMap_eq_nil_iff]
    exact fun _ _ => rfl
  rw [types', newTypes, List.filterMap_append, hmedia, List.nil_append, List.filterMap_map, ← List.filterMap_eq_map]
  rfl

/-- The parts of the package are those of the template and of all slides. -/
theorem mem_names_entered (h : Ongoing made types package start record) {name : String} :
    name ∈ (entered record made types).names ↔
      name ∈ Builtin.package.names ∨ ∃ m ∈ made ++ record.made, m.Owns name := by
  have hdeck : name ∈ record.deck.package.names ↔
      name ∈ Builtin.package.names ∨ ∃ m ∈ made ++ record.made, m.Owns name := by
    rw [h.grown.mem_names_iff, h.package_eq, h.composed.mem_names_iff]
    simp only [List.mem_append, or_and_right, exists_or, or_assoc]
  rw [entered, Package.mem_names_insertText, Package.mem_names_insertText,
    Package.mem_names_insertText, hdeck]
  refine ⟨?_, fun hname => .inr (.inr (.inr hname))⟩
  rintro (rfl | rfl | rfl | hname)
  · exact .inl Builtin.contentTypesPart_mem_names
  · exact .inl Builtin.presentationListing_mem_names
  · exact .inl Builtin.presentationPart_mem_names
  · exact hname

/-- Apart from the three documents, all parts of the deck are in the package as they are. -/
theorem get?_entered {name : String} (hpresentation : name ≠ presentationPart)
    (hlisting : name ≠ PartName.relationshipsPart presentationPart)
    (htypes : name ≠ Package.contentTypesPart) :
    (entered record made types).get? name = record.deck.package.get? name := by
  rw [entered, Package.get?_insertText_of_ne _ htypes, Package.get?_insertText_of_ne _ hlisting,
    Package.get?_insertText_of_ne _ hpresentation]

/-- A new type is that of an image format or of a slide. -/
theorem mem_types' {entry : TypeEntry} (hentry : entry ∈ types' record types) :
    (∃ held ∈ record.deck.mediaTypes, entry = .default held.1 held.2) ∨
      ∃ m ∈ record.made, entry = .override m.part slideType := by
  rcases List.mem_append.1 hentry with hentry | hentry
  · obtain ⟨held, hheld, rfl⟩ := List.mem_map.1 hentry
    exact .inl ⟨held, List.mem_of_mem_filter hheld, rfl⟩
  · obtain ⟨m, hm, rfl⟩ := List.mem_map.1 hentry
    exact .inr ⟨m, hm, rfl⟩

/-- All slides are made on the same presentation. -/
theorem before_presentation (h : Ongoing made types package start record) :
    ∀ m ∈ made ++ record.made, m.before.presentation = presentationPart := by
  intro m hm
  rcases List.mem_append.1 hm with hm | hm
  · exact h.composed.before_eq m hm
  · rw [(h.grown.before_eq m hm).1, h.presentation_eq]

/-- No part of a slide is one of the template. -/
theorem not_builtin (h : Ongoing made types package start record) :
    ∀ m ∈ made ++ record.made, ∀ name, m.Owns name → name ∉ Builtin.package.names := by
  intro m hm name hname
  rcases List.mem_append.1 hm with hm | hm
  · exact h.composed.new_parts m hm name hname
  · exact fun hmem => h.not_mem_names hm hname (h.composed.builtin_mem_names hmem)

/-- The parts of all slides are in the package as they were made. -/
theorem get?_entered_of_owns (h : Ongoing made types package start record) {m : Made}
    (hm : m ∈ made ++ record.made) {name : String} (hname : m.Owns name) :
    (entered record made types).get? name = m.after.package.get? name := by
  have hbuiltin := h.not_builtin m hm name hname
  have hother : ∀ {other : String}, other ∈ Builtin.package.names → name ≠ other :=
    fun hmem heq => hbuiltin (heq ▸ hmem)
  rw [get?_entered (hother Builtin.presentationPart_mem_names)
    (hother Builtin.presentationListing_mem_names) (hother Builtin.contentTypesPart_mem_names)]
  rcases List.mem_append.1 hm with hm | hm
  · rw [h.get?_of_mem_names ((h.composed.mem_names_iff name).2 (.inr ⟨m, hm, hname⟩)),
      h.composed.get?_owned m hm name hname]
  · exact h.grown.get?_of_owned m hm name hname

/-- As long as they fit into 32 bits, the numbers of all slides follow each other. -/
theorem ids_eq (h : Ongoing made types package start record)
    (hfit : 256 + (made ++ record.made).length ≤ 2 ^ 32) :
    (made ++ record.made).map (·.slide.id) = List.range' 256 (made ++ record.made).length := by
  rw [List.length_append] at hfit ⊢
  have hearlier := h.composed.ids_eq (by omega)
  cases hnone : record.made with
  | nil => rw [List.append_nil, hearlier, List.length_nil, Nat.add_zero]
  | cons m rest =>
    -- there is a new slide, so that the first of its numbers has 32 bits
    rw [← hnone]
    have hlength : 0 < record.made.length := by rw [hnone]; exact Nat.succ_pos _
    have hnext : start.nextId.toNat = 256 + made.length := by
      rw [h.nextId_eq, h.composed.toNat_firstId (by omega)]
    rw [List.map_append, hearlier, h.grown.ids_eq_range' (by omega), hnext]
    exact List.range'_append_1 ..

/-- The package with the new slides is made of the template and all slides. -/
theorem composed_entered (h : Ongoing made types package start record) :
    Composed (made ++ record.made) (types ++ types' record types) (entered record made types) where
  mem_names_iff := fun _ => h.mem_names_entered
  get?_presentation := by
    have hlisting : presentationPart ≠ PartName.relationshipsPart presentationPart := by
      decide
    have htypes : presentationPart ≠ Package.contentTypesPart := by decide
    rw [entered, Package.get?_insertText_of_ne _ htypes, Package.get?_insertText_of_ne _ hlisting,
      Package.get?_insertText_self, List.map_append]
  get?_relationships := by
    have htypes : PartName.relationshipsPart presentationPart ≠ Package.contentTypesPart := by
      decide
    rw [entered, Package.get?_insertText_of_ne _ htypes, Package.get?_insertText_self,
      h.grown.relationships_eq, h.relationships_eq, List.map_append, List.append_assoc]
  get?_types := by
    rw [entered, Package.get?_insertText_self, List.append_assoc]
  get?_builtin := by
    intro name hname hpresentation hlisting htypes
    rw [get?_entered hpresentation hlisting htypes,
      h.get?_of_mem_names (h.composed.builtin_mem_names hname),
      h.composed.get?_builtin name hname hpresentation hlisting htypes]
  get?_owned := fun _ hm _ hname => h.get?_entered_of_owns hm hname
  before_eq := h.before_presentation
  layout_found := by
    intro m hm
    rcases List.mem_append.1 hm with hm | hm
    · exact h.composed.layout_found m hm
    · rw [← h.layouts_eq]
      exact h.grown.layout_found m hm
  nodup_relationships := by
    have hsplit : (presentationRelationships ++ (made ++ record.made).map Made.link).map (·.id)
        = start.relationships.map (·.id) ++ record.made.map (·.slide.relationship) := by
      rw [h.relationships_eq]
      simp only [List.map_append, List.map_map, List.append_assoc]
      rfl
    rw [hsplit, List.nodup_append]
    refine ⟨?_, h.grown.nodup_relationships, ?_⟩
    · rw [h.relationships_eq]
      exact h.composed.nodup_relationships
    · intro id hid other hother heq
      obtain ⟨r, hr, rfl⟩ := List.mem_map.1 hid
      obtain ⟨m, hm, rfl⟩ := List.mem_map.1 hother
      exact h.grown.new_relationships m hm r hr heq.symm
  nodup_parts := by
    rw [List.flatMap_append, List.nodup_append]
    refine ⟨h.composed.nodup_parts, h.grown.nodup_parts, ?_⟩
    rintro name hearlier _ hnew rfl
    obtain ⟨m, hm, hname⟩ := List.mem_flatMap.1 hearlier
    obtain ⟨m', hm', hname'⟩ := List.mem_flatMap.1 hnew
    exact h.not_mem_names hm' (.inr hname')
      ((h.composed.mem_names_iff name).2 (.inr ⟨m, hm, .inr hname⟩))
  new_parts := h.not_builtin
  types_verbatim := by
    intro entry hentry
    rcases List.mem_append.1 hentry with hentry | hentry
    · exact h.composed.types_verbatim entry hentry
    · rcases mem_types' hentry with ⟨held, hheld, rfl⟩ | ⟨m, hm, rfl⟩
      · obtain ⟨format, rfl⟩ := h.typed.exists_format held hheld
        exact ⟨isVerbatim_extension format, isVerbatim_contentType format⟩
      · have htype : Xml.IsVerbatim slideType := by decide
        exact ⟨Made.isVerbatim_part (h.before_presentation m (List.mem_append_right _ hm)), htype⟩
  nodup_extensions := by
    rw [← List.append_assoc, List.filterMap_append, extensions_types', List.nodup_append]
    refine ⟨h.composed.nodup_extensions, ?_, ?_⟩
    · exact h.typed.sorted.nodup_keys.sublist (List.filter_sublist.map _)
    · rintro extension hknown _ hnew rfl
      rw [← extensions_types', mem_extensions_types'] at hnew
      exact hnew.2 hknown
  extensions_from := by
    intro extension hextension
    rw [List.filterMap_append, List.mem_append] at hextension
    rcases hextension with hextension | hextension
    · exact h.composed.extensions_from extension hextension
    · obtain ⟨⟨held, hheld, rfl⟩, -⟩ := mem_extensions_types'.1 hextension
      obtain ⟨format, rfl⟩ := h.typed.exists_format held hheld
      exact ⟨format, rfl⟩
  parts_eq := by
    rw [List.filterMap_append, h.composed.parts_eq, parts_types', List.map_append]
  media_typed := by
    intro m hm entry hentry
    rw [List.filterMap_append, List.mem_append]
    rcases List.mem_append.1 hm with hm | hm
    · exact .inl (h.composed.media_typed m hm entry hentry)
    · -- the extension had a type before, or is given one now
      obtain ⟨held, hheld, heq⟩ := List.mem_map.1 (h.typed.mem_mediaTypes m hm entry hentry)
      by_cases hknown :
          entry.1.extension ∈ (builtinTypes ++ types).filterMap TypeEntry.extension?
      · rw [List.filterMap_append, List.mem_append] at hknown
        exact .inl (hknown.resolve_left (extension_not_builtin entry.1))
      · exact .inr (mem_extensions_types'.2 ⟨⟨held, hheld, heq⟩, hknown⟩)
  ids_eq := h.ids_eq

end Ongoing

end SlideDeck.Deck
