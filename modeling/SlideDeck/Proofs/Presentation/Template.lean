import SlideDeck.Presentation.Deck
import SlideDeck.Proofs.Outcome
import SlideDeck.Proofs.Package.Carried
import SlideDeck.Proofs.Package.Parts

/-!
# What a deck takes from its template

`OpensAs` collects what is read from a package when it is opened as a template (`opensAs`). The parts
that are found by following relationships have normal names, without characters that documents cannot
carry if the targets have none.
-/

namespace SlideDeck

namespace Deck

/-- What is read from a package when it is opened as a template. -/
structure OpensAs (package : Package) (deck : Deck) : Prop where
  package_eq : deck.package = package
  presentation_found : ∃ relationships, package.relationships "" = .ok relationships ∧
    targetOf? "" Relationship.officeDocument relationships = some deck.presentation
  relationships_read : package.relationships deck.presentation = .ok deck.relationships
  layouts_read : ∃ master, targetOf? deck.presentation Relationship.slideMaster deck.relationships
    = some master ∧ masterLayouts package master = .ok deck.layouts
  layouts_ne_nil : deck.layouts ≠ []
  presentation_read : ∃ xml, package.text deck.presentation = .ok xml ∧
    deck.slideSize = sizeIn (Xml.scan xml).elements ∧
    deck.nextId = firstId (slideIdsIn (Xml.scan xml).elements)
  presentation_complete : ∀ xml, package.text deck.presentation = .ok xml →
    (Xml.scan xml).complete = true
  added_eq : deck.added = []
  mediaTypes_eq : deck.mediaTypes = []
  finalized_eq : deck.finalized = false

theorem ofPackage_ok {α : Type} (value : α) :
    ofPackage (.ok value : Except PackageFault α) = .ok value := rfl

/-- A value that a step of opening gives is that of the package. -/
theorem ofPackage_eq_ok {α : Type} {result : Except PackageFault α} {value : α}
    (h : ofPackage result = .ok value) : result = .ok value := by
  cases result with
  | ok found => rw [Except.ok.inj h]
  | error fault => cases h

/-- What is known of a deck that was made of a template. -/
theorem opensAs {package : Package} {deck : Deck} (h : ofTemplate package = .ok deck) :
    OpensAs package deck := by
  -- every step must have succeeded, and its result is what the deck has
  obtain ⟨packageRelationships, hpackage, h⟩ := exists_of_bind_eq_ok h
  match hmain : targetOf? "" Relationship.officeDocument packageRelationships, h with
  | none, h => cases h
  | some presentation, h =>
    obtain ⟨relationships, hrelationships, h⟩ := exists_of_bind_eq_ok h
    match hmaster : targetOf? presentation Relationship.slideMaster relationships, h with
    | none, h => cases h
    | some master, h =>
      obtain ⟨layouts, hlayouts, h⟩ := exists_of_bind_eq_ok h
      match hempty : layouts.isEmpty, h with
      | true, h => cases h
      | false, h =>
        obtain ⟨xml, hxml, h⟩ := exists_of_bind_eq_ok h
        cases hcomplete : (Xml.scan xml).complete with
        | false =>
          simp only [hcomplete, Bool.not_false, ite_true] at h
          cases h
        | true =>
          simp only [hcomplete, Bool.not_true, Bool.false_eq_true, ite_false] at h
          obtain rfl := Except.ok.inj h
          refine ⟨rfl, ⟨_, ofPackage_eq_ok hpackage, hmain⟩, ofPackage_eq_ok hrelationships,
            ⟨master, hmaster, hlayouts⟩, List.isEmpty_eq_false_iff.1 hempty, 
            ⟨xml, ofPackage_eq_ok hxml, rfl, rfl⟩, fun other hother => ?_, rfl, rfl, rfl⟩
          obtain rfl := Except.ok.inj ((ofPackage_eq_ok hxml).symm.trans hother)
          exact hcomplete

/-- A deck that is as a package would be opened is what opening it gives. -/
theorem OpensAs.ofTemplate_eq_ok {package : Package} {deck : Deck} (h : OpensAs package deck) :
    ofTemplate package = .ok deck := by
  obtain ⟨relationships, hpackage, hmain⟩ := h.presentation_found
  obtain ⟨master, hmaster, hlayouts⟩ := h.layouts_read
  obtain ⟨xml, hxml, hsize, hid⟩ := h.presentation_read
  have hcomplete := h.presentation_complete xml hxml
  have hempty : deck.layouts.isEmpty = false := List.isEmpty_eq_false_iff.2 h.layouts_ne_nil
  rw [ofTemplate, hpackage, ofPackage_ok, ok_bind]
  simp only [hmain]
  rw [h.relationships_read, ofPackage_ok, ok_bind]
  simp only [hmaster]
  rw [hlayouts, ok_bind, hempty, hxml, ofPackage_ok]
  simp only [Bool.false_eq_true, ite_false, ok_bind, hcomplete, Bool.not_true, ← hsize, ← hid]
  rw [← h.package_eq, ← h.added_eq, ← h.mediaTypes_eq, ← h.finalized_eq]

/-- A target of a type is that of a relationship of the type. -/
theorem targetOf?_eq_some {part type target : String} {relationships : List Relationship}
    (h : targetOf? part type relationships = some target) :
    ∃ r ∈ relationships, r.type = type ∧ target = PartName.resolve part r.target := by
  obtain ⟨r, hfind, rfl⟩ := Option.map_eq_some_iff.1 h
  have htype := List.find?_some hfind
  exact ⟨r, List.mem_of_find?_eq_some hfind, beq_iff_eq.1 htype, rfl⟩

/-- Each layout of a master is where one of its relationships leads. -/
theorem exists_of_mem_masterLayouts {package : Package} {master part : String} {layouts : List String}
    (h : masterLayouts package master = .ok layouts) (hpart : part ∈ layouts) :
    ∃ relationships, package.relationships master = .ok relationships ∧
      ∃ r ∈ relationships, part = PartName.resolve master r.target := by
  obtain ⟨relationships, hrelationships, h⟩ := exists_of_bind_eq_ok h
  obtain ⟨xml, -, h⟩ := exists_of_bind_eq_ok h
  obtain ⟨ids, -, h⟩ := exists_of_bind_eq_ok h
  obtain ⟨i, hi, rfl⟩ := List.getElem_of_mem hpart
  obtain ⟨hlength, hget⟩ := List.forall₂_iff_get.1 (forall₂_of_mapM_eq_ok h)
  have hlayout := hget i (hlength ▸ hi) hi
  refine ⟨relationships, ofPackage_eq_ok hrelationships, ?_⟩
  rw [layoutPart] at hlayout
  split at hlayout
  · next r hfind => exact ⟨r, List.mem_of_find?_eq_some hfind, (Except.ok.inj hlayout).symm⟩
  · cases hlayout

/-- A master whose layouts are read is a part of the package. -/
theorem mem_names_of_masterLayouts {package : Package} {master : String} {layouts : List String}
    (h : masterLayouts package master = .ok layouts) : master ∈ package.names := by
  obtain ⟨relationships, -, h⟩ := exists_of_bind_eq_ok h
  obtain ⟨xml, hxml, -⟩ := exists_of_bind_eq_ok h
  exact Package.mem_names_of_text_eq_ok (ofPackage_eq_ok hxml)

/-- Whether a document can carry the targets of all relationships of a package. -/
def HasCarriedTargets (package : Package) : Prop :=
  ∀ part relationships, package.relationships part = .ok relationships →
    ∀ r ∈ relationships, Xml.IsCarried r.target

namespace OpensAs

variable {package : Package} {deck : Deck}

/-- The presentation is a part of its template. -/
theorem presentation_mem_names (h : OpensAs package deck) : deck.presentation ∈ package.names := by
  obtain ⟨xml, hxml, -⟩ := h.presentation_read
  exact Package.mem_names_of_text_eq_ok hxml

/-- It has a normal name, as it was resolved. -/
theorem isNormal_presentation (h : OpensAs package deck) : PartName.IsNormal deck.presentation := by
  obtain ⟨relationships, -, hfound⟩ := h.presentation_found
  obtain ⟨r, -, -, heq⟩ := targetOf?_eq_some hfound
  rw [heq]
  exact PartName.isNormal_resolve _ _

/-- So have the layouts. -/
theorem isNormal_layout (h : OpensAs package deck) {part : String} (hpart : part ∈ deck.layouts) :
    PartName.IsNormal part := by
  obtain ⟨master, -, hlayouts⟩ := h.layouts_read
  obtain ⟨relationships, -, r, -, heq⟩ := exists_of_mem_masterLayouts hlayouts hpart
  rw [heq]
  exact PartName.isNormal_resolve _ _

/-- If the targets of the template are carried whole, the name of the presentation is. -/
theorem isCarried_presentation (h : OpensAs package deck) (hcarried : HasCarriedTargets package) :
    Xml.IsCarried deck.presentation := by
  obtain ⟨relationships, hread, hfound⟩ := h.presentation_found
  obtain ⟨r, hr, -, heq⟩ := targetOf?_eq_some hfound
  rw [heq]
  refine PartName.isCarried_resolve (fun c hc => ?_) (hcarried _ _ hread r hr)
  exact absurd hc List.not_mem_nil

/-- So are the names of the layouts. -/
theorem isCarried_layout (h : OpensAs package deck) (hcarried : HasCarriedTargets package)
    {part : String} (hpart : part ∈ deck.layouts) : Xml.IsCarried part := by
  obtain ⟨master, hmaster, hlayouts⟩ := h.layouts_read
  obtain ⟨s, hs, -, hsource⟩ := targetOf?_eq_some hmaster
  obtain ⟨relationships, hread, r, hr, heq⟩ := exists_of_mem_masterLayouts hlayouts hpart
  have hpresentation := h.isCarried_presentation hcarried
  rw [heq, hsource]
  refine PartName.isCarried_resolve ?_ (hcarried _ _ hread r hr)
  exact PartName.isCarried_resolve hpresentation (hcarried _ _ h.relationships_read s hs)

end OpensAs

end Deck

end SlideDeck
