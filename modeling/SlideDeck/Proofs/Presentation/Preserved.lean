import SlideDeck.Proofs.Presentation.Round

/-!
# What is left of a template

Entering slides rewrites three documents of a package and adds parts with new names. Whatever the
template, all of its other parts are kept as they are, but for relationships that are left over from a
slide that is gone, and the relationships of the presentation are read back with those to the new slides
behind them (`preserved_of_register`).
-/

namespace SlideDeck.Deck

open PartName (relationshipsPart)

/-! ## Entering slides -/

/-- A result that is good in the terms of the presentation was good in those of the package. -/
theorem ofPackageEntry_eq_ok {α : Type} {result : Except PackageFault α} {value : α}
    (h : ofPackageEntry result = .ok value) : result = .ok value := by
  cases result with
  | ok found => rw [Except.ok.inj h]
  | error fault => cases h

/-- What has happened when slides were entered into a package. -/
theorem entered_of_register {deck : Deck} {entered : Package} (h : deck.register = .ok entered) :
    ∃ xml listed types known extended, deck.package.text deck.presentation = .ok xml ∧
      Presentation.insertEntries xml.toList deck.slideEntries = .ok listed ∧
      ((deck.package.insertText deck.presentation (String.ofList listed)).insertText
        (relationshipsPart deck.presentation) (Relationship.listXml deck.relationships)).text
          Package.contentTypesPart = .ok types ∧
      Presentation.knownExtensions types = .ok known ∧
      Presentation.appendTypes types.toList (deck.typeEntries known) = .ok extended ∧
      entered = ((deck.package.insertText deck.presentation (String.ofList listed)).insertText
        (relationshipsPart deck.presentation) (Relationship.listXml deck.relationships)).insertText
          Package.contentTypesPart (String.ofList extended) := by
  obtain ⟨xml, hxml, h⟩ := exists_of_bind_eq_ok h
  obtain ⟨listed, hlisted, h⟩ := exists_of_bind_eq_ok h
  obtain ⟨types, htypes, h⟩ := exists_of_bind_eq_ok h
  obtain ⟨known, hknown, h⟩ := exists_of_bind_eq_ok h
  obtain ⟨extended, hextended, h⟩ := exists_of_bind_eq_ok h
  exact ⟨xml, listed, types, known, extended, ofPackageEntry_eq_ok hxml, hlisted,
    ofPackageEntry_eq_ok htypes, hknown, hextended, (Except.ok.inj h).symm⟩

/-- All but the three documents are as they were. -/
theorem get?_of_register {deck : Deck} {entered : Package} (h : deck.register = .ok entered)
    {name : String} (hpresentation : name ≠ deck.presentation)
    (hlisting : name ≠ relationshipsPart deck.presentation)
    (htypes : name ≠ Package.contentTypesPart) : entered.get? name = deck.package.get? name := by
  obtain ⟨xml, listed, types, known, extended, -, -, -, -, -, rfl⟩ := entered_of_register h
  rw [Package.get?_insertText_of_ne _ htypes, Package.get?_insertText_of_ne _ hlisting,
    Package.get?_insertText_of_ne _ hpresentation]

/-- The relationships of the presentation are those of the deck. -/
theorem text_of_register {deck : Deck} {entered : Package} (h : deck.register = .ok entered) :
    entered.text (relationshipsPart deck.presentation)
      = .ok (Relationship.listXml deck.relationships) := by
  obtain ⟨xml, listed, types, known, extended, -, -, -, -, -, rfl⟩ := entered_of_register h
  -- a part of relationships does not end as the part of content types does
  have htypes : relationshipsPart deck.presentation ≠ Package.contentTypesPart := by
    intro heq
    have hlast := PartName.getLast?_relationshipsPart deck.presentation
    rw [heq] at hlast
    exact absurd hlast (by decide)
  apply Package.text_eq_ok
  rw [Package.get?_insertText_of_ne _ htypes, Package.get?_insertText_self]

/-! ## Templates -/

/-- Whether a part lists the relationships of a slide that a package does not have. -/
def IsLeftover (package : Package) (presentation name : String) : Prop :=
  ∃ n : Nat,
    let slide := PartName.inFolderOf presentation ("slides/slide" ++ toString n ++ ".xml")
    slide ∉ package.names ∧ name = relationshipsPart slide

/-- How a package with the slides of a record stands to the template of its deck. -/
structure Preserved (template : Package) (start : Deck) (record : Record) (entered : Package) :
    Prop where
  part_kept : ∀ name contents, template.get? name = some contents → name ≠ start.presentation →
    name ≠ relationshipsPart start.presentation → name ≠ Package.contentTypesPart →
      ¬ IsLeftover template start.presentation name → entered.get? name = some contents
  relationships_read : ∃ listed xml links, template.relationships start.presentation = .ok listed ∧
    entered.text (relationshipsPart start.presentation) = .ok xml ∧
    ((∀ r ∈ listed, r.IsCarried) → Relationship.ofXml xml = .ok (listed ++ links)) ∧
    List.Forall₂ (fun link slide => link.id = slide.relationship ∧ link.type = Relationship.slide ∧
      link.external = false ∧ PartName.resolve start.presentation link.target = slide.part)
      links record.deck.added

/-- The relationships of a slide that is new to a package are leftovers if they are there. -/
theorem Made.isLeftover {m : Made} {package : Package} (h : m.part ∉ package.names) :
    IsLeftover package m.before.presentation (relationshipsPart m.part) := by
  obtain ⟨n, hpart⟩ := m.exists_part_eq
  have hslide : m.part
      = PartName.inFolderOf m.before.presentation ("slides/slide" ++ toString n ++ ".xml") := by
    rw [hpart]
    congr 1
    apply String.toList_injective
    simp
  exact ⟨n, hslide ▸ h, by rw [← hslide]⟩

/-- Entering what was added to a template keeps what the template had. -/
theorem preserved_of_register {template entered : Package} {start : Deck}
    (hstart : ofTemplate template = .ok start) (additions : List Addition)
    (hregister : ((Record.start start).addAll additions).deck.register = .ok entered) :
    Preserved template start ((Record.start start).addAll additions) entered := by
  have hopens := opensAs hstart
  have h := grown_addAll start additions
  generalize (Record.start start).addAll additions = record at h hregister
  have hnew : ∀ m ∈ record.made, ∀ name ∈ m.parts, name ∉ template.names := by
    intro m hm name hname
    rw [← hopens.package_eq]
    exact h.new_parts name (List.mem_flatMap.2 ⟨m, hm, hname⟩)
  refine ⟨fun name contents hname hpresentation hlisting htypes hleftover => ?_, ?_⟩
  · have hthere : name ∈ template.names :=
      Package.contains_eq_true_iff.1 (Package.contains_of_get? hname)
    rw [← h.presentation_eq] at hpresentation hlisting
    rw [get?_of_register hregister hpresentation hlisting htypes, h.get?_of_not_owned, hopens.package_eq,
      hname]
    -- a slide owns new parts only, apart from its relationships
    rintro m hm (rfl | hpart)
    · have hslide := Made.isLeftover (hnew m hm _ List.mem_cons_self)
      rw [(h.before_eq m hm).1] at hslide
      exact hleftover hslide
    · exact hnew m hm name hpart hthere
  · have htext := text_of_register hregister
    rw [h.presentation_eq, h.relationships_eq] at htext
    refine ⟨start.relationships, _, record.made.map Made.link, hopens.relationships_read, htext,
      fun hcarried => ?_, ?_⟩
    · refine Relationship.ofXml_listXml_of_isCarried fun r hr => ?_
      rcases List.mem_append.1 hr with hr | hr
      · exact hcarried r hr
      · obtain ⟨m, -, rfl⟩ := List.mem_map.1 hr
        exact m.isCarried_link
    · rw [h.added_eq, hopens.added_eq, List.nil_append, List.forall₂_map_left_iff,
        List.forall₂_map_right_iff, List.forall₂_same]
      intro m hm
      have hnormal : PartName.IsNormal m.before.presentation := by
        rw [(h.before_eq m hm).1]
        exact hopens.isNormal_presentation
      rw [← (h.before_eq m hm).1]
      exact ⟨rfl, rfl, rfl, m.resolve_link hnormal⟩

/-- A title slide on the built-in template, whose relationships a document can carry. -/
theorem preserved_title : ∃ start entered, ofTemplate Builtin.package = .ok start ∧
    ((Record.start start).addAll [.title .title "Report" "2024"]).deck.register = .ok entered ∧
    (∀ r ∈ start.relationships, r.IsCarried) ∧
    Preserved Builtin.package start ((Record.start start).addAll [.title .title "Report" "2024"])
      entered := by
  obtain ⟨start, hstart, -, -, hrelationships, -⟩ := composed_builtin.exists_ofTemplate_eq_ok
  have hregister := ((composed_builtin.ongoing hstart).addAll
    [.title .title "Report" "2024"]).register_eq_ok
  refine ⟨start, _, hstart, hregister, fun r hr => ?_, preserved_of_register hstart _ hregister⟩
  rw [hrelationships, List.map_nil, List.append_nil] at hr
  exact Builtin.isCarried_relationships Builtin.presentation_mem_owners r hr

end SlideDeck.Deck
