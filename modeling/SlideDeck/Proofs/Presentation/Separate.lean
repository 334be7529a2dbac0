import SlideDeck.Proofs.Presentation.Composed

/-!
# Additions keep out of each other's way

Whatever the template and whichever additions succeed, the slides that are added share no part, no
relationship id and no number with each other or with the template, all that the template had is still
there, and the targets written for a slide lead back to its parts (`separate_addAll`).
-/

namespace SlideDeck.Deck

/-- How the slides of a record stand to the template of its deck and to each other: `listed` are the
relationships of the presentation in the template and `taken` the numbers of slides there. -/
structure Separate (template : Package) (listed : List Relationship) (taken : List UInt32)
    (start : Deck) (record : Record) : Prop where
  /-- The slides that were made are the added slides of the deck, in their order. -/
  added_eq : record.deck.added = record.made.map Made.slide
  nodup_parts : (record.made.flatMap Made.parts).Nodup
  new_parts : ∀ name ∈ record.made.flatMap Made.parts, name ∉ template.names
  slide_kept : ∀ m ∈ record.made,
    record.deck.package.get? m.part = some (.text (Slide.sheet m.shapes))
  media_kept : ∀ m ∈ record.made,
    List.Forall₂ (fun part entry => record.deck.package.get? part = some entry.2)
      m.media m.addition.media
  template_kept : ∀ name ∈ template.names,
    (∀ m ∈ record.made, name ≠ PartName.relationshipsPart m.part) →
      record.deck.package.get? name = template.get? name
  nodup_relationships : (record.deck.added.map (·.relationship)).Nodup
  new_relationships : ∀ slide ∈ record.deck.added, ∀ r ∈ listed, slide.relationship ≠ r.id
  /-- The numbers of the slides, as long as there are enough of them below `2 ^ 32`. -/
  ids_consecutive : IdsFit taken record.deck.added.length →
    record.deck.added.map (·.id) = List.range' start.nextId.toNat record.deck.added.length
  ids_from : IdsFit taken record.deck.added.length → ∀ slide ∈ record.deck.added, 256 ≤ slide.id
  ids_above : IdsFit taken record.deck.added.length →
    ∀ slide ∈ record.deck.added, ∀ id ∈ taken, id.toNat < slide.id
  relationships_eq : ∃ links, record.deck.relationships = listed ++ links ∧
    List.Forall₂ (fun link slide => link.id = slide.relationship ∧
      link.type = Relationship.slide ∧ link.external = false ∧
      PartName.resolve record.deck.presentation link.target = slide.part) links record.deck.added
  layout_found : List.Forall₂ (fun m slide => ∃ relationships r,
      record.deck.package.relationships slide.part = .ok relationships ∧
      relationships.filter (·.id == "rId1") = [r] ∧ r.type = Relationship.slideLayout ∧
      record.deck.layouts[m.addition.layout.index]? = some (PartName.resolve slide.part r.target))
    record.made record.deck.added
  layouts_eq : record.deck.layouts = start.layouts
  slideSize_eq : record.deck.slideSize = start.slideSize
  presentation_eq : record.deck.presentation = start.presentation
  existingCount_eq :
    record.deck.existingCount = (listed.filter (·.type == Relationship.slide)).length
  /-- The difference that counts the slides of the template is one. -/
  added_le : record.deck.added.length
    ≤ (record.deck.relationships.filter (·.type == Relationship.slide)).length

namespace Grown

variable {start : Deck} {record : Record}

/-- The relationships to slides are those of the template and one for each added slide. -/
theorem length_filter_relationships (h : Grown start record) :
    (record.deck.relationships.filter (·.type == Relationship.slide)).length
      = (start.relationships.filter (·.type == Relationship.slide)).length + record.made.length := by
  rw [h.relationships_eq, List.filter_append, List.length_append, Made.filter_map_link, List.length_map]

/-- The relationships of an added slide are read back from the package. -/
theorem relationships_eq_links (h : Grown start record) {m : Made} (hm : m ∈ record.made)
    (hpresentation : Xml.IsCarried start.presentation)
    (hlayouts : ∀ part ∈ start.layouts, Xml.IsCarried part) :
    record.deck.package.relationships m.part = .ok m.links := by
  apply m.relationships_eq_links
  · rw [(h.before_eq m hm).1]
    exact hpresentation
  · exact hlayouts _ (List.mem_of_getElem? (h.layout_found m hm))
  · exact h.get?_of_owned m hm _ (.inl rfl)

end Grown

/-- Every deck that was opened from a template keeps what is added to it separate, whichever of the
calls succeed. -/
theorem separate_addAll {template : Package} {start : Deck} (hstart : ofTemplate template = .ok start)
    (hcarried : HasCarriedTargets template) (additions : List Addition) :
    ∃ listed xml, template.relationships start.presentation = .ok listed ∧
      template.text start.presentation = .ok xml ∧
      Separate template listed (slideIdsIn (Xml.scan xml).elements) start
        ((Record.start start).addAll additions) := by
  have hopens := opensAs hstart
  obtain ⟨xml, hxml, -, hnext⟩ := hopens.presentation_read
  refine ⟨start.relationships, xml, hopens.relationships_read, hxml, ?_⟩
  generalize hrecord : (Record.start start).addAll additions = record
  have h : Grown start record := hrecord ▸ grown_addAll start additions
  have hpackage := hopens.package_eq
  have hnormal : ∀ m ∈ record.made, PartName.IsNormal m.before.presentation := fun m hm => by
    rw [(h.before_eq m hm).1]
    exact hopens.isNormal_presentation
  have hadded : record.deck.added = record.made.map Made.slide := by
    rw [h.added_eq, hopens.added_eq, List.nil_append]
  have hlength : record.deck.added.length = record.made.length := by
    rw [hadded, List.length_map]
  generalize htaken : slideIdsIn (Xml.scan xml).elements = taken at hnext ⊢
  have hids : IdsFit taken record.deck.added.length →
      record.deck.added.map (·.id) = List.range' start.nextId.toNat record.deck.added.length := by
    intro hfit
    rw [hlength] at hfit ⊢
    rw [← h.ids_eq_range' (hnext ▸ hfit.firstId_add_le), hadded, List.map_map]
    rfl
  have hfrom : IdsFit taken record.deck.added.length →
      ∀ slide ∈ record.deck.added, start.nextId.toNat ≤ slide.id := by
    intro hfit slide hslide
    have hmem := List.mem_map_of_mem (f := (·.id)) hslide
    rw [hids hfit, List.mem_range'_1] at hmem
    exact hmem.1
  exact
    { added_eq := hadded
      nodup_parts := h.nodup_parts
      new_parts := hpackage ▸ h.new_parts
      slide_kept := fun m hm =>
        (h.get?_of_owned m hm _ (.inr List.mem_cons_self)).trans m.get?_part
      media_kept := by
        intro m hm
        refine forall₂_imp_of_mem m.get?_media fun part hpart entry hget => ?_
        rw [h.get?_of_owned m hm part (.inr (List.mem_cons_of_mem _ hpart))]
        exact hget
      template_kept := by
        intro name hname hrels
        rw [← hpackage] at hname ⊢
        refine h.get?_of_not_owned name fun m hm => ?_
        rw [Made.Owns, not_or]
        refine ⟨hrels m hm, fun hmem => h.new_parts name (List.mem_flatMap.2 ⟨m, hm, hmem⟩) hname⟩
      nodup_relationships := by
        rw [hadded, List.map_map]
        exact h.nodup_relationships
      new_relationships := by
        intro slide hslide r hr
        rw [hadded] at hslide
        obtain ⟨m, hm, rfl⟩ := List.mem_map.1 hslide
        exact h.new_relationships m hm r hr
      ids_consecutive := hids
      ids_from := fun hfit slide hslide =>
        Nat.le_trans (hnext ▸ minId_le_firstId _) (hfrom hfit slide hslide)
      ids_above := by
        intro hfit slide hslide id hid
        have hone : ∀ id ∈ taken, id.toNat + 1 < 2 ^ 32 := fun id hid =>
          Nat.lt_of_le_of_lt (Nat.add_le_add_left (List.length_pos_of_mem hslide) _) (hfit.2 id hid)
        exact Nat.lt_of_lt_of_le (hnext ▸ lt_firstId hone hid) (hfrom hfit slide hslide)
      relationships_eq := by
        refine ⟨record.made.map Made.link, h.relationships_eq, ?_⟩
        rw [hadded, List.forall₂_map_left_iff, List.forall₂_map_right_iff, List.forall₂_same]
        intro m hm
        refine ⟨rfl, rfl, rfl, ?_⟩
        rw [h.presentation_eq, ← (h.before_eq m hm).1]
        exact m.resolve_link (hnormal m hm)
      layout_found := by
        rw [hadded, List.forall₂_map_right_iff, List.forall₂_same]
        intro m hm
        have hread := h.relationships_eq_links hm (hopens.isCarried_presentation hcarried)
          fun part hpart => hopens.isCarried_layout hcarried hpart
        refine ⟨m.links, _, hread, m.filter_links, rfl, ?_⟩
        have hlayout := h.layout_found m hm
        have htarget := PartName.resolve_relative (m.isNormal_part (hnormal m hm))
          (hopens.isNormal_layout (List.mem_of_getElem? hlayout))
        rw [h.layouts_eq, hlayout]
        exact congrArg some htarget.symm
      layouts_eq := h.layouts_eq
      slideSize_eq := h.slideSize_eq
      presentation_eq := h.presentation_eq
      existingCount_eq := by
        rw [existingCount, h.length_filter_relationships, hlength, Nat.add_sub_cancel_right]
      added_le := by
        rw [h.length_filter_relationships, hlength]
        exact Nat.le_add_left _ _ }

/-- The targets of the built-in template are carried whole. -/
theorem hasCarriedTargets_builtin : HasCarriedTargets Builtin.package := by
  intro part relationships hread r hr
  by_cases hlisting : Builtin.package.contains (PartName.relationshipsPart part) = true
  · obtain ⟨owner, howner, heq⟩ := Builtin.exists_owner_of_isListing
      (Builtin.mem_names.1 (Package.contains_eq_true_iff.1 hlisting))
      (PartName.isListing_relationshipsPart part)
    have hpart := PartName.relationshipsPart_injective heq
    have hown := Builtin.relationships_eq_ok howner rfl
    rw [← hpart, hread] at hown
    rw [Except.ok.inj hown] at hr
    exact (Builtin.isCarried_relationships howner r hr).2.2
  · rw [Package.relationships, if_neg hlisting] at hread
    rw [← Except.ok.inj hread] at hr
    cases hr

/-- Of three additions to the built-in template, the second fails. -/
theorem separate_three_additions : ∃ start, ofTemplate Builtin.package = .ok start ∧
    HasCarriedTargets Builtin.package ∧
    ∃ listed xml, Builtin.package.relationships start.presentation = .ok listed ∧
      Builtin.package.text start.presentation = .ok xml ∧
      Separate Builtin.package listed (slideIdsIn (Xml.scan xml).elements) start
        ((Record.start start).addAll [.title .title "Report" "2024",
          .list .titleAndContent "Costs" [0, 1] ["Rent"], .text .titleOnly "Cost" "Low"]) := by
  obtain ⟨start, hstart, -⟩ := composed_builtin.exists_ofTemplate_eq_ok
  exact ⟨start, hstart, hasCarriedTargets_builtin,
    separate_addAll hstart hasCarriedTargets_builtin _⟩

end SlideDeck.Deck
