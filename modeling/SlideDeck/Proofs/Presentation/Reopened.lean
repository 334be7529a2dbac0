import SlideDeck.Proofs.Presentation.Finalize

/-!
# Opening what was written

A deck that is opened from the file of another one has its parts, its layouts, its relationships and its
numbers: nothing that a deck holds gets lost between writing and opening it (`Reached.reopens_of_finalize`).
-/

namespace SlideDeck.Deck

open Builtin (presentationPart presentationRelationships)
open Xml (document)

/-! ## The size of slides -/

/-- Only the sizes of the template are called like one. -/
theorem filter_starts_sizes (slides : List Added) :
    (presentationNode slides).starts.filter (·.isNamed "sldSz")
      = (Xml.allStarts sizes).filter (·.isNamed "sldSz") := by
  have hentry : ¬ Xml.Start.isNamed "sldSz" ("p:sldId", []) = true := by decide
  have hmasters : masterList.starts.filter (·.isNamed "sldSz") = [] := by decide
  have hentries : (slides.map Added.start).filter (·.isNamed "sldSz") = [] := by
    rw [List.filter_eq_nil_iff]
    intro start hstart
    obtain ⟨slide, -, rfl⟩ := List.mem_map.1 hstart
    exact hentry
  rw [filter_starts_presentationNode slides (by decide) (by decide), hmasters, hentries,
    List.nil_append, List.nil_append]

/-- The size that a start tag gives. -/
def size? (start : Xml.Start) : Option Picture.Extent := do
  let cx ← (start.value? "cx").bind fun text => Number.signed64? text.toList
  let cy ← (start.value? "cy").bind fun text => Number.signed64? text.toList
  pure ⟨cx, cy⟩

/-- Slides are of the size that the built-in presentation gives, which is the standard one. -/
theorem sizeIn_presentationNode {slides : List Added}
    (h : ∀ slide ∈ slides, Xml.IsVerbatim slide.relationship) :
    sizeIn (Xml.scan (document (presentationNode slides))).elements = standardSize := by
  have hread : ((Xml.scan (document (presentationNode slides))).elements.filter
      (·.isNamed "sldSz")).filterMap sizeOf?
      = ((presentationNode slides).starts.filter (·.isNamed "sldSz")).filterMap size? :=
    Xml.filterMap_elements (isPlain_presentationNode h) "sldSz" fun start hstart => by
      rw [sizeOf?, size?, Xml.attribute?_read hstart, Xml.attribute?_read hstart]
  rw [sizeIn, hread, filter_starts_sizes]
  decide

/-- A deck that is opened again has slides of the same size. -/
theorem Composed.slideSize_eq {made : List Made} {types : List TypeEntry} {package : Package}
    {start : Deck} (h : Composed made types package) (hstart : ofTemplate package = .ok start) :
    start.slideSize = standardSize := by
  obtain ⟨xml, hxml, hsize, -⟩ := (opensAs hstart).presentation_read
  rw [(h.ongoing hstart).presentation_eq, Package.text_eq_ok h.get?_presentation] at hxml
  rw [hsize, ← Except.ok.inj hxml]
  exact sizeIn_presentationNode (isVerbatim_slides made)

/-- The slides of every deck that is reached are of the standard size. -/
theorem Reached.slideSize_eq {record : Record} (h : Reached record) :
    record.deck.slideSize = standardSize := by
  induction h with
  | builtin hbuiltin => exact composed_builtin.slideSize_eq (ofTemplateFile_eq_ok hbuiltin)
  | @added record _ a ih =>
    rcases record.add_cases a with hsame | ⟨-, hadd⟩
    · rw [hsame, ih]
    · rw [hadd]
      exact ih
  | reopened h hfinal hkept hopen =>
    obtain ⟨types, hcomposed, hread⟩ := h.composed_of_finalize hfinal
    rw [openTemplate_archive (hkept.trans hread) hcomposed.ofContents_archive] at hopen
    exact hcomposed.slideSize_eq (ofTemplateFile_eq_ok hopen)

/-! ## Opening a deck again -/

/-- How a deck stands to the one that was written to the file it was opened from. -/
structure Reopens (closed next : Deck) : Prop where
  package_eq : next.package = closed.package
  layouts_eq : next.layouts = closed.layouts
  slideSize_eq : next.slideSize = closed.slideSize
  presentation_eq : next.presentation = closed.presentation
  relationships_eq : next.relationships = closed.relationships
  /-- The slides of the template are now all slides that there were. -/
  existingCount_eq : next.existingCount = closed.existingCount + closed.added.length
  /-- The next number is the same, as far as numbers of 32 bits go. -/
  nextId_eq : minId.toNat + next.existingCount < 2 ^ 32 → next.nextId = closed.nextId
  added_eq : next.added = []
  finalized_eq : next.finalized = false

/-- The number of slides that are listed for a package of the template and slides. -/
theorem length_filter_links (made : List Made) :
    ((presentationRelationships ++ made.map Made.link).filter (·.type == Relationship.slide)).length
      = made.length := by
  have hbuiltin : presentationRelationships.filter (·.type == Relationship.slide) = [] := by decide
  rw [List.filter_append, hbuiltin, List.nil_append, Made.filter_map_link, List.length_map]

/-- A deck on the template and slides that was written, and one that is opened with its package. -/
theorem Ongoing.reopens {made : List Made} {types : List TypeEntry} {package : Package}
    {start next : Deck} {record : Record} (h : Ongoing made types package start record)
    (hsize : record.deck.slideSize = standardSize)
    (hnext : ofTemplate (entered record made types) = .ok next) :
    Reopens { record.deck with finalized := true, package := entered record made types } next := by
  have hcomposed := h.composed_entered
  have hagain := hcomposed.ongoing hnext
  have hopens := opensAs hnext
  have hrelationships : record.deck.relationships
      = presentationRelationships ++ (made ++ record.made).map Made.link := by
    rw [h.grown.relationships_eq, h.relationships_eq, List.append_assoc, List.map_append]
  have hcount : next.existingCount = (made ++ record.made).length := by
    rw [existingCount, hagain.relationships_eq, length_filter_links, hopens.added_eq]
    rfl
  -- both decks are on the template, once with the new slides apart and once with all of them entered
  refine ⟨hopens.package_eq, ?_, ?_, ?_, ?_, ?_, fun hfit => ?_, hopens.added_eq, hopens.finalized_eq⟩
  · exact hagain.layouts_eq.trans (h.grown.layouts_eq.trans h.layouts_eq).symm
  · exact (hcomposed.slideSize_eq hnext).trans hsize.symm
  · exact hagain.presentation_eq.trans (h.grown.presentation_eq.trans h.presentation_eq).symm
  · exact hagain.relationships_eq.trans hrelationships.symm
  · have hadded : record.deck.added.length = record.made.length := by
      rw [h.added_eq_map, List.length_map]
    show next.existingCount = (record.deck.relationships.filter (·.type == Relationship.slide)).length
      - record.deck.added.length + record.deck.added.length
    rw [hcount, hrelationships, length_filter_links, hadded, List.length_append, Nat.add_sub_cancel]
  · rw [hcount] at hfit
    have hlater : 256 + (made ++ record.made).length < 2 ^ 32 := hfit
    -- the bound is needed for the slides of both decks, of which the earlier ones are fewer
    have hearlier : 256 + made.length < 2 ^ 32 := by
      rw [List.length_append] at hlater
      omega
    show next.nextId = record.deck.nextId
    rw [← UInt32.toNat_inj, hagain.nextId_eq, hcomposed.toNat_firstId hlater, h.grown.nextId_eq,
      UInt32.toNat_add, h.nextId_eq, h.composed.toNat_firstId hearlier, UInt32.toNat_ofNat',
      Nat.add_mod_mod, Nat.add_assoc, ← List.length_append, Nat.mod_eq_of_lt hlater]

/-- Whenever a deck that is reached was written, opening the file gives a deck with all that it had. -/
theorem Reached.reopens_of_finalize {record : Record} (h : Reached record) {closed : Deck}
    {files written : File.Tree} {output : File.Path}
    (hfinal : record.deck.finalize files output = (.ok (), closed, written)) :
    ∃ entries, written.read output = .ok (.archive entries) ∧ entries.Perm closed.package.parts ∧
      (entries.map (·.1)).Nodup ∧ (entries.map (·.1)).head? = some Package.contentTypesPart ∧
      ∃ next, Reopens closed next ∧
        ∀ (later : File.Tree) (path : File.Path), later.read path = written.read output →
          openTemplate later path = .ok next := by
  obtain ⟨made, types, package, start, current, hongoing, rfl⟩ := h.exists_ongoing
  obtain ⟨packed, hregister, hpublish, rfl⟩ := finalize_eq_ok hfinal
  obtain rfl := Except.ok.inj (hongoing.register_eq_ok.symm.trans hregister)
  have hcomposed := hongoing.composed_entered
  have hread := File.Tree.read_of_publish hpublish
  obtain ⟨next, hnext, -⟩ := hcomposed.exists_ofTemplate_eq_ok
  refine ⟨_, hread, Package.toEntries_perm _, ?_, ?_, next, ?_, ?_⟩
  · exact Package.nodup_names_toEntries _
  · exact Package.head?_toEntries (Package.contains_of_get? hcomposed.get?_types)
  · exact hongoing.reopens h.slideSize_eq hnext
  · intro later path hkept
    rw [openTemplate_archive (hkept.trans hread) hcomposed.ofContents_archive, hnext]
    rfl

/-- A title slide, written and opened again. -/
theorem Reached.reopens_title : ∃ record : Record, Reached record ∧
    record.made.map (·.addition) = [.title .title "Report" "2024"] ∧
    ∃ closed files written output, record.deck.finalize files output = (.ok (), closed, written) ∧
      ∃ entries, written.read output = .ok (.archive entries) ∧ entries.Perm closed.package.parts ∧
        (entries.map (·.1)).Nodup ∧ (entries.map (·.1)).head? = some Package.contentTypesPart ∧
        ∃ next, Reopens closed next ∧
          ∀ (later : File.Tree) (path : File.Path), later.read path = written.read output →
            openTemplate later path = .ok next := by
  have hpublish : ∀ contents, ∃ written, (⟨[], [], ⟨"/"⟩, {}⟩ : File.Tree).publish ⟨"deck.pptx"⟩
      ".slidegen-" ".pptx" contents = (.ok (), written) := fun contents => ⟨_, rfl⟩
  obtain ⟨deck, hdeck, hbuiltin⟩ := exists_builtin_eq_ok
  obtain ⟨titled, -, hopen, hreached⟩ := (Reached.builtin hbuiltin).exists_add_eq
    (a := .title .title "Report" "2024") (opensAs hdeck).finalized_eq (by decide) trivial
  obtain ⟨closed, written, hfinal⟩ := hreached.exists_finalize_eq hopen (by decide) hpublish
  exact ⟨_, hreached, rfl, closed, _, written, _, hfinal, hreached.reopens_of_finalize hfinal⟩

end SlideDeck.Deck
