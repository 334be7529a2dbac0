import SlideDeck.Proofs.Presentation.Composed

/-!
# Slide masters and the numbering of layouts

A presentation lists its slide masters, and its relationships say which parts these are. The list has an
order that counts, the relationships have not. `layouts_of_listed` says what holds of the layouts of a deck
for every order of the relationships: they are those of the master that is listed first, if the first
relationship to a slide master is the one that its entry names. With one master this is so in every order.
With more of them it need not be (`not_layouts_of_listed`).
-/

namespace SlideDeck.Deck

open Builtin (presentationPart masterPart presentationRelationships)
open PartName (relationshipsPart)

/-! ## The layouts of a master -/

/-- Whether an id in the list of a slide master names a relationship to a layout, and where that leads. -/
def NamesLayout (master : String) (relationships : List Relationship) (id layout : String) : Prop :=
  ∃ r, (relationships.find? fun r => r.id == id && r.type == Relationship.slideLayout) = some r ∧
    PartName.resolve master r.target = layout

/-- Whether parts are the layouts of a slide master, one for each entry of its list in order. -/
def HasLayouts (package : Package) (master : String) (layouts : List String) : Prop :=
  ∃ relationships xml, package.relationships master = .ok relationships ∧
    package.text master = .ok xml ∧ (Xml.scan xml).complete = true ∧
    List.Forall₂ (NamesLayout master relationships)
      (((Xml.scan xml).elements.filter (·.isNamed "sldLayoutId")).filterMap (·.attribute? "r:id"))
      layouts

/-- A layout is found if the relationships of the master name it. -/
theorem layoutPart_eq_ok_iff {master id layout : String} {relationships : List Relationship} :
    layoutPart master relationships id = .ok layout ↔ NamesLayout master relationships id layout := by
  rw [layoutPart, NamesLayout]
  cases relationships.find? fun r => r.id == id && r.type == Relationship.slideLayout <;> simp

/-- The ids of layouts are read from the list of the master, if that can be scanned. -/
theorem layoutIds_eq_ok_iff {xml : String} {ids : List String} :
    layoutIds xml = .ok ids ↔ (Xml.scan xml).complete = true ∧
      ((Xml.scan xml).elements.filter (·.isNamed "sldLayoutId")).filterMap (·.attribute? "r:id") = ids := by
  rw [layoutIds]
  cases (Xml.scan xml).complete <;> simp

/-- The layouts of a master are those that it has. -/
theorem masterLayouts_eq_ok_iff {package : Package} {master : String} {layouts : List String} :
    masterLayouts package master = .ok layouts ↔ HasLayouts package master layouts := by
  constructor
  · intro h
    obtain ⟨relationships, hrelationships, h⟩ := exists_of_bind_eq_ok h
    obtain ⟨xml, hxml, h⟩ := exists_of_bind_eq_ok h
    obtain ⟨ids, hids, h⟩ := exists_of_bind_eq_ok h
    obtain ⟨hcomplete, rfl⟩ := layoutIds_eq_ok_iff.1 hids
    refine ⟨relationships, xml, ofPackage_eq_ok hrelationships, ofPackage_eq_ok hxml, hcomplete, ?_⟩
    exact (forall₂_of_mapM_eq_ok h).imp fun _ _ => layoutPart_eq_ok_iff.1
  · rintro ⟨relationships, xml, hrelationships, hxml, hcomplete, hnamed⟩
    rw [masterLayouts, hrelationships, ofPackage_ok, ok_bind, hxml, ofPackage_ok, ok_bind,
      layoutIds_eq_ok_iff.2 ⟨hcomplete, rfl⟩, ok_bind]
    exact mapM_eq_ok_of_forall₂ (hnamed.imp fun _ _ => layoutPart_eq_ok_iff.2)

/-- A master has the layouts that its list gives and no others. -/
theorem HasLayouts.unique {package : Package} {master : String} {first second : List String}
    (hfirst : HasLayouts package master first) (hsecond : HasLayouts package master second) :
    first = second :=
  Except.ok.inj ((masterLayouts_eq_ok_iff.2 hfirst).symm.trans (masterLayouts_eq_ok_iff.2 hsecond))

/-! ## The list of masters -/

/-- The entries in the list of slide masters of a presentation. -/
def masterEntries (xml : String) : List Xml.Element :=
  (Xml.scan xml).elements.filter (·.isNamed "sldMasterId")

/-- Whether an entry in the list of slide masters names a relationship to a slide master, and where that
leads. -/
def RefersTo (deck : Deck) (entry : Xml.Element) (master : String) : Prop :=
  ∃ r ∈ deck.relationships, r.type = Relationship.slideMaster ∧ entry.attribute? "r:id" = some r.id ∧
    PartName.resolve deck.presentation r.target = master

/-- Whether a presentation has a list of slide masters all of whose entries name relationships to slide
masters. -/
structure ListsMasters (template : Package) (deck : Deck) (xml : String) : Prop where
  read : template.text deck.presentation = .ok xml
  ne_nil : masterEntries xml ≠ []
  refers : ∀ entry ∈ masterEntries xml, ∃ master, RefersTo deck entry master

/-- Whether a part is the slide master that a presentation lists first. -/
def FirstListed (deck : Deck) (xml master : String) : Prop :=
  ∃ entry, (masterEntries xml).head? = some entry ∧ RefersTo deck entry master

/-- Whether the first relationship to a slide master is one that the first entry in the list of slide
masters names. -/
def LeadsFirst (deck : Deck) (xml : String) : Prop :=
  ∃ r, deck.relationships.find? (·.type == Relationship.slideMaster) = some r ∧
    ∃ entry, (masterEntries xml).head? = some entry ∧ entry.attribute? "r:id" = some r.id

/-- Whether all relationships to slide masters lead to the same part. -/
def HasOneMaster (deck : Deck) : Prop :=
  ∀ r ∈ deck.relationships, r.type = Relationship.slideMaster →
    ∀ s ∈ deck.relationships, s.type = Relationship.slideMaster →
      PartName.resolve deck.presentation r.target = PartName.resolve deck.presentation s.target

/-- A presentation that lists masters lists one first. -/
theorem ListsMasters.exists_firstListed {template : Package} {deck : Deck} {xml : String}
    (h : ListsMasters template deck xml) : ∃ master, FirstListed deck xml master := by
  obtain ⟨entry, rest, heq⟩ := List.exists_cons_of_ne_nil h.ne_nil
  obtain ⟨master, hmaster⟩ := h.refers entry (heq ▸ List.mem_cons_self)
  exact ⟨master, entry, by rw [heq]; rfl, hmaster⟩

section Ids

variable {template : Package} {deck : Deck} {xml : String} {ids : List String}

/-- A list of slide masters with these ids, each of which is that of a relationship to a slide master. -/
theorem listsMasters_of_ids (hread : template.text deck.presentation = .ok xml)
    (hids : (masterEntries xml).map (·.attribute? "r:id") = ids.map some) (hne : ids ≠ [])
    (hnamed : ∀ id ∈ ids, ∃ r ∈ deck.relationships, r.type = Relationship.slideMaster ∧ r.id = id) :
    ListsMasters template deck xml := by
  refine ⟨hread, fun hnil => hne ?_, fun entry hentry => ?_⟩
  · rw [hnil, List.map_nil] at hids
    exact List.map_eq_nil_iff.1 hids.symm
  · have hmem := List.mem_map_of_mem (f := fun e => e.attribute? "r:id") hentry
    rw [hids] at hmem
    obtain ⟨id, hid, heq⟩ := List.mem_map.1 hmem
    obtain ⟨r, hr, htype, rfl⟩ := hnamed id hid
    exact ⟨_, r, hr, htype, heq.symm, rfl⟩

/-- The first of the ids is that of the first entry. -/
theorem exists_head?_of_ids {id : String}
    (hids : (masterEntries xml).map (·.attribute? "r:id") = (id :: ids).map some) :
    ∃ entry, (masterEntries xml).head? = some entry ∧ entry.attribute? "r:id" = some id := by
  obtain ⟨entry, rest, heq, hid, -⟩ := List.map_eq_cons_iff.1 hids
  exact ⟨entry, by rw [heq]; rfl, hid⟩

end Ids

/-! ## Relationships in another order -/

/-- A relationship that is found by its type is listed and has the type. -/
theorem mem_and_type_of_find? {type : String} {relationships : List Relationship} {r : Relationship}
    (h : relationships.find? (·.type == type) = some r) : r ∈ relationships ∧ r.type = type := by
  have htype := List.find?_some h
  exact ⟨List.mem_of_find?_eq_some h, beq_iff_eq.1 htype⟩

/-- Whether a package reads like a template when it is opened, but for the order in which the
relationships of the presentation are listed. -/
structure IsReordering (template : Package) (start : Deck) (other : Package) : Prop where
  main_eq : other.relationships "" = template.relationships ""
  text_eq : other.text start.presentation = template.text start.presentation
  perm : ∃ relationships, other.relationships start.presentation = .ok relationships ∧
    relationships.Perm start.relationships
  masters_eq : ∀ r ∈ start.relationships, r.type = Relationship.slideMaster →
    other.relationships (PartName.resolve start.presentation r.target)
        = template.relationships (PartName.resolve start.presentation r.target) ∧
      other.text (PartName.resolve start.presentation r.target)
        = template.text (PartName.resolve start.presentation r.target)

/-- A template is a reordering of itself. -/
theorem OpensAs.isReordering_self {template : Package} {start : Deck} (h : OpensAs template start) :
    IsReordering template start template where
  main_eq := rfl
  text_eq := rfl
  perm := ⟨_, h.relationships_read, .refl _⟩
  masters_eq := fun _ _ _ => ⟨rfl, rfl⟩

namespace IsReordering

variable {template other : Package} {start again : Deck}

/-- Reordering the relationships of the presentation changes no layouts of a master. -/
theorem masterLayouts_eq (h : IsReordering template start other) {r : Relationship}
    (hr : r ∈ start.relationships) (htype : r.type = Relationship.slideMaster) :
    masterLayouts other (PartName.resolve start.presentation r.target)
      = masterLayouts template (PartName.resolve start.presentation r.target) := by
  obtain ⟨hrelationships, htext⟩ := h.masters_eq r hr htype
  rw [masterLayouts, masterLayouts, hrelationships, htext]

/-- A reordered template has the same presentation. -/
theorem presentation_eq (h : IsReordering template start other) (hstart : OpensAs template start)
    (hagain : OpensAs other again) : again.presentation = start.presentation := by
  obtain ⟨first, hfirst, hfound⟩ := hstart.presentation_found
  obtain ⟨second, hsecond, hother⟩ := hagain.presentation_found
  obtain rfl := Except.ok.inj (hfirst.symm.trans (h.main_eq.symm.trans hsecond))
  exact Option.some.inj (hother.symm.trans hfound)

/-- Whatever the order, the layouts are those of the master that the first relationship to one leads to. -/
theorem exists_hasLayouts (h : IsReordering template start other) (hstart : OpensAs template start)
    (hagain : OpensAs other again) :
    ∃ r, again.relationships.find? (·.type == Relationship.slideMaster) = some r ∧
      r ∈ start.relationships ∧ r.type = Relationship.slideMaster ∧
      HasLayouts template (PartName.resolve start.presentation r.target) again.layouts := by
  obtain ⟨master, hmaster, hlayouts⟩ := hagain.layouts_read
  obtain ⟨r, hfind, rfl⟩ := Option.map_eq_some_iff.1 hmaster
  obtain ⟨hmem, htype⟩ := mem_and_type_of_find? hfind
  -- the relationship is one of those of the template
  obtain ⟨relationships, hread, hperm⟩ := h.perm
  have hpresentation := h.presentation_eq hstart hagain
  have hsame := hagain.relationships_read
  rw [hpresentation] at hsame hlayouts
  obtain rfl := Except.ok.inj (hread.symm.trans hsame)
  have hr := hperm.mem_iff.1 hmem
  rw [h.masterLayouts_eq hr htype] at hlayouts
  exact ⟨r, hfind, hr, htype, masterLayouts_eq_ok_iff.1 hlayouts⟩

/-- In an order that puts a master with layouts first the template is accepted with these layouts. -/
theorem ofTemplate_eq_ok (h : IsReordering template start other) (hstart : OpensAs template start)
    {relationships : List Relationship} (hread : other.relationships start.presentation = .ok relationships)
    {r : Relationship} (hfirst : relationships.find? (·.type == Relationship.slideMaster) = some r)
    {layouts : List String}
    (hlayouts : HasLayouts template (PartName.resolve start.presentation r.target) layouts)
    (hne : layouts ≠ []) :
    ofTemplate other = .ok { start with package := other, relationships, layouts } := by
  obtain ⟨reordered, hsame, hperm⟩ := h.perm
  obtain rfl := Except.ok.inj (hsame.symm.trans hread)
  obtain ⟨hmem, htype⟩ := mem_and_type_of_find? hfirst
  have hmaster := masterLayouts_eq_ok_iff.2 hlayouts
  rw [← h.masterLayouts_eq (hperm.mem_iff.1 hmem) htype] at hmaster
  obtain ⟨main, hmain, hpresentation⟩ := hstart.presentation_found
  refine OpensAs.ofTemplate_eq_ok ?_
  exact
    { hstart with
      package_eq := rfl
      presentation_found := ⟨main, h.main_eq.trans hmain, hpresentation⟩
      relationships_read := hread
      layouts_read := ⟨_, by rw [targetOf?, hfirst, Option.map_some], hmaster⟩
      layouts_ne_nil := hne
      presentation_read := h.text_eq ▸ hstart.presentation_read
      presentation_complete := h.text_eq ▸ hstart.presentation_complete }

/-- A template with one slide master is accepted in every order of its relationships, with the same
layouts. -/
theorem exists_ofTemplate_eq_ok (h : IsReordering template start other) (hstart : OpensAs template start)
    (hone : HasOneMaster start) : ∃ again, ofTemplate other = .ok again ∧ again.layouts = start.layouts := by
  obtain ⟨relationships, hread, hperm⟩ := h.perm
  obtain ⟨master, hmaster, hlayouts⟩ := hstart.layouts_read
  obtain ⟨r, hr, htype, rfl⟩ := targetOf?_eq_some hmaster
  -- some relationship to a slide master comes first, and it leads to the same part
  obtain ⟨first, hfirst⟩ : ∃ first, relationships.find? (·.type == Relationship.slideMaster) = some first :=
    Option.isSome_iff_exists.1 (List.find?_isSome.2 ⟨r, hperm.mem_iff.2 hr, beq_iff_eq.2 htype⟩)
  obtain ⟨hmem, hfound⟩ := mem_and_type_of_find? hfirst
  have hsame := hone first (hperm.mem_iff.1 hmem) hfound r hr htype
  have hlayouts := masterLayouts_eq_ok_iff.1 hlayouts
  rw [← hsame] at hlayouts
  exact ⟨_, h.ofTemplate_eq_ok hstart hread hfirst hlayouts hstart.layouts_ne_nil, rfl⟩

end IsReordering

/-- Relationships that are carried whole are read as they were written. -/
theorem relationships_insertText (package : Package) (part : String) {relationships : List Relationship}
    (hcarried : ∀ r ∈ relationships, r.IsCarried) :
    (package.insertText (relationshipsPart part) (Relationship.listXml relationships)).relationships part
      = .ok relationships :=
  Package.relationships_eq_ok (Package.get?_insertText_self _ _ _)
    (Relationship.ofXml_listXml_of_isCarried hcarried)

/-- The relationships of the presentation can be written in any order, if they and the slide masters are in
parts of their own. -/
theorem isReordering_insertText {template : Package} {start : Deck}
    (hcarried : ∀ r ∈ start.relationships, r.IsCarried) (hpresentation : start.presentation ≠ "")
    (hmasters : ∀ r ∈ start.relationships, r.type = Relationship.slideMaster →
      PartName.resolve start.presentation r.target ∉
        [start.presentation, relationshipsPart start.presentation])
    {relationships : List Relationship} (hperm : relationships.Perm start.relationships) :
    IsReordering template start
      (template.insertText (relationshipsPart start.presentation) (Relationship.listXml relationships)) := by
  have hget : ∀ name, name ≠ relationshipsPart start.presentation →
      (template.insertText (relationshipsPart start.presentation)
        (Relationship.listXml relationships)).get? name = template.get? name :=
    fun name hname => Package.get?_insertText_of_ne _ hname _
  have hlisting : ∀ part, part ≠ start.presentation →
      relationshipsPart part ≠ relationshipsPart start.presentation :=
    fun part hpart heq => hpart (PartName.relationshipsPart_injective heq)
  have hdepth := PartName.depth_relationshipsPart start.presentation
  refine ⟨?_, ?_, ⟨relationships, ?_, hperm⟩, fun r hr htype => ?_⟩
  · exact Package.relationships_congr (hget _ (hlisting _ hpresentation.symm))
  · exact Package.text_congr (hget _ fun heq => by rw [← heq] at hdepth; omega)
  · exact relationships_insertText _ _ fun r hr => hcarried r (hperm.mem_iff.1 hr)
  · have happart := hmasters r hr htype
    simp only [List.mem_cons, List.not_mem_nil, or_false, not_or] at happart
    exact ⟨Package.relationships_congr (hget _ (hlisting _ happart.1)),
      Package.text_congr (hget _ happart.2)⟩

/-! ## The master that is listed first -/

/-- If all entries in the list of slide masters name relationships to them, one is listed first. In every
order of the relationships the layouts of an accepted template are those of the master listed first, if the
first relationship to a slide master is the one that the first entry names. With one slide master a template
is accepted with its layouts in every order. -/
theorem layouts_of_listed {template : Package} {start : Deck} (hstart : ofTemplate template = .ok start)
    {xml : String} (hlist : ListsMasters template start xml) :
    (∃ listed, FirstListed start xml listed) ∧ ∀ other, IsReordering template start other →
      (∀ again, ofTemplate other = .ok again → LeadsFirst again xml →
        ∃ listed, FirstListed start xml listed ∧ HasLayouts template listed again.layouts) ∧
      (HasOneMaster start → ∀ listed, FirstListed start xml listed →
        ∃ again, ofTemplate other = .ok again ∧ again.layouts = start.layouts ∧
          HasLayouts template listed again.layouts) := by
  have hopens := opensAs hstart
  refine ⟨hlist.exists_firstListed, fun other hother => ⟨?_, ?_⟩⟩
  · rintro again hagain ⟨r, hfirst, entry, hentry, hid⟩
    obtain ⟨s, hfind, hs, htype, hlayouts⟩ := hother.exists_hasLayouts hopens (opensAs hagain)
    obtain rfl := Option.some.inj (hfind.symm.trans hfirst)
    exact ⟨_, ⟨entry, hentry, s, hs, htype, hid, rfl⟩, hlayouts⟩
  · rintro hone listed ⟨-, -, r, hr, htype, -, rfl⟩
    obtain ⟨again, hagain, hequal⟩ := hother.exists_ofTemplate_eq_ok hopens hone
    obtain ⟨s, -, hs, hsame, hlayouts⟩ := hother.exists_hasLayouts hopens (opensAs hagain)
    exact ⟨again, hagain, hequal, hone s hs hsame r hr htype ▸ hlayouts⟩

/-! ## A template with two slide masters -/

/-- A presentation that lists the second of two slide masters first. -/
def mastersNode : Xml.Node :=
  .element "p:presentation" []
    [.element "p:sldMasterIdLst" []
      [.empty "p:sldMasterId" [⟨"r:id", "rId2"⟩], .empty "p:sldMasterId" [⟨"r:id", "rId1"⟩]]]

/-- The part of a second slide master. -/
def secondMaster : String := "ppt/slideMasters/slideMaster2.xml"

/-- A slide master with one layout. -/
def secondMasterNode : Xml.Node :=
  .element "p:sldMaster" []
    [.element "p:sldLayoutIdLst" [] [.empty "p:sldLayoutId" [⟨"r:id", "rId1"⟩]]]

/-- The relationship of the second slide master. -/
def secondRelationships : List Relationship :=
  [.internal "rId1" Relationship.slideLayout "../slideLayouts/slideLayout7.xml"]

/-- The relationship of the presentation to a slide master with a number. -/
def toMaster (n : Nat) : Relationship :=
  .internal ("rId" ++ toString n) Relationship.slideMaster
    ("slideMasters/slideMaster" ++ toString n ++ ".xml")

/-- The built-in template with a second slide master, which has one layout and is listed first. -/
def twoMasters : Package :=
  (((Builtin.package.insertText presentationPart (Xml.document mastersNode)).insertText
    (relationshipsPart presentationPart) (Relationship.listXml [toMaster 1, toMaster 2])).insertText
    secondMaster (Xml.document secondMasterNode)).insertText
    (relationshipsPart secondMaster) (Relationship.listXml secondRelationships)

/-- Apart from the parts put in, the template is the built-in one. -/
theorem get?_twoMasters {name : String} (hpresentation : name ≠ presentationPart)
    (hlisting : name ≠ relationshipsPart presentationPart) (hmaster : name ≠ secondMaster)
    (hsecond : name ≠ relationshipsPart secondMaster) :
    twoMasters.get? name = Builtin.package.get? name := by
  rw [twoMasters, Package.get?_insertText_of_ne _ hsecond, Package.get?_insertText_of_ne _ hmaster,
    Package.get?_insertText_of_ne _ hlisting, Package.get?_insertText_of_ne _ hpresentation]

theorem isCarried_toMaster (n : Nat) : (toMaster n).IsCarried := by
  have htype : Xml.IsCarried Relationship.slideMaster := by decide
  exact ⟨.append (by decide) (Xml.isCarried_toString n), htype,
    .append (.append (by decide) (Xml.isCarried_toString n)) (by decide)⟩

/-- Its presentation lists both masters. -/
theorem text_twoMasters : twoMasters.text presentationPart = .ok (Xml.document mastersNode) := by
  refine Package.text_eq_ok ?_
  rw [twoMasters, Package.get?_insertText_of_ne _ (by decide), Package.get?_insertText_of_ne _ (by decide),
    Package.get?_insertText_of_ne _ (by decide), Package.get?_insertText_self]

/-- Its relationships have them in the other order. -/
theorem relationships_twoMasters :
    twoMasters.relationships presentationPart = .ok [toMaster 1, toMaster 2] := by
  refine Package.relationships_eq_ok ?_ (Relationship.ofXml_listXml_of_isCarried fun r hr => ?_)
  · rw [twoMasters, Package.get?_insertText_of_ne _ (by decide),
      Package.get?_insertText_of_ne _ (by decide), Package.get?_insertText_self]
  · simp only [List.mem_cons, List.not_mem_nil, or_false] at hr
    rcases hr with rfl | rfl <;> exact isCarried_toMaster _

/-- The first master has all the built-in layouts. -/
theorem hasLayouts_first : HasLayouts twoMasters masterPart Builtin.layoutParts := by
  have hmaster : twoMasters.get? masterPart = Builtin.package.get? masterPart :=
    get?_twoMasters (by decide) (by decide) (by decide) (by decide)
  have hlisting : twoMasters.get? (relationshipsPart masterPart)
      = Builtin.package.get? (relationshipsPart masterPart) :=
    get?_twoMasters (by decide) (by decide) (by decide) (by decide)
  have hread := Builtin.relationships_eq_ok Builtin.master_mem_owners hlisting
  exact masterLayouts_eq_ok_iff.1
    (Builtin.masterLayouts_eq_ok hread (hmaster.trans Builtin.get?_masterPart))

/-- The second has just one of them. -/
theorem hasLayouts_second : HasLayouts twoMasters secondMaster [Builtin.layoutPart 7] := by
  refine ⟨secondRelationships, Xml.document secondMasterNode, ?_, ?_, ?_, ?_⟩
  · refine Package.relationships_eq_ok (by rw [twoMasters, Package.get?_insertText_self]) ?_
    refine Relationship.ofXml_listXml_of_isCarried fun r hr => ?_
    obtain rfl := List.mem_singleton.1 hr
    exact ⟨by decide, by decide, by decide⟩
  · refine Package.text_eq_ok ?_
    rw [twoMasters, Package.get?_insertText_of_ne _ (by decide), Package.get?_insertText_self]
  · rw [Xml.scan_document_starts (by decide)]
  · rw [Xml.filterMap_elements (by decide) _ fun start hstart => Xml.attribute?_read hstart "r:id"]
    exact .cons ⟨_, rfl, by decide⟩ .nil

/-- The second master is listed first. -/
theorem ids_twoMasters :
    (masterEntries (Xml.document mastersNode)).map (·.attribute? "r:id") = ["rId2", "rId1"].map some := by
  rw [masterEntries, Xml.map_attribute?_named (by decide)]
  decide

/-- The template is accepted, with the layouts of the master that its relationships put first. -/
theorem exists_ofTemplate_twoMasters : ∃ start, ofTemplate twoMasters = .ok start ∧
    start.presentation = presentationPart ∧ start.relationships = [toMaster 1, toMaster 2] ∧
    start.layouts = Builtin.layoutParts := by
  have hlisting : twoMasters.get? (relationshipsPart "") = Builtin.package.get? (relationshipsPart "") :=
    get?_twoMasters (by decide) (by decide) (by decide) (by decide)
  have hpackage := Builtin.relationships_eq_ok Builtin.package_mem_owners hlisting
  refine ⟨⟨twoMasters, presentationPart, Builtin.layoutParts,
    sizeIn (Xml.scan (Xml.document mastersNode)).elements, [], [toMaster 1, toMaster 2],
    firstId (slideIdsIn (Xml.scan (Xml.document mastersNode)).elements), [], false⟩,
    OpensAs.ofTemplate_eq_ok ?_, rfl, rfl, rfl⟩
  exact
    { package_eq := rfl
      presentation_found := ⟨_, hpackage, by decide⟩
      relationships_read := relationships_twoMasters
      layouts_read := ⟨masterPart, by decide, masterLayouts_eq_ok_iff.2 hasLayouts_first⟩
      layouts_ne_nil := show Builtin.layoutParts ≠ [] by decide
      presentation_read := ⟨_, text_twoMasters, rfl, rfl⟩
      presentation_complete := fun xml hxml => by
        obtain rfl := Except.ok.inj (text_twoMasters.symm.trans hxml)
        rw [Xml.scan_document_starts (by decide)]
      added_eq := rfl
      mediaTypes_eq := rfl
      finalized_eq := rfl }

/-- So the presentation lists the masters of its relationships. -/
theorem listsMasters_twoMasters {start : Deck} (hpresentation : start.presentation = presentationPart)
    (hrelationships : start.relationships = [toMaster 1, toMaster 2]) :
    ListsMasters twoMasters start (Xml.document mastersNode) := by
  refine listsMasters_of_ids (hpresentation ▸ text_twoMasters) ids_twoMasters (List.cons_ne_nil _ _) ?_
  rw [hrelationships]
  decide

/-- The template with its relationships in the order in which the masters are listed. -/
def twoMastersInOrder : Package :=
  twoMasters.insertText (relationshipsPart presentationPart)
    (Relationship.listXml [toMaster 2, toMaster 1])

/-- With the relationships in the order of the list, it is a reordering. -/
theorem isReordering_twoMasters {start : Deck} (hpresentation : start.presentation = presentationPart)
    (hrelationships : start.relationships = [toMaster 1, toMaster 2]) :
    IsReordering twoMasters start twoMastersInOrder := by
  have hcarried : ∀ r ∈ start.relationships, r.IsCarried := by
    rw [hrelationships]
    exact List.forall_mem_cons.2 ⟨isCarried_toMaster 1, List.forall_mem_singleton.2 (isCarried_toMaster 2)⟩
  rw [twoMastersInOrder, ← hpresentation]
  refine isReordering_insertText hcarried ?_ ?_ ?_
  · rw [hpresentation]
    decide
  · rw [hpresentation, hrelationships]
    decide
  · rw [hrelationships]
    exact .swap _ _ _

/-- It is accepted in that order with the layouts of the master listed first, whose relationship now leads. -/
theorem exists_ofTemplate_inOrder {start : Deck} (hstart : ofTemplate twoMasters = .ok start)
    (hpresentation : start.presentation = presentationPart)
    (hother : IsReordering twoMasters start twoMastersInOrder) :
    ∃ again, ofTemplate twoMastersInOrder = .ok again ∧ LeadsFirst again (Xml.document mastersNode) := by
  have hread : twoMastersInOrder.relationships start.presentation = .ok [toMaster 2, toMaster 1] := by
    rw [hpresentation]
    exact relationships_insertText _ _ (List.forall_mem_cons.2
      ⟨isCarried_toMaster 2, List.forall_mem_singleton.2 (isCarried_toMaster 1)⟩)
  have hlayouts : HasLayouts twoMasters (PartName.resolve start.presentation (toMaster 2).target)
      [Builtin.layoutPart 7] := by
    rw [hpresentation, show PartName.resolve presentationPart (toMaster 2).target = secondMaster by decide]
    exact hasLayouts_second
  have hfind : [toMaster 2, toMaster 1].find? (·.type == Relationship.slideMaster)
      = some (toMaster 2) := by decide
  obtain ⟨entry, hentry, hid⟩ := exists_head?_of_ids ids_twoMasters
  exact ⟨_, hother.ofTemplate_eq_ok (opensAs hstart) hread hfind hlayouts (List.cons_ne_nil _ _),
    toMaster 2, hfind, entry, hentry, hid⟩

/-- The built-in template lists its slide master, which is the only one. -/
theorem listsMasters_builtin : ∃ start, ofTemplate Builtin.package = .ok start ∧
    ListsMasters Builtin.package start Builtin.presentationXml ∧ HasOneMaster start := by
  obtain ⟨start, hstart, hpresentation, -, hrelationships, -⟩ := composed_builtin.exists_ofTemplate_eq_ok
  have hids : (masterEntries Builtin.presentationXml).map (·.attribute? "r:id") = ["rId1"].map some := by
    rw [masterEntries, Builtin.presentationXml, Xml.map_attribute?_named (by decide)]
    decide
  refine ⟨start, hstart, listsMasters_of_ids ?_ hids (List.cons_ne_nil _ _) ?_, ?_⟩
  · rw [hpresentation]
    exact Package.text_eq_ok Builtin.get?_presentationPart
  · rw [hrelationships]
    decide
  · rw [HasOneMaster, hpresentation, hrelationships]
    decide

/-- The template with two masters has the layouts of the one listed first in that order, and the built-in
template its own in every order. -/
theorem layouts_of_listed_twoMasters :
    (∃ start again, ofTemplate twoMasters = .ok start ∧
      ListsMasters twoMasters start (Xml.document mastersNode) ∧
      IsReordering twoMasters start twoMastersInOrder ∧ ofTemplate twoMastersInOrder = .ok again ∧
      LeadsFirst again (Xml.document mastersNode) ∧
      ∃ listed, FirstListed start (Xml.document mastersNode) listed ∧
        HasLayouts twoMasters listed again.layouts) ∧
    ∃ start listed, ofTemplate Builtin.package = .ok start ∧
      ListsMasters Builtin.package start Builtin.presentationXml ∧ HasOneMaster start ∧
      FirstListed start Builtin.presentationXml listed ∧
      HasLayouts Builtin.package listed start.layouts := by
  constructor
  · obtain ⟨start, hstart, hpresentation, hrelationships, -⟩ := exists_ofTemplate_twoMasters
    have hlist := listsMasters_twoMasters hpresentation hrelationships
    have hother := isReordering_twoMasters hpresentation hrelationships
    obtain ⟨again, hagain, hfirst⟩ := exists_ofTemplate_inOrder hstart hpresentation hother
    exact ⟨start, again, hstart, hlist, hother, hagain, hfirst,
      ((layouts_of_listed hstart hlist).2 _ hother).1 _ hagain hfirst⟩
  · obtain ⟨start, hstart, hlist, hone⟩ := listsMasters_builtin
    have hsettled := layouts_of_listed hstart hlist
    obtain ⟨listed, hlisted⟩ := hsettled.1
    obtain ⟨again, -, hsame, hlayouts⟩ :=
      (hsettled.2 _ (opensAs hstart).isReordering_self).2 hone listed hlisted
    exact ⟨start, listed, hstart, hlist, hone, hlisted, hsame ▸ hlayouts⟩

/-- With the relationships in the other order the layouts are not those of the master listed first. -/
theorem not_layouts_of_listed : ∃ start, ofTemplate twoMasters = .ok start ∧
    ListsMasters twoMasters start (Xml.document mastersNode) ∧
    FirstListed start (Xml.document mastersNode) secondMaster ∧
    HasLayouts twoMasters secondMaster [Builtin.layoutPart 7] ∧
    start.layouts = Builtin.layoutParts ∧ ¬ HasLayouts twoMasters secondMaster start.layouts := by
  obtain ⟨start, hstart, hpresentation, hrelationships, hlayouts⟩ := exists_ofTemplate_twoMasters
  obtain ⟨entry, hentry, hid⟩ := exists_head?_of_ids ids_twoMasters
  refine ⟨start, hstart, listsMasters_twoMasters hpresentation hrelationships, ⟨entry, hentry, toMaster 2,
    ?_, by decide, hid, ?_⟩, hasLayouts_second, hlayouts, fun hsecond => ?_⟩
  · rw [hrelationships]
    decide
  · rw [hpresentation]
    decide
  · rw [hlayouts] at hsecond
    exact absurd (hsecond.unique hasLayouts_second) (by decide)

end SlideDeck.Deck
