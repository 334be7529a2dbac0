import SlideDeck.Proofs.Presentation.Entered
import SlideDeck.Proofs.Presentation.Preserved

/-!
# Complete templates

A package is accepted as a template if the parts can be read that are looked at when it is opened. What is
added to it relies on more: on the parts of the layouts, on a place for slides in the presentation and on
content types to which more can be added. `IsComplete` says that these are there. It is what is needed and
no more: slides can be entered after any additions, each with a layout that is there, exactly if the
template is complete (`isComplete_iff`).

An accepted package has its presentation and its slide master, but need not be complete. Whatever part is
not looked at can be missing (`ofTemplate_without`).
-/

namespace SlideDeck

namespace Package

/-- The package without a part. -/
def without (package : Package) (name : String) : Package where
  parts := package.parts.filter (·.1 != name)
  sorted := package.sorted.filter _

/-- Taking a part out changes no other part. -/
theorem get?_without_of_ne {package : Package} {name other : String} (h : other ≠ name) :
    (package.without name).get? other = package.get? other := by
  show Ascending.find? other (package.parts.filter (·.1 != name)) = Ascending.find? other package.parts
  induction package.parts with
  | nil => rfl
  | cons entry parts ih =>
    obtain ⟨key, value⟩ := entry
    by_cases hkey : key = name
    · have hother : key ≠ other := fun heq => h (heq.symm.trans hkey)
      rw [List.filter_cons_of_neg (by simp [hkey]), ih, Ascending.find?, if_neg hother]
    · rw [List.filter_cons_of_pos (by simpa using hkey), Ascending.find?, Ascending.find?, ih]

/-- The part is no longer there. -/
theorem not_mem_names_without (package : Package) (name : String) :
    name ∉ (package.without name).names := by
  simp [names, without]

end Package

namespace Presentation

/-! ## Where text goes in -/

/-- Whether a place for new slides is found in a presentation. -/
def HasPlace (xml : String) : Prop := (Text.cutFirst (anchor xml.toList) xml.toList).isSome

/-- Whether content types can be read and have an end to which more can be added. -/
def TakesTypes (types : String) : Prop :=
  (Xml.scan types).complete = true ∧ (Text.cutLast typesEnd types.toList).isSome

/-- Entries can be put in if there is a place for them, and always if there are none. -/
theorem exists_insertEntries_eq_ok_iff {xml : String} {entries : List Char} :
    (∃ listed, insertEntries xml.toList entries = .ok listed) ↔ (entries ≠ [] → HasPlace xml) := by
  cases entries with
  | nil => exact iff_of_true ⟨_, rfl⟩ fun h => absurd rfl h
  | cons c entries =>
    rw [HasPlace, insertEntries, anchor]
    cases hend : Text.cutFirst listEnd xml.toList with
    | some cut => simp [hend]
    | none =>
      cases hempty : Text.cutFirst listEmpty xml.toList with
      | some cut => simp [hempty]
      | none => cases hmasters : Text.cutFirst mastersEnd xml.toList <;> simp [hmasters]

/-- The extensions with types are known if the content types can be scanned. -/
theorem exists_knownExtensions_eq_ok_iff {types : String} :
    (∃ known, knownExtensions types = .ok known) ↔ (Xml.scan types).complete = true := by
  rw [knownExtensions]
  cases (Xml.scan types).complete <;> simp

/-- Types can be appended if the end of the list is found. -/
theorem exists_appendTypes_eq_ok_iff {types additions : List Char} :
    (∃ extended, appendTypes types additions = .ok extended)
      ↔ (Text.cutLast typesEnd types).isSome := by
  rw [appendTypes]
  cases Text.cutLast typesEnd types <;> simp

end Presentation

namespace Deck

open Presentation (HasPlace TakesTypes)
open PartName (relationshipsPart depth)

theorem depth_contentTypesPart : depth Package.contentTypesPart = 1 := by decide

/-- There is nothing to enter if no slide was added. -/
theorem slideEntries_eq_nil_iff {deck : Deck} : deck.slideEntries = [] ↔ deck.added = [] := by
  rw [slideEntries]
  cases deck.added with
  | nil => exact iff_of_true rfl rfl
  | cons slide rest => exact iff_of_false (List.cons_ne_nil _ _) (List.cons_ne_nil _ _)

/-- The content types are read behind the changes to the presentation, but are not changed by them. -/
theorem text_contentTypes_of_insert (package : Package) {presentation : String}
    (hapart : presentation ≠ Package.contentTypesPart) (listed relationships : String) :
    ((package.insertText presentation listed).insertText (relationshipsPart presentation)
      relationships).text Package.contentTypesPart = package.text Package.contentTypesPart := by
  have hlisting : Package.contentTypesPart ≠ relationshipsPart presentation := by
    intro heq
    have hdepth := PartName.depth_relationshipsPart presentation
    rw [← heq, depth_contentTypesPart] at hdepth
    exact absurd (PartName.depth_pos presentation) (by omega)
  refine Package.text_congr ?_
  rw [Package.get?_insertText_of_ne _ hlisting, Package.get?_insertText_of_ne _ hapart.symm]

/-- When slides can be entered. -/
theorem exists_register_eq_ok_iff {deck : Deck} (hapart : deck.presentation ≠ Package.contentTypesPart) :
    (∃ entered, deck.register = .ok entered) ↔
      (∃ xml, deck.package.text deck.presentation = .ok xml ∧ (deck.added ≠ [] → HasPlace xml)) ∧
        ∃ types, deck.package.text Package.contentTypesPart = .ok types ∧ TakesTypes types := by
  constructor
  · rintro ⟨entered, hentered⟩
    obtain ⟨xml, listed, types, known, extended, hxml, hlisted, htypes, hknown, hextended, -⟩ :=
      entered_of_register hentered
    rw [text_contentTypes_of_insert _ hapart] at htypes
    refine ⟨⟨xml, hxml, fun hadded => ?_⟩, types, htypes, ?_, ?_⟩
    · exact Presentation.exists_insertEntries_eq_ok_iff.1 ⟨listed, hlisted⟩
        (mt slideEntries_eq_nil_iff.1 hadded)
    · exact Presentation.exists_knownExtensions_eq_ok_iff.1 ⟨known, hknown⟩
    · exact Presentation.exists_appendTypes_eq_ok_iff.1 ⟨extended, hextended⟩
  · rintro ⟨⟨xml, hxml, hplace⟩, types, htypes, hcomplete, hend⟩
    obtain ⟨listed, hlisted⟩ := Presentation.exists_insertEntries_eq_ok_iff.2
      fun hentries => hplace (mt slideEntries_eq_nil_iff.2 hentries)
    obtain ⟨known, hknown⟩ := Presentation.exists_knownExtensions_eq_ok_iff.2 hcomplete
    obtain ⟨extended, hextended⟩ := Presentation.exists_appendTypes_eq_ok_iff.2 hend
    have hread := (text_contentTypes_of_insert deck.package hapart (String.ofList listed)
      (Relationship.listXml deck.relationships)).trans htypes
    exact ⟨_, register_of_eq_ok hxml hlisted hread hknown hextended⟩

/-- Entering slides makes no parts but the three documents. -/
theorem mem_names_register_iff {deck : Deck} {entered : Package} (h : deck.register = .ok entered)
    {name : String} : name ∈ entered.names ↔ name = Package.contentTypesPart ∨
      name = relationshipsPart deck.presentation ∨ name = deck.presentation ∨
      name ∈ deck.package.names := by
  obtain ⟨xml, listed, types, known, extended, -, -, -, -, -, rfl⟩ := entered_of_register h
  rw [Package.mem_names_insertText, Package.mem_names_insertText, Package.mem_names_insertText]

/-! ## What slides are bound to -/

/-- Whether a slide is in a package, and has a layout there that was in the template. -/
structure Made.IsBound (m : Made) (template entered : Package) : Prop where
  slide_mem : m.part ∈ entered.names
  relationships_written : entered.get? (relationshipsPart m.part)
    = some (.text (Relationship.listXml m.links))
  layout_linked : ∃ link ∈ m.links, link.type = Relationship.slideLayout ∧
    PartName.resolve m.part link.target = m.layoutPart
  layout_mem : m.layoutPart ∈ template.names ∧ m.layoutPart ∈ entered.names

/-- What a slide owns is further down than the presentation. -/
theorem Made.depth_lt_of_owns {m : Made} {name : String} (h : m.Owns name) :
    depth m.before.presentation < depth name := by
  rcases h with rfl | h
  · rw [PartName.depth_relationshipsPart]
    exact Nat.lt_succ_of_lt (m.depth_lt_of_mem_parts List.mem_cons_self)
  · exact m.depth_lt_of_mem_parts h

namespace Grown

variable {start : Deck} {record : Record}

/-- Parts that are no further down than the presentation stay as they were. -/
theorem text_eq (h : Grown start record) {name : String} (hname : depth name ≤ depth start.presentation) :
    record.deck.package.text name = start.package.text name := by
  refine Package.text_congr (h.get?_of_not_owned name fun m hm howns => ?_)
  have hdepth := Made.depth_lt_of_owns howns
  rw [(h.before_eq m hm).1] at hdepth
  omega

/-- The relationships of a slide stay as they are when the slides are entered. -/
theorem get?_relationshipsPart_of_register (h : Grown start record) {entered : Package}
    (hregister : record.deck.register = .ok entered) {m : Made} (hm : m ∈ record.made) :
    entered.get? (relationshipsPart m.part) = some (.text (Relationship.listXml m.links)) := by
  have hdepth := m.depth_lt_of_mem_parts List.mem_cons_self
  have hown := PartName.depth_relationshipsPart m.part
  have hpresentation := PartName.depth_relationshipsPart record.deck.presentation
  have hpositive := PartName.depth_pos m.before.presentation
  rw [(h.before_eq m hm).1, ← h.presentation_eq] at hdepth hpositive
  -- none of the rewritten parts is as far down
  have hget : entered.get? (relationshipsPart m.part) = _ := get?_of_register hregister
    (fun heq => by rw [heq] at hown; omega) (fun heq => by rw [heq] at hown; omega)
    (fun heq => by rw [heq, depth_contentTypesPart] at hown; omega)
  rw [hget, h.get?_of_owned m hm _ (.inl rfl), m.get?_relationshipsPart]

end Grown

/-! ## Templates that have all that is needed -/

/-- Whether slides can be entered into a template. The presentation may not be the part of the content
types, since both are rewritten. -/
structure TakesSlides (template : Package) (start : Deck) : Prop where
  apart : start.presentation ≠ Package.contentTypesPart
  place_read : ∃ xml, template.text start.presentation = .ok xml ∧ HasPlace xml
  types_read : ∃ types, template.text Package.contentTypesPart = .ok types ∧ TakesTypes types

/-- Whether a template has all that additions rely on. -/
structure IsComplete (template : Package) (start : Deck) : Prop extends TakesSlides template start where
  layouts_mem : ∀ part ∈ start.layouts, part ∈ template.names

section Complete

variable {template : Package} {start : Deck}

/-- Additions change no part that is no deeper than the presentation. -/
theorem OpensAs.text_eq (hopens : OpensAs template start) {record : Record} (h : Grown start record)
    {name : String} (hname : depth name ≤ depth start.presentation) :
    record.deck.package.text name = template.text name := by
  rw [h.text_eq hname, hopens.package_eq]

/-- The content types are such a part. -/
theorem depth_contentTypesPart_le (part : String) : depth Package.contentTypesPart ≤ depth part := by
  rw [depth_contentTypesPart]
  exact PartName.depth_pos part

/-- Slides can then be entered whatever was added. -/
theorem TakesSlides.exists_register_eq_ok (h : TakesSlides template start)
    (hopens : OpensAs template start) {record : Record} (hgrown : Grown start record) :
    ∃ entered, record.deck.register = .ok entered := by
  obtain ⟨xml, hxml, hplace⟩ := h.place_read
  obtain ⟨types, htypes, htakes⟩ := h.types_read
  have hsame := hgrown.presentation_eq
  refine (exists_register_eq_ok_iff (hsame ▸ h.apart)).2 ⟨⟨xml, ?_, fun _ => hplace⟩, types, ?_, htakes⟩
  · rw [hsame, hopens.text_eq hgrown (Nat.le_refl _), hxml]
  · rw [hopens.text_eq hgrown (depth_contentTypesPart_le _), htypes]

/-- If slides could be entered once, there is all that entering relies on. -/
theorem takesSlides_of_register (hopens : OpensAs template start)
    (hapart : start.presentation ≠ Package.contentTypesPart) {record : Record}
    (hgrown : Grown start record) (hadded : record.deck.added ≠ []) {entered : Package}
    (hregister : record.deck.register = .ok entered) : TakesSlides template start := by
  have hsame := hgrown.presentation_eq
  obtain ⟨⟨xml, hxml, hplace⟩, types, htypes, htakes⟩ :=
    (exists_register_eq_ok_iff (hsame ▸ hapart)).1 ⟨entered, hregister⟩
  rw [hsame, hopens.text_eq hgrown (Nat.le_refl _)] at hxml
  rw [hopens.text_eq hgrown (depth_contentTypesPart_le _)] at htypes
  exact ⟨hapart, ⟨xml, hxml, hplace hadded⟩, types, htypes, htakes⟩

/-- On a complete template, every slide is bound into the package. -/
theorem IsComplete.isBound (h : IsComplete template start) (hopens : OpensAs template start)
    {record : Record} (hgrown : Grown start record) {entered : Package}
    (hregister : record.deck.register = .ok entered) {m : Made} (hm : m ∈ record.made) :
    m.IsBound template entered := by
  have hlayout : m.layoutPart ∈ start.layouts := List.mem_of_getElem? (hgrown.layout_found m hm)
  have hthere : m.layoutPart ∈ start.package.names := by
    rw [hopens.package_eq]
    exact h.layouts_mem _ hlayout
  have hnormal : PartName.IsNormal m.before.presentation := by
    rw [(hgrown.before_eq m hm).1]
    exact hopens.isNormal_presentation
  refine ⟨?_, hgrown.get?_relationshipsPart_of_register hregister hm, ?_, h.layouts_mem _ hlayout, ?_⟩
  · exact (mem_names_register_iff hregister).2
      (.inr (.inr (.inr (hgrown.mem_names_of_owns hm (.inr List.mem_cons_self)))))
  · have hreference : Relationship.internal "rId1" Relationship.slideLayout m.layoutPart ∈ m.references :=
      List.mem_cons_self
    exact ⟨_, List.mem_map_of_mem hreference, rfl,
      m.resolve_target hnormal (hopens.isNormal_layout hlayout) hreference⟩
  · exact (mem_names_register_iff hregister).2 (.inr (.inr (.inr ((hgrown.mem_names_iff _).2 (.inl hthere)))))

/-- A title slide is made on any layout of a template. -/
theorem OpensAs.on_title (hopens : OpensAs template start) {layout : Layout} {part : String}
    (hlayout : start.layouts[layout.index]? = some part) (title subtitle : String) :
    start.addTitle layout title subtitle = .ok (Made.mk (.title layout title subtitle) start).after ∧
      (Made.mk (.title layout title subtitle) start).layoutPart = part := by
  obtain ⟨next, hnext⟩ := Addition.exists_on_eq_ok (a := .title layout title subtitle)
    hopens.finalized_eq hlayout trivial
  obtain ⟨-, hfound, rfl⟩ := Addition.eq_after_of_on hnext
  exact ⟨hnext, Option.some.inj (hfound.symm.trans hlayout)⟩

/-- A slide that can be shown is made on any layout of a template. -/
theorem OpensAs.addAll_singleton (hopens : OpensAs template start) {a : Addition} {part : String}
    (hlayout : start.layouts[a.layout.index]? = some part) (hshow : a.IsShowable) :
    (Record.start start).addAll [a] = ⟨(Made.mk a start).after, [⟨a, start⟩]⟩ := by
  obtain ⟨next, hnext⟩ := Addition.exists_on_eq_ok hopens.finalized_eq hlayout hshow
  obtain ⟨-, -, rfl⟩ := Addition.eq_after_of_on hnext
  have hon : a.on (Record.start start).deck = .ok (Made.mk a start).after := hnext
  show (Record.start start).add a = _
  rw [Record.add, hon]
  rfl

/-- A title slide can be added wherever there is its layout. -/
theorem OpensAs.addAll_title (hopens : OpensAs template start) {layout : Layout} {part : String}
    (hlayout : start.layouts[layout.index]? = some part) (title subtitle : String) :
    (Record.start start).addAll [.title layout title subtitle]
      = ⟨(Made.mk (.title layout title subtitle) start).after, [⟨.title layout title subtitle, start⟩]⟩ :=
  hopens.addAll_singleton hlayout trivial

/-- The record of that addition has grown by it. -/
theorem OpensAs.grown_title (hopens : OpensAs template start) {layout : Layout} {part : String}
    (hlayout : start.layouts[layout.index]? = some part) (title subtitle : String) :
    Grown start
      ⟨(Made.mk (.title layout title subtitle) start).after, [⟨.title layout title subtitle, start⟩]⟩ := by
  rw [← hopens.addAll_title hlayout]
  exact grown_addAll start _

theorem Made.added_after_ne_nil (m : Made) : m.after.added ≠ [] :=
  List.append_ne_nil_of_right_ne_nil _ (List.cons_ne_nil _ _)

/-- The built-in template has all that is needed. -/
theorem isComplete_builtin (hstart : ofTemplate Builtin.package = .ok start) :
    IsComplete Builtin.package start := by
  have hongoing := composed_builtin.ongoing hstart
  have htitle := hongoing.addAll [.title .title "Report" "2024"]
  have hfirst : start.layouts[Layout.title.index]? = some (Builtin.layoutPart 1) := by
    rw [hongoing.layouts_eq]
    decide
  refine ⟨takesSlides_of_register (opensAs hstart) ?_ htitle.grown ?_ htitle.register_eq_ok,
    fun part hpart => ?_⟩
  · rw [hongoing.presentation_eq]
    decide
  · rw [(opensAs hstart).addAll_title hfirst]
    exact Made.added_after_ne_nil _
  · rw [hongoing.layouts_eq] at hpart
    exact Builtin.mem_names.2 (Builtin.layoutParts_mem_names part hpart)

end Complete

/-! ## Templates that lack a part -/

section Lacking

variable {template : Package} {start : Deck}

/-- The parts that are looked at when a package is opened as a template. -/
def IsOpened (start : Deck) (name : String) : Prop :=
  name = relationshipsPart "" ∨ name = start.presentation ∨ name = relationshipsPart start.presentation ∨
    ∃ master, targetOf? start.presentation Relationship.slideMaster start.relationships = some master ∧
      (name = master ∨ name = relationshipsPart master)

/-- Whether a package is accepted as a template depends on the parts that are looked at alone. -/
theorem ofTemplate_congr (hstart : ofTemplate template = .ok start) {other : Package}
    (hsame : ∀ name, IsOpened start name → other.get? name = template.get? name) :
    ofTemplate other = .ok { start with package := other } := by
  have hopens := opensAs hstart
  obtain ⟨relationships, hpackage, hmain⟩ := hopens.presentation_found
  obtain ⟨master, hmaster, hlayouts⟩ := hopens.layouts_read
  have hlisting : other.relationships "" = template.relationships "" :=
    Package.relationships_congr (hsame _ (.inl rfl))
  have htext : other.text start.presentation = template.text start.presentation :=
    Package.text_congr (hsame _ (.inr (.inl rfl)))
  have hlinks : other.relationships start.presentation = template.relationships start.presentation :=
    Package.relationships_congr (hsame _ (.inr (.inr (.inl rfl))))
  have hsame' : masterLayouts other master = masterLayouts template master := by
    rw [masterLayouts, masterLayouts,
      Package.relationships_congr (hsame _ (.inr (.inr (.inr ⟨master, hmaster, .inr rfl⟩)))),
      Package.text_congr (hsame _ (.inr (.inr (.inr ⟨master, hmaster, .inl rfl⟩))))]
  refine OpensAs.ofTemplate_eq_ok
    { hopens with
      package_eq := rfl
      presentation_found := ⟨relationships, hlisting.trans hpackage, hmain⟩
      relationships_read := hlinks.trans hopens.relationships_read
      layouts_read := ⟨master, hmaster, hsame'.trans hlayouts⟩
      presentation_read := htext ▸ hopens.presentation_read
      presentation_complete := htext ▸ hopens.presentation_complete }

/-- Whatever part is not looked at can be missing from a template. -/
theorem ofTemplate_without (hstart : ofTemplate template = .ok start) {name : String}
    (hname : ¬ IsOpened start name) :
    ofTemplate (template.without name) = .ok { start with package := template.without name } :=
  ofTemplate_congr hstart fun _ hother => Package.get?_without_of_ne fun heq => hname (heq ▸ hother)

/-- A part of the built-in template that is not looked at can be missing. -/
theorem exists_ofTemplate_without {name : String}
    (hname : name ∉ [relationshipsPart "", Builtin.presentationPart,
      relationshipsPart Builtin.presentationPart, Builtin.masterPart,
      relationshipsPart Builtin.masterPart]) :
    ∃ start, ofTemplate (Builtin.package.without name) = .ok start ∧
      start.presentation = Builtin.presentationPart ∧ start.layouts = Builtin.layoutParts := by
  obtain ⟨start, hstart, hpresentation, hlayouts, hrelationships, -⟩ :=
    composed_builtin.exists_ofTemplate_eq_ok
  refine ⟨_, ofTemplate_without hstart ?_, hpresentation, hlayouts⟩
  have hmaster : targetOf? start.presentation Relationship.slideMaster start.relationships
      = some Builtin.masterPart := by
    rw [hpresentation, hrelationships]
    decide
  simp only [List.mem_cons, List.not_mem_nil, or_false, not_or] at hname
  obtain ⟨hpackage, hmain, hlinks, hfound, hlisted⟩ := hname
  rw [IsOpened, hpresentation]
  rintro (heq | heq | heq | ⟨master, hother, heq⟩)
  · exact hpackage heq
  · exact hmain heq
  · exact hlinks heq
  · rw [← hpresentation, hmaster] at hother
    obtain rfl := Option.some.inj hother
    exact heq.elim hfound hlisted

/-- Entering does not rely on other parts than these two. -/
theorem TakesSlides.without {whole : Deck} (h : TakesSlides template whole)
    (hsame : start.presentation = whole.presentation) {name : String} (hname : name ≠ start.presentation)
    (htypes : name ≠ Package.contentTypesPart) : TakesSlides (template.without name) start := by
  have htext : ∀ other, name ≠ other → (template.without name).text other = template.text other :=
    fun other hother => Package.text_congr (Package.get?_without_of_ne hother.symm)
  refine ⟨hsame ▸ h.apart, ?_, ?_⟩
  · rw [htext _ hname, hsame]
    exact h.place_read
  · rw [htext _ htypes]
    exact h.types_read

/-- A template without content types takes slides, but they cannot be entered. -/
theorem register_ne_ok_of_without {start : Deck}
    (hopens : OpensAs (template.without Package.contentTypesPart) start)
    (hapart : start.presentation ≠ Package.contentTypesPart) {record : Record}
    (hgrown : Grown start record) (entered : Package) : record.deck.register ≠ .ok entered := by
  intro hentered
  obtain ⟨-, types, htypes, -⟩ :=
    (exists_register_eq_ok_iff (hgrown.presentation_eq ▸ hapart)).1 ⟨entered, hentered⟩
  rw [hopens.text_eq hgrown (depth_contentTypesPart_le _)] at htypes
  exact Package.not_mem_names_without _ _ (Package.mem_names_of_text_eq_ok htypes)

/-- A title slide on the built-in template neither is nor rewrites the part of a layout. -/
theorem layoutPart_not_mem_entered {m : Made}
    (hpresentation : m.before.presentation = Builtin.presentationPart) (hmedia : m.media = [])
    {entered : Package} (hentered : m.after.register = .ok entered)
    (hbefore : Builtin.layoutPart 1 ∉ m.before.package.names) :
    Builtin.layoutPart 1 ∉ entered.names := by
  obtain ⟨n, hpart⟩ := Made.exists_part_eq_of_builtin hpresentation
  have hafter : m.after.presentation = Builtin.presentationPart := hpresentation
  rw [mem_names_register_iff hentered, m.mem_names_after, Made.parts, hmedia, hafter, List.mem_singleton]
  rintro (heq | heq | heq | heq | heq | hmem)
  · exact absurd heq (by decide)
  · exact absurd heq (by decide)
  · exact absurd heq (by decide)
  · have hlast := PartName.getLast?_relationshipsPart m.part
    rw [← heq] at hlast
    exact absurd hlast (by decide)
  · -- the names part at their tenth character
    have htake := congrArg (·.toList.take 10) (heq.trans hpart)
    simp only [String.toList_append, List.append_assoc] at htake
    rw [List.take_append_of_le_length (by decide)] at htake
    exact absurd htake (by decide)
  · exact hbefore hmem

end Lacking

/-! ## What is accepted, and what is complete -/

section Accepted

variable {template : Package} {start : Deck}

/-- What is accepted as a template has its presentation and its slide master. After any additions the
slides can be entered, each with a layout of the template, exactly if the template is complete. -/
theorem isComplete_iff (hstart : ofTemplate template = .ok start) :
    start.presentation ∈ template.names ∧
    (∃ master ∈ template.names,
      targetOf? start.presentation Relationship.slideMaster start.relationships = some master ∧
        masterLayouts template master = .ok start.layouts) ∧
    (IsComplete template start ↔ start.presentation ≠ Package.contentTypesPart ∧
      ∀ additions, ∃ entered, ((Record.start start).addAll additions).deck.register = .ok entered ∧
        ∀ m ∈ ((Record.start start).addAll additions).made, m.IsBound template entered) := by
  have hopens := opensAs hstart
  obtain ⟨master, hmaster, hlayouts⟩ := hopens.layouts_read
  refine ⟨hopens.presentation_mem_names,
    ⟨master, mem_names_of_masterLayouts hlayouts, hmaster, hlayouts⟩, ?_, ?_⟩
  · intro h
    refine ⟨h.apart, fun additions => ?_⟩
    have hgrown := grown_addAll start additions
    obtain ⟨entered, hentered⟩ := h.exists_register_eq_ok hopens hgrown
    exact ⟨entered, hentered, fun m hm => h.isBound hopens hgrown hentered hm⟩
  · rintro ⟨hapart, henters⟩
    -- one slide on each layout shows that the layout is there, and any of them that there is a place
    have hlayouts : ∀ (i : Nat) (part : String), start.layouts[i]? = some part → part ∈ template.names := by
      intro i part hpart
      obtain ⟨-, rfl⟩ := hopens.on_title hpart "" ""
      obtain ⟨entered, -, hbound⟩ := henters [.title ⟨i⟩ "" ""]
      rw [hopens.addAll_title hpart] at hbound
      exact (hbound _ (List.mem_singleton_self _)).layout_mem.1
    obtain ⟨first, hfirst⟩ : ∃ first, start.layouts[0]? = some first :=
      ⟨_, List.getElem?_eq_getElem (List.length_pos_iff.2 hopens.layouts_ne_nil)⟩
    obtain ⟨entered, hentered, -⟩ := henters [.title ⟨0⟩ "" ""]
    refine ⟨takesSlides_of_register hopens hapart (grown_addAll start _) ?_ hentered, fun part hpart => ?_⟩
    · rw [hopens.addAll_title hfirst]
      exact Made.added_after_ne_nil _
    · obtain ⟨i, hi⟩ := List.mem_iff_getElem?.1 hpart
      exact hlayouts i part hi

/-- The built-in template is complete, and a title slide on it is bound. -/
theorem isBound_title : ∃ start entered, ofTemplate Builtin.package = .ok start ∧
    IsComplete Builtin.package start ∧
    ((Record.start start).addAll [.title .title "Report" "2024"]).deck.register = .ok entered ∧
    ∀ m ∈ ((Record.start start).addAll [.title .title "Report" "2024"]).made,
      m.IsBound Builtin.package entered := by
  obtain ⟨start, hstart, -⟩ := composed_builtin.exists_ofTemplate_eq_ok
  have hcomplete := isComplete_builtin hstart
  obtain ⟨entered, hentered, hbound⟩ :=
    ((isComplete_iff hstart).2.2.1 hcomplete).2 [.title .title "Report" "2024"]
  exact ⟨start, entered, hstart, hcomplete, hentered, hbound⟩

end Accepted

/-- The built-in template without its content types is accepted, and a slide is added to it, but the deck
cannot be written. Without the part of a layout it is accepted as well, and the deck is written with a
slide on that layout. -/
theorem accepted_incomplete :
    (∃ start next, ofTemplate (Builtin.package.without Package.contentTypesPart) = .ok start ∧
      start.addTitle .title "Report" "2024" = .ok next ∧ ∀ entered, next.register ≠ .ok entered) ∧
    ∃ (start : Deck) (m : Made) (entered : Package),
      ofTemplate (Builtin.package.without (Builtin.layoutPart 1)) = .ok start ∧
      start.addTitle .title "Report" "2024" = .ok m.after ∧ m.layoutPart = Builtin.layoutPart 1 ∧
      m.after.register = .ok entered ∧ Builtin.layoutPart 1 ∉ entered.names := by
  have hfirst : Builtin.layoutParts[Layout.title.index]? = some (Builtin.layoutPart 1) := by decide
  constructor
  · obtain ⟨start, hstart, hpresentation, hlayouts⟩ :=
      exists_ofTemplate_without (show Package.contentTypesPart ∉ _ by decide)
    have hopens := opensAs hstart
    rw [← hlayouts] at hfirst
    refine ⟨start, _, hstart, (hopens.on_title hfirst _ _).1, fun entered => ?_⟩
    exact register_ne_ok_of_without hopens (by rw [hpresentation]; decide)
      (hopens.grown_title hfirst _ _) entered
  · obtain ⟨start, hstart, hpresentation, hlayouts⟩ :=
      exists_ofTemplate_without (show Builtin.layoutPart 1 ∉ _ by decide)
    have hopens := opensAs hstart
    rw [← hlayouts] at hfirst
    obtain ⟨hadd, hlayout⟩ := hopens.on_title hfirst "Report" "2024"
    -- what entering looks at is as in the template with all its parts
    obtain ⟨whole, hwhole, hmain, -⟩ := composed_builtin.exists_ofTemplate_eq_ok
    have htakes := (isComplete_builtin hwhole).toTakesSlides.without (hpresentation.trans hmain.symm)
      (show Builtin.layoutPart 1 ≠ start.presentation by rw [hpresentation]; decide) (by decide)
    obtain ⟨entered, hentered⟩ := htakes.exists_register_eq_ok hopens (hopens.grown_title hfirst _ _)
    refine ⟨start, _, entered, hstart, hadd, hlayout, hentered, ?_⟩
    refine layoutPart_not_mem_entered hpresentation rfl hentered ?_
    rw [hopens.package_eq]
    exact Package.not_mem_names_without _ _

end Deck

end SlideDeck
