import SlideDeck.Proofs.Package.Naming
import SlideDeck.Proofs.Package.Parts
import SlideDeck.Proofs.Presentation.ContentTypes
import SlideDeck.Proofs.Presentation.SlideList
import SlideDeck.Proofs.Presentation.Template

/-!
# The built-in template

The parts of the built-in package, which of them own relationships, and what these and the documents of
the package refer to.
-/

namespace SlideDeck

namespace Builtin

/-! ## Parts -/

/-- The part of the slide master. -/
def masterPart : String := "ppt/slideMasters/slideMaster1.xml"

/-- The part of the presentation. -/
def presentationPart : String := "ppt/presentation.xml"

/-- The parts with relationships, the package itself among them. -/
def owners : List (String × List Relationship) :=
  [("", packageRelationships), (presentationPart, presentationRelationships),
   (masterPart, masterRelationships)] ++
  layoutNumbers.map fun n => (layoutPart n, layoutRelationships)

/-- The names of the built-in parts are different. -/
theorem nodup_parts : (parts.map (·.1)).Nodup := by decide

/-- The built-in package has these parts and no others. -/
theorem perm_parts : package.parts.Perm (parts.map fun (name, text) => (name, .text text)) := by
  have hfold : package = (parts.map fun (name, text) => (name, File.Contents.text text)).foldl
      (fun package entry => package.insert entry.1 entry.2) Package.empty := by
    rw [List.foldl_map]
    rfl
  have hnodup : ((parts.map fun (name, text) => (name, File.Contents.text text)).map (·.1)).Nodup := by
    rw [List.map_map]
    exact nodup_parts
  have hempty : ∀ entry ∈ parts.map fun (name, text) => (name, File.Contents.text text),
      entry.1 ∉ Package.empty.names := fun _ _ => List.not_mem_nil
  have hperm := Package.perm_foldl_insert hnodup hempty
  rw [hfold]
  exact hperm.trans (by rw [Package.empty, List.append_nil])

/-- So its names are theirs. -/
theorem mem_names {name : String} : name ∈ package.names ↔ name ∈ parts.map (·.1) := by
  rw [Package.names, (perm_parts.map Prod.fst).mem_iff, List.map_map]
  rfl

/-- Each part is found with its text. -/
theorem get?_of_mem {name text : String} (h : (name, text) ∈ parts) :
    package.get? name = some (.text text) :=
  Package.get?_eq_some_of_mem (perm_parts.mem_iff.2 (List.mem_map.2 ⟨(name, text), h, rfl⟩))

/-- The presentation is found with its text. -/
theorem get?_presentationPart : package.get? presentationPart = some (.text presentationXml) := by
  apply get?_of_mem
  refine List.mem_append_left _ ?_
  simp [presentationPart]

/-- So are the content types. -/
theorem get?_contentTypesPart :
    package.get? Package.contentTypesPart = some (.text contentTypesXml) := by
  apply get?_of_mem
  refine List.mem_append_left _ ?_
  simp [Package.contentTypesPart]

/-- So is the master. -/
theorem get?_masterPart : package.get? masterPart = some (.text masterXml) := by
  apply get?_of_mem
  refine List.mem_append_left _ ?_
  simp [masterPart]

/-- The relationships of the package, of the presentation and of the master are where they are looked
for. -/
theorem relationshipsPart_named : PartName.relationshipsPart "" = "_rels/.rels" ∧
    PartName.relationshipsPart presentationPart = "ppt/_rels/presentation.xml.rels" ∧
    PartName.relationshipsPart masterPart = "ppt/slideMasters/_rels/slideMaster1.xml.rels" := by
  decide

/-- A layout has its number in its name. -/
theorem toList_layoutPart (n : Nat) : (layoutPart n).toList
    = "ppt/slideLayouts/slideLayout".toList ++ (toString n).toList ++ ".xml".toList := by
  unfold layoutPart
  rw [String.toList_append, String.toList_append]

/-- The relationships of a layout stand in the folder below it. -/
theorem relationshipsPart_layoutPart (n : Nat) : PartName.relationshipsPart (layoutPart n)
    = "ppt/slideLayouts/_rels/slideLayout" ++ toString n ++ ".xml.rels" := by
  have hfile : '/' ∉ ("slideLayout" ++ toString n ++ ".xml").toList :=
    PartName.slash_not_mem_numbered n (by decide) (by decide)
  have hpart : layoutPart n = "ppt/slideLayouts" ++ "/" ++ ("slideLayout" ++ toString n ++ ".xml") := by
    apply String.toList_injective
    rw [toList_layoutPart]
    simp
  rw [hpart, PartName.relationshipsPart_append hfile]
  apply String.toList_injective
  simp

/-- The parts that do not come with a layout. -/
def namedParts : List String :=
  ["[Content_Types].xml", "_rels/.rels", "docProps/core.xml", "docProps/app.xml", presentationPart,
   "ppt/_rels/presentation.xml.rels", "ppt/presProps.xml", masterPart,
   "ppt/slideMasters/_rels/slideMaster1.xml.rels", "ppt/theme/theme1.xml"]

/-- All other parts are those of layouts and of their relationships. -/
theorem cases_of_mem_parts {name : String} (h : name ∈ parts.map (·.1)) : name ∈ namedParts ∨
    ∃ n ∈ layoutNumbers, name = layoutPart n ∨ name = PartName.relationshipsPart (layoutPart n) := by
  rw [parts, List.map_append, List.mem_append] at h
  refine h.imp_right fun hlayout => ?_
  obtain ⟨⟨part, text⟩, hpart, rfl⟩ := List.mem_map.1 hlayout
  obtain ⟨⟨n, plan⟩, hplan, hpart⟩ := List.mem_flatMap.1 hpart
  refine ⟨n, (List.of_mem_zip hplan).1, ?_⟩
  rw [relationshipsPart_layoutPart]
  rcases List.mem_cons.1 hpart with heq | hpart
  · exact .inl (Prod.mk.inj heq).1
  · exact .inr (Prod.mk.inj (List.mem_singleton.1 hpart)).1

/-- The name of a layout ends in an l. -/
theorem getLast?_layoutPart (n : Nat) : (layoutPart n).toList.getLast? = some 'l' := by
  have hend : ".xml".toList.getLast? = some 'l' := by decide
  rw [toList_layoutPart, List.getLast?_append, hend, Option.some_or]

/-- The listed relationships of each owner are in the part for them. -/
theorem get?_relationshipsPart {owner : String × List Relationship} (h : owner ∈ owners) :
    package.get? (PartName.relationshipsPart owner.1)
      = some (.text (Relationship.listXml owner.2)) := by
  obtain ⟨hpackage, hpresentation, hmaster⟩ := relationshipsPart_named
  apply get?_of_mem
  rcases List.mem_append.1 h with h | h
  · refine List.mem_append_left _ ?_
    simp only [List.mem_cons, List.not_mem_nil, or_false] at h
    rcases h with rfl | rfl | rfl
    · rw [hpackage]
      simp
    · rw [hpresentation]
      simp
    · rw [hmaster]
      simp
  · refine List.mem_append_right _ ?_
    obtain ⟨n, hn, rfl⟩ := List.mem_map.1 h
    rw [relationshipsPart_layoutPart, List.mem_flatMap]
    have hzip : n ∈ (layoutNumbers.zip layouts).map (·.1) := by
      rw [List.map_fst_zip (by decide)]
      exact hn
    obtain ⟨⟨n, plan⟩, hplan, rfl⟩ := List.mem_map.1 hzip
    exact ⟨(n, plan), hplan, List.mem_cons_of_mem _ (List.mem_singleton_self _)⟩

/-- What is found in the template is one of its parts. -/
theorem mem_names_of_get? {name : String} {contents : File.Contents}
    (h : package.get? name = some contents) : name ∈ package.names :=
  Package.contains_eq_true_iff.1 (Package.contains_of_get? h)

/-- The presentation has relationships of its own. -/
theorem presentation_mem_owners : (presentationPart, presentationRelationships) ∈ owners := by
  simp [owners]

theorem package_mem_owners : ("", packageRelationships) ∈ owners := by
  simp [owners]

theorem master_mem_owners : (masterPart, masterRelationships) ∈ owners := by
  simp [owners]

/-- The relationships of the presentation are listed in a part. -/
theorem get?_presentationListing :
    package.get? (PartName.relationshipsPart presentationPart)
      = some (.text (Relationship.listXml presentationRelationships)) := by
  have hget := get?_relationshipsPart presentation_mem_owners
  exact hget

theorem presentationPart_mem_names : presentationPart ∈ package.names :=
  mem_names_of_get? get?_presentationPart

theorem presentationListing_mem_names : PartName.relationshipsPart presentationPart ∈ package.names :=
  mem_names_of_get? get?_presentationListing

theorem contentTypesPart_mem_names : Package.contentTypesPart ∈ package.names :=
  mem_names_of_get? get?_contentTypesPart

theorem masterPart_mem_names : masterPart ∈ package.names := mem_names_of_get? get?_masterPart

/-! ## Relationships -/

/-- Every part named as one with relationships has an owner. -/
theorem exists_owner_of_isListing {name : String} (h : name ∈ parts.map (·.1))
    (hlisting : PartName.IsListing name) : ∃ owner ∈ owners, name = PartName.relationshipsPart owner.1 := by
  obtain ⟨hpackage, hpresentation, hmaster⟩ := relationshipsPart_named
  rcases cases_of_mem_parts h with hnamed | ⟨n, hn, rfl | rfl⟩
  · simp only [namedParts, List.mem_cons, List.not_mem_nil, or_false] at hnamed
    rcases hnamed with rfl | rfl | rfl | rfl | rfl | rfl | rfl | rfl | rfl | rfl
    any_goals
      refine absurd hlisting ?_
      decide
    · exact ⟨_, package_mem_owners, hpackage.symm⟩
    · exact ⟨_, presentation_mem_owners, hpresentation.symm⟩
    · exact ⟨_, master_mem_owners, hmaster.symm⟩
  · have hlast := PartName.getLast?_of_isListing hlisting
    rw [getLast?_layoutPart] at hlast
    exact absurd hlast (by decide)
  · exact ⟨_, List.mem_append_right _ (List.mem_map_of_mem hn), rfl⟩

/-- What has relationships is the package or one of its parts. -/
theorem owner_mem_names : ∀ owner ∈ owners, owner.1 = "" ∨ owner.1 ∈ parts.map (·.1) := by
  decide

/-- Every relationship leads to a part of the template. -/
theorem target_mem_names : ∀ owner ∈ owners, ∀ r ∈ owner.2,
    PartName.resolve owner.1 r.target ∈ parts.map (·.1) := by
  decide +kernel

/-- None leads out of it. -/
theorem external_eq_false : ∀ owner ∈ owners, ∀ r ∈ owner.2, r.external = false := by decide

/-- No two relationships of a part have the same id. -/
theorem nodup_ids : ∀ owner ∈ owners, (owner.2.map (·.id)).Nodup := by decide

/-- The types of relationships are carried whole if their last words are. -/
theorem isCarried_type {kind : String} (h : Xml.IsCarried kind) :
    Xml.IsCarried (Relationship.typeBase ++ kind) := .append (by decide) h

/-- The relationships of the package are carried whole. -/
theorem isCarried_packageRelationships : ∀ r ∈ packageRelationships, r.IsCarried := by
  intro r hr
  simp only [packageRelationships, List.mem_cons, List.not_mem_nil, or_false] at hr
  rcases hr with rfl | rfl | rfl
  · exact ⟨by decide, isCarried_type (by decide), by decide⟩
  · exact ⟨by decide, by decide, by decide⟩
  · exact ⟨by decide, isCarried_type (by decide), by decide⟩

/-- So are those of the presentation. -/
theorem isCarried_presentationRelationships : ∀ r ∈ presentationRelationships, r.IsCarried := by
  intro r hr
  simp only [presentationRelationships, List.mem_cons, List.not_mem_nil, or_false] at hr
  rcases hr with rfl | rfl | rfl <;> exact ⟨by decide, isCarried_type (by decide), by decide⟩

/-- So is that of a layout. -/
theorem isCarried_layoutRelationships : ∀ r ∈ layoutRelationships, r.IsCarried :=
  List.forall_mem_singleton.2 ⟨by decide, isCarried_type (by decide), by decide⟩

/-- So are those of the master. -/
theorem isCarried_masterRelationships : ∀ r ∈ masterRelationships, r.IsCarried := by
  have hid : ∀ n : Nat, Xml.IsCarried ("rId" ++ toString n) := fun n =>
    .append (by decide) (Xml.isCarried_toString n)
  intro r hr
  rcases List.mem_append.1 hr with hr | hr
  · obtain ⟨n, -, rfl⟩ := List.mem_map.1 hr
    exact ⟨hid n, isCarried_type (by decide),
      .append (.append (by decide) (Xml.isCarried_toString n)) (by decide)⟩
  · obtain rfl := List.mem_singleton.1 hr
    exact ⟨hid _, isCarried_type (by decide), show Xml.IsCarried "../theme/theme1.xml" by decide⟩

/-- So all relationships of the template are. -/
theorem isCarried_relationships {owner : String × List Relationship} (h : owner ∈ owners) :
    ∀ r ∈ owner.2, r.IsCarried := by
  rcases List.mem_append.1 h with h | h
  · simp only [List.mem_cons, List.not_mem_nil, or_false] at h
    rcases h with rfl | rfl | rfl
    · exact isCarried_packageRelationships
    · exact isCarried_presentationRelationships
    · exact isCarried_masterRelationships
  · obtain ⟨n, -, rfl⟩ := List.mem_map.1 h
    exact isCarried_layoutRelationships

/-- The relationships of an owner are read from every package with the same part for them. -/
theorem relationships_eq_ok {package : Package} {owner : String × List Relationship}
    (h : owner ∈ owners) (hget : package.get? (PartName.relationshipsPart owner.1)
      = Builtin.package.get? (PartName.relationshipsPart owner.1)) :
    package.relationships owner.1 = .ok owner.2 := by
  rw [get?_relationshipsPart h] at hget
  exact Package.relationships_eq_ok hget
    (Relationship.ofXml_listXml_of_isCarried (isCarried_relationships h))

/-! ## The slide master -/

/-- The parts of the layouts in the order of the list of the master. -/
def layoutParts : List String := layoutNumbers.map layoutPart

/-- The master is written as a document in which only the layouts are referred to. -/
theorem exists_masterXml_eq : ∃ root : Xml.Node, masterXml = Xml.document root ∧
    root.isPlain = true ∧ root.starts.filterMap (·.value? "r:id")
      = layoutNumbers.map (fun n => "rId" ++ toString n) ∧
    (root.starts.filter (·.isNamed "sldLayoutId")).filterMap (·.value? "r:id")
      = layoutNumbers.map fun n => "rId" ++ toString n := by
  refine ⟨_, rfl, ?_, ?_, ?_⟩ <;> decide +kernel

/-- The layouts are parts of the template. -/
theorem layoutParts_mem_names : ∀ part ∈ layoutParts, part ∈ parts.map (·.1) := by decide

/-- They have normal names. -/
theorem isNormal_layoutParts : ∀ part ∈ layoutParts, PartName.IsNormal part := by decide

/-- Their names are carried whole. -/
theorem isCarried_layoutParts : ∀ part ∈ layoutParts, Xml.IsCarried part := by decide

/-- The master refers to its layouts by their numbers. -/
theorem masterIds : (Xml.scan masterXml).elements.filterMap (·.attribute? "r:id")
    = layoutNumbers.map fun n => "rId" ++ toString n := by
  obtain ⟨root, heq, hplain, hids, -⟩ := exists_masterXml_eq
  rw [heq, Xml.filterMap_attribute? hplain, hids]

/-- So these are the ids read from its list. -/
theorem layoutIds_masterXml :
    Deck.layoutIds masterXml = .ok (layoutNumbers.map fun n => "rId" ++ toString n) := by
  obtain ⟨root, heq, hplain, -, hids⟩ := exists_masterXml_eq
  have hcomplete : (Xml.scan (Xml.document root)).complete = true := by
    rw [Xml.scan_document_starts hplain]
  have hread : ((Xml.scan (Xml.document root)).elements.filter (·.isNamed "sldLayoutId")).filterMap
      (·.attribute? "r:id")
      = (root.starts.filter (·.isNamed "sldLayoutId")).filterMap (·.value? "r:id") :=
    Xml.filterMap_elements hplain _ fun start hstart => Xml.attribute?_read hstart "r:id"
  simp only [Deck.layoutIds, heq, hcomplete, ite_true, hread, hids]

/-- By these ids the layouts are found. -/
theorem mapM_layoutPart :
    (layoutNumbers.map fun n => "rId" ++ toString n).mapM
      (Deck.layoutPart masterPart masterRelationships) = .ok layoutParts := by
  rfl

/-- A package with the slide master and its relationships has the built-in layouts. -/
theorem masterLayouts_eq_ok {package : Package}
    (hrelationships : package.relationships masterPart = .ok masterRelationships)
    (hget : package.get? masterPart = some (.text masterXml)) :
    Deck.masterLayouts package masterPart = .ok layoutParts := by
  rw [Deck.masterLayouts, hrelationships, Package.text_eq_ok hget, Deck.ofPackage_ok, ok_bind,
    Deck.ofPackage_ok, ok_bind, layoutIds_masterXml, ok_bind, mapM_layoutPart]

end Builtin

end SlideDeck
