import SlideDeck.Proofs.Package.Carried
import SlideDeck.Proofs.Presentation.Addition
import SlideDeck.Proofs.Presentation.Numbering

/-!
# What an addition makes

The parts of an added slide are new (`Made.not_mem_names`), they hold what was given for them, and every
other part of the package stays as it was (`Made.get?_after_of_not_mem`). The relationships of the
slide, read back from the package, lead to the parts they were made for (`Made.resolve_target`).
-/

namespace SlideDeck.Deck.Made

variable (m : Made)

/-! ## Names of parts -/

/-- The part of a slide is numbered, in a folder for slides beside the presentation. -/
theorem exists_part_eq : ∃ n : Nat, m.part = PartName.inFolderOf m.before.presentation
    ("slides" ++ "/" ++ "slide" ++ toString n ++ "." ++ "xml") :=
  ⟨_, PartName.next_eq _ _ _ _⟩

/-- Its name ends in an l, as its extension does. -/
theorem getLast?_part : m.part.toList.getLast? = some 'l' :=
  PartName.getLast?_next _ _ rfl

/-- An image is numbered, in a folder for images beside the presentation. -/
theorem exists_eq_of_mem_media {name : String} (h : name ∈ m.media) :
    ∃ n : Nat, ∃ format : Picture.Format, name = PartName.inFolderOf m.before.presentation
      ("media" ++ "/" ++ "image" ++ toString n ++ "." ++ format.extension) := by
  obtain ⟨n, entry, -, heq⟩ := Deck.exists_eq_of_mem_media _ _ h
  exact ⟨n, entry.1, heq⟩

/-- A name in a folder ends as the name does. -/
theorem getLast?_inFolderOf {part name : String} {c : Char} (h : name.toList.getLast? = some c) :
    (PartName.inFolderOf part name).toList.getLast? = some c := by
  rw [PartName.inFolderOf]
  split
  · rw [String.toList_ofList, List.getLast?_append, List.getLast?_cons, h]
    rfl
  · exact h

/-- The parts of a slide are in folders beside the presentation. -/
theorem depth_lt_of_mem_parts {name : String} (h : name ∈ m.parts) :
    PartName.depth m.before.presentation < PartName.depth name := by
  rcases List.mem_cons.1 h with rfl | h
  · obtain ⟨n, hpart⟩ := m.exists_part_eq
    rw [hpart]
    exact PartName.depth_lt_inFolderOf _ (by simp)
  · obtain ⟨n, format, rfl⟩ := m.exists_eq_of_mem_media h
    exact PartName.depth_lt_inFolderOf _ (by simp)

/-- The part of a slide is not named as one that lists relationships, nor is an image. -/
theorem not_isListing {name : String} (h : name ∈ m.parts) : ¬ PartName.IsListing name := by
  intro hlisting
  have hrels := PartName.getLast?_of_isListing hlisting
  rcases List.mem_cons.1 h with rfl | h
  · rw [getLast?_part] at hrels
    exact absurd hrels (by decide)
  · obtain ⟨n, format, rfl⟩ := m.exists_eq_of_mem_media h
    have hlast : ∃ c, format.extension.toList.getLast? = some c ∧ c ≠ 's' := by
      cases format <;> exact ⟨_, rfl, by decide⟩
    obtain ⟨c, hc, hne⟩ := hlast
    rw [getLast?_inFolderOf (c := c) (by rw [String.toList_append, List.getLast?_append, hc]; rfl)]
      at hrels
    exact hne (Option.some.inj hrels)

/-- No part of a slide but one lists relationships. -/
theorem ne_relationshipsPart {name : String} (h : name ∈ m.parts) (owner : String) :
    name ≠ PartName.relationshipsPart owner :=
  fun heq => m.not_isListing h (heq ▸ PartName.isListing_relationshipsPart owner)

/-- The part of a slide is new, its images included. -/
theorem part_not_mem_stocked : m.part ∉ m.stocked.package.names := PartName.next_not_mem _ _ _

/-- The parts of an added slide are new. -/
theorem not_mem_names {name : String} (h : name ∈ m.parts) : name ∉ m.before.package.names := by
  rcases List.mem_cons.1 h with rfl | h
  · intro hmem
    exact m.part_not_mem_stocked ((mem_names_addMediaAll _ _).2 (.inr hmem))
  · exact not_mem_names_of_mem_media _ _ h

/-- The parts of a slide are different. -/
theorem nodup_parts : m.parts.Nodup :=
  List.nodup_cons.2
    ⟨fun hmem => m.part_not_mem_stocked ((mem_names_addMediaAll _ _).2 (.inl hmem)), nodup_media _ _⟩

/-- The parts after an addition are those before it, the parts of the slide and its relationships. -/
theorem mem_names_after {name : String} :
    name ∈ m.after.package.names
      ↔ name = PartName.relationshipsPart m.part ∨ name ∈ m.parts ∨ name ∈ m.before.package.names := by
  rw [after, Package.mem_names_insertText, Package.mem_names_insertText, parts, List.mem_cons, or_assoc]
  exact or_congr_right (or_congr_right (mem_names_addMediaAll _ _))

/-! ## Contents of parts -/

/-- The relationships of the slide are listed for it. -/
theorem get?_relationshipsPart :
    m.after.package.get? (PartName.relationshipsPart m.part)
      = some (.text (Relationship.listXml m.links)) :=
  Package.get?_insertText_self _ _ _

/-- The part of the slide is the document of its shapes. -/
theorem get?_part : m.after.package.get? m.part = some (.text (Slide.sheet m.shapes)) :=
  (Package.get?_insertText_of_ne _ (m.ne_relationshipsPart List.mem_cons_self _) _).trans
    (Package.get?_insertText_self _ _ _)

/-- All but the parts of the slide stay as they were. -/
theorem get?_after_of_not_mem {name : String} (hrels : name ≠ PartName.relationshipsPart m.part)
    (h : name ∉ m.parts) : m.after.package.get? name = m.before.package.get? name := by
  rw [parts, List.mem_cons, not_or] at h
  rw [after, Package.get?_insertText_of_ne _ hrels, Package.get?_insertText_of_ne _ h.1]
  exact get?_addMediaAll_of_not_mem _ _ h.2

/-- The images are parts with their contents. -/
theorem get?_media :
    List.Forall₂ (fun part entry => m.after.package.get? part = some entry.2)
      m.media m.addition.media := by
  refine forall₂_imp_of_mem (Deck.get?_media m.before m.addition.media) fun part hpart entry hget => ?_
  have hne : part ≠ m.part := fun heq =>
    m.part_not_mem_stocked ((mem_names_addMediaAll _ _).2 (.inl (heq ▸ hpart)))
  have hrels := m.ne_relationshipsPart (List.mem_cons_of_mem _ hpart) m.part
  rw [after, Package.get?_insertText_of_ne _ hrels, Package.get?_insertText_of_ne _ hne]
  exact hget

/-! ## Targets -/

/-- The part has a normal name if the presentation has. -/
theorem isNormal_part (h : PartName.IsNormal m.before.presentation) : PartName.IsNormal m.part := by
  obtain ⟨n, hpart⟩ := m.exists_part_eq
  rw [hpart]
  exact PartName.isNormal_inFolderOf h
    (PartName.isProper_numbered n (by decide) (by decide) (by decide) (by decide))

/-- So have the images. -/
theorem isNormal_of_mem_media (h : PartName.IsNormal m.before.presentation) {name : String}
    (hname : name ∈ m.media) : PartName.IsNormal name := by
  obtain ⟨n, format, rfl⟩ := m.exists_eq_of_mem_media hname
  refine PartName.isNormal_inFolderOf h (PartName.isProper_numbered n (by decide) (by decide) ?_ (by decide))
  cases format <;> decide

/-- The target of the link to an added slide leads to its part. -/
theorem resolve_link (h : PartName.IsNormal m.before.presentation) :
    PartName.resolve m.before.presentation m.link.target = m.part :=
  PartName.resolve_relative h (m.isNormal_part h)

/-- Links to images lead to these images. -/
theorem mem_media_of_mem_linksTo {r : Relationship} (h : r ∈ linksTo m.media) :
    r.target ∈ m.media := by
  match hmedia : m.media, h with
  | [part], h =>
    obtain rfl := List.mem_singleton.1 h
    exact List.mem_cons_self
  | vector :: standIn :: rest, h =>
    rcases List.mem_cons.1 h with rfl | h
    · exact List.mem_cons_of_mem _ List.mem_cons_self
    · obtain rfl := List.mem_singleton.1 h
      exact List.mem_cons_self

/-- The targets of a slide lead from it to the parts they were made for. -/
theorem resolve_target (h : PartName.IsNormal m.before.presentation)
    (hlayout : PartName.IsNormal m.layoutPart) {r : Relationship} (hr : r ∈ m.references) :
    PartName.resolve m.part (PartName.relative m.part r.target) = r.target := by
  refine PartName.resolve_relative (m.isNormal_part h) ?_
  rcases List.mem_cons.1 hr with rfl | hr
  · exact hlayout
  · exact m.isNormal_of_mem_media h (m.mem_media_of_mem_linksTo hr)

/-- A slide has the layout for its first relationship and its images for further ones. -/
theorem ids_links : m.links.map (·.id) = "rId1" :: (linksTo m.media).map (·.id) := by
  rw [links, List.map_map, references, List.map_cons]
  rfl

/-- No two links of a slide have the same id. -/
theorem nodup_ids_linksTo (parts : List String) : ("rId1" :: (linksTo parts).map (·.id)).Nodup := by
  match parts with
  | [] => exact List.nodup_singleton _
  | [part] =>
    show ["rId1", "rId2"].Nodup
    decide
  | vector :: standIn :: rest =>
    show ["rId1", "rId2", "rId3"].Nodup
    decide

/-- Of the relationships of a slide, that to its layout alone has the first id. -/
theorem filter_links : m.links.filter (·.id == "rId1")
    = [.internal "rId1" Relationship.slideLayout (PartName.relative m.part m.layoutPart)] := by
  have hmedia : ∀ parts : List String,
      (linksTo parts).filter (fun r => r.id == "rId1") = [] := by
    intro parts
    match parts with
    | [] => rfl
    | [_] => rfl
    | _ :: _ :: _ => rfl
  rw [links, references, List.map_cons, List.filter_cons_of_pos (by rfl), List.filter_map]
  show _ :: List.map _ ((linksTo m.media).filter fun r => r.id == "rId1") = _
  rw [hmedia]
  rfl

/-- The targets of a slide are inside the package. -/
theorem external_of_mem_links {r : Relationship} (h : r ∈ m.links) : r.external = false := by
  obtain ⟨reference, hreference, rfl⟩ := List.mem_map.1 h
  rcases List.mem_cons.1 hreference with rfl | hmem
  · rfl
  · match m.media, hmem with
    | [part], hmem =>
      obtain rfl := List.mem_singleton.1 hmem
      rfl
    | vector :: standIn :: rest, hmem =>
      rcases List.mem_cons.1 hmem with rfl | hmem
      · rfl
      · obtain rfl := List.mem_singleton.1 hmem
        rfl

/-! ## Reading the relationships back -/

/-- The names of images are carried whole if that of the presentation is. -/
theorem isCarried_of_mem_media (h : Xml.IsCarried m.before.presentation) {name : String}
    (hname : name ∈ m.media) : Xml.IsCarried name := by
  obtain ⟨n, format, rfl⟩ := m.exists_eq_of_mem_media hname
  have hformat : Xml.IsCarried format.extension := by cases format <;> decide
  refine PartName.isCarried_inFolderOf h ?_
  exact .append (.append (.append (by decide) (Xml.isCarried_toString n)) (by decide)) hformat

/-- The ids and types of links are carried whole. -/
theorem isCarried_of_mem_linksTo {parts : List String} {r : Relationship} (h : r ∈ linksTo parts) :
    Xml.IsCarried r.id ∧ Xml.IsCarried r.type := by
  have hsecond : Xml.IsCarried "rId2" ∧ Xml.IsCarried Relationship.image := by decide
  have hthird : Xml.IsCarried "rId3" ∧ Xml.IsCarried Relationship.image := by decide
  match parts, h with
  | [part], h =>
    obtain rfl := List.mem_singleton.1 h
    exact hsecond
  | vector :: standIn :: rest, h =>
    rcases List.mem_cons.1 h with rfl | h
    · exact hsecond
    · obtain rfl := List.mem_singleton.1 h
      exact hthird

/-- So are all relationships of a slide. -/
theorem isCarried_of_mem_links (h : Xml.IsCarried m.before.presentation)
    (hlayout : Xml.IsCarried m.layoutPart) {r : Relationship} (hr : r ∈ m.links) : r.IsCarried := by
  obtain ⟨reference, hreference, rfl⟩ := List.mem_map.1 hr
  have htarget : Xml.IsCarried reference.target →
      Xml.IsCarried (PartName.relative m.part reference.target) := PartName.isCarried_relative m.part
  have hfirst : Xml.IsCarried "rId1" ∧ Xml.IsCarried Relationship.slideLayout := by decide
  rcases List.mem_cons.1 hreference with rfl | hreference
  · exact ⟨hfirst.1, hfirst.2, htarget hlayout⟩
  · obtain ⟨hid, htype⟩ := isCarried_of_mem_linksTo hreference
    have hmedia := m.mem_media_of_mem_linksTo hreference
    exact ⟨hid, htype, htarget (m.isCarried_of_mem_media h hmedia)⟩

/-- A document can carry the link to a slide, whatever the folder of the presentation is called. -/
theorem isCarried_link : m.link.IsCarried := by
  have htype : Xml.IsCarried Relationship.slide := by decide
  obtain ⟨n, hpart⟩ := m.exists_part_eq
  refine ⟨isCarried_nextRelationshipId _, htype, ?_⟩
  show Xml.IsCarried (PartName.relative m.before.presentation m.part)
  rw [hpart, PartName.relative_inFolderOf]
  exact .append (.append (.append (by decide) (Xml.isCarried_toString n)) (by decide)) (by decide)

/-- The links to slides are relationships to slides. -/
theorem filter_map_link (made : List Made) :
    (made.map link).filter (·.type == Relationship.slide) = made.map link := by
  rw [List.filter_eq_self]
  intro r hr
  obtain ⟨m, -, rfl⟩ := List.mem_map.1 hr
  exact beq_self_eq_true Relationship.slide

/-- The relationships of the slide are read back from any package that has them. -/
theorem relationships_eq_links (h : Xml.IsCarried m.before.presentation)
    (hlayout : Xml.IsCarried m.layoutPart) {package : Package}
    (hget : package.get? (PartName.relationshipsPart m.part)
      = m.after.package.get? (PartName.relationshipsPart m.part)) :
    package.relationships m.part = .ok m.links := by
  rw [get?_relationshipsPart] at hget
  refine Package.relationships_eq_ok hget (Relationship.ofXml_listXml_of_isCarried fun r hr => ?_)
  exact m.isCarried_of_mem_links h hlayout hr

end SlideDeck.Deck.Made
