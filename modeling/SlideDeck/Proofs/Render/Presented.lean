import SlideDeck.Proofs.Presentation.Integrity
import SlideDeck.Proofs.Render.Stages
import SlideDeck.Proofs.Slide.Shown
import SlideDeck.Proofs.Text.Lowercase

/-!
# What a presentation shows

`Presents` says of a package that a reader who follows its list of slides, their relationships and their
shapes finds the slides of a run. A package that is made of the built-in template and the slides of a run
presents them (`presents_of_composed`).
-/

namespace SlideDeck

/-- Loading a picture gives the contents of its file. -/
theorem Picture.load_eq_ok {files : File.Tree} {path : File.Path} {picture : Picture}
    (h : Picture.load files path = .ok picture) :
    path.extension?.bind Picture.Format.ofExtension? = some picture.format ∧
      files.read path = .ok picture.contents := by
  rw [load] at h
  split at h
  · cases h
  · next format hformat =>
    split at h
    · cases h
    · next contents hread =>
      rw [hformat, hread]
      unfold ofContents at h
      split at h
      · obtain rfl := Except.ok.inj h
        exact ⟨rfl, rfl⟩
      · split at h
        · obtain rfl := Except.ok.inj h
          exact ⟨rfl, rfl⟩
        · cases h

/-- A picture that was loaded is a vector image just when the extension of its file says so. -/
theorem Picture.format_eq_svg_iff {files : File.Tree} {path : File.Path} {picture : Picture}
    (h : Picture.load files path = .ok picture) : picture.format = .svg ↔
      ∃ extension, path.extension? = some extension ∧ extension.map Char.toLower = "svg".toList := by
  obtain ⟨hformat, -⟩ := load_eq_ok h
  obtain ⟨extension, hextension, hfound⟩ := Option.bind_eq_some_iff.1 hformat
  have hsvg : picture.format = .svg ↔ extension.map Char.toLower = "svg".toList := by
    rw [← Format.ofExtension?_eq_svg_iff, hfound, Option.some.injEq]
  rw [hextension, hsvg]
  constructor
  · exact fun hlower => ⟨extension, rfl, hlower⟩
  · rintro ⟨_, heq, hlower⟩
    obtain rfl := Option.some.inj heq
    exact hlower

namespace Render

open Builtin (presentationPart)
open Deck (Composed Made)
open Slide (Seen AreLines seenItems)

/-! ## Reading a slide -/

/-- Whether a shape shows the lines of a text in a placeholder, by its type and its index, or in none. -/
def IsTextIn (placeholder? : Option (Option String × Option String)) (text : String) (shape : Seen) : Prop :=
  ∃ held, AreLines text held ∧ shape = .paragraphs placeholder? held

/-- Whether shapes show the texts of a slide: its title and, unless it shows a picture, what stands
below it. -/
def ShowsTexts (slide : Slide) (shapes : List Seen) : Prop :=
  match slide.content with
  | .title subtitle =>
    ∃ title below, shapes = [title, below] ∧
      IsTextIn (some (some "ctrTitle", none)) slide.title title ∧
      IsTextIn (some (some "subTitle", some "1")) subtitle below
  | .text body =>
    ∃ title below, shapes = [title, below] ∧ IsTextIn (some (some "title", none)) slide.title title ∧
      IsTextIn none body below
  | .list items =>
    ∃ title, shapes = [title, .paragraphs (some (none, some "1")) (seenItems items)] ∧
      IsTextIn (some (some "title", none)) slide.title title
  | .picture _ | .plot _ _ =>
    ∃ title picture, shapes = [title, picture] ∧ IsTextIn (some (some "title", none)) slide.title title

/-- Whether the last of the shapes in a part is the image in a file. The id of the vector image counts if
there is one, which is so for the extension of vector images. -/
def ShowsPicture (package : Package) (part : String) (shapes : List Seen) (files : File.Tree)
    (path : File.Path) : Prop :=
  ∃ image vector? relationships r contents,
    shapes.getLast? = some (.picture (some image) vector?) ∧
    (vector?.isSome = true ↔
      ∃ extension, path.extension? = some extension ∧ extension.map Char.toLower = "svg".toList) ∧
    package.relationships part = .ok relationships ∧
    relationships.filter (·.id == vector?.getD image) = [r] ∧ r.type = Relationship.image ∧
    files.read path = .ok contents ∧ package.get? (PartName.resolve part r.target) = some contents

/-- The number of the layout that a content is shown on, among those of the master. -/
def layoutNumber : Slide.Content → Nat
  | .title _ => 0
  | .list _ => 1
  | .text _ | .picture _ | .plot .. => 5

/-- A part that shows a slide on its layout. -/
structure Shows (package : Package) (layouts : List String) (part : String) (stage : Stage) : Prop where
  layout_found : ∃ relationships r layout, package.relationships part = .ok relationships ∧
    relationships.filter (·.id == "rId1") = [r] ∧ r.type = Relationship.slideLayout ∧
    Layout.ofKindName stage.slide.kind.name = .ok layout ∧
    layout.index = layoutNumber stage.slide.content ∧
    layouts[layout.index]? = some (PartName.resolve part r.target)
  shapes_read : ∃ xml shapes, package.text part = .ok xml ∧ Slide.readShapes? xml = some shapes ∧
    ShowsTexts stage.slide shapes ∧
    ∀ path, stage.picture? = some path → ShowsPicture package part shapes stage.files path

/-- Whether the list of slides of a package has a slide for each stage, numbered from 256 on in 32 bits, and
shows the slides. -/
def Presents (package : Package) (stages : List Stage) : Prop :=
  ∃ xml relationships master layouts entries,
    package.text presentationPart = .ok xml ∧
    package.relationships presentationPart = .ok relationships ∧
    Deck.targetOf? presentationPart Relationship.slideMaster relationships = some master ∧
    Deck.masterLayouts package master = .ok layouts ∧
    Presentation.listedSlides? xml = some entries ∧
    entries.map (·.1) = (List.range' 256 stages.length).map (fun id => some (toString (id % 2 ^ 32))) ∧
    List.Forall₂ (fun entry stage => ∃ r, entry.2 = some r.id ∧
      relationships.filter (·.id == r.id) = [r] ∧ r.type = Relationship.slide ∧
      Shows package layouts (PartName.resolve presentationPart r.target) stage) entries stages

/-! ## Slides of a run -/

/-- A stage with a picture adds an image. -/
theorem Stage.addition_of_picture? {stage : Stage} {path : File.Path} (h : stage.picture? = some path) :
    stage.addition = .image stage.files stage.slide.kind.layout stage.slide.title path := by
  unfold picture? at h
  split at h
  · next hcontent => simp only [addition, hcontent, Option.some.inj h]
  · next hcontent => simp only [addition, hcontent, Option.some.inj h]
  · cases h

/-- A stage asks for the layout of its slide. -/
theorem Stage.layout_addition (stage : Stage) :
    stage.addition.layout = stage.slide.kind.layout := by
  rw [addition]
  cases stage.slide.content <;> rfl

variable {made : List Made} {types : List TypeEntry} {package : Package} {m : Made} {stage : Stage}

/-- The layout of a slide is found by the name of its kind. -/
theorem ofKindName_name (slide : Slide) :
    ∃ layout, Layout.ofKindName slide.kind.name = .ok layout ∧ layout = slide.kind.layout ∧
      layout.index = layoutNumber slide.content := by
  refine ⟨slide.kind.layout, ?_, rfl, ?_⟩
  · rw [Layout.ofKindName, Slide.Kind.ofName, Slide.Kind.ofName?_name]
    rfl
  · rw [Slide.kind]
    cases slide.content <;> rfl

/-- The layout of a slide is found from its part. -/
theorem layout_found (h : Composed made types package) (hm : m ∈ made)
    (hstage : m.addition = stage.addition) :
    ∃ relationships r layout, package.relationships m.part = .ok relationships ∧
      relationships.filter (·.id == "rId1") = [r] ∧ r.type = Relationship.slideLayout ∧
      Layout.ofKindName stage.slide.kind.name = .ok layout ∧
      layout.index = layoutNumber stage.slide.content ∧
      Builtin.layoutParts[layout.index]? = some (PartName.resolve m.part r.target) := by
  obtain ⟨layout, hlayout, rfl, hnumber⟩ := ofKindName_name stage.slide
  refine ⟨m.links, _, _, h.relationships_eq_links hm, m.filter_links, rfl, hlayout, hnumber, ?_⟩
  have htarget := h.resolve_target hm (r := .internal "rId1" Relationship.slideLayout m.layoutPart)
    List.mem_cons_self
  have hlayout := h.layout_found m hm
  rw [hstage, Stage.layout_addition] at hlayout
  exact hlayout.trans (congrArg some htarget.symm)

/-- The picture of a stage that was added has been loaded. -/
theorem exists_load {path : File.Path} (hpath : stage.picture? = some path)
    (hon : ∃ next, stage.addition.on m.before = .ok next) :
    ∃ picture, Picture.load stage.files path = .ok picture := by
  obtain ⟨next, hon⟩ := hon
  rw [Stage.addition_of_picture? hpath] at hon
  obtain ⟨-, layoutPart, picture, -, hload, -⟩ := Deck.addImage_eq_ok hon
  exact ⟨picture, hload⟩

/-- The shapes of a slide with a picture. -/
theorem shapes_of_picture? (hstage : m.addition = stage.addition) {path : File.Path}
    (hpath : stage.picture? = some path) {picture : Picture}
    (hload : Picture.load stage.files path = .ok picture) :
    m.shapes = [.title false stage.slide.title,
      Deck.pictureShape m.before.contentFrame path picture] := by
  rw [Made.shapes, hstage, Stage.addition_of_picture? hpath, Deck.Addition.shapes, hload]
  rfl

/-- The images of the addition are those of the picture. -/
theorem media_of_picture? (hstage : m.addition = stage.addition) {path : File.Path}
    (hpath : stage.picture? = some path) {picture : Picture}
    (hload : Picture.load stage.files path = .ok picture) : m.addition.media = picture.media := by
  rw [hstage, Stage.addition_of_picture? hpath, Deck.Addition.media, Deck.Addition.picture?, hload]
  rfl

/-- A shape that shows the lines a text is cut into shows the text. -/
theorem isTextIn_textLines (placeholder? : Option (Option String × Option String)) (text : String) :
    IsTextIn placeholder? text (.paragraphs placeholder? ((Slide.textLines text).map Slide.seenLine)) :=
  ⟨_, ⟨_, Slide.isLines_textLines text, rfl⟩, rfl⟩

/-- The shapes of a slide show its texts. -/
theorem showsTexts (hstage : m.addition = stage.addition)
    (hon : ∃ next, stage.addition.on m.before = .ok next) :
    ShowsTexts stage.slide (m.shapes.map Slide.Shape.seen) := by
  have hpicture : ∀ path, stage.picture? = some path → ∃ title picture,
      m.shapes.map Slide.Shape.seen = [title, picture] ∧
        IsTextIn (some (some "title", none)) stage.slide.title title := by
    intro path hpath
    obtain ⟨picture, hload⟩ := exists_load hpath hon
    rw [shapes_of_picture? hstage hpath hload]
    exact ⟨_, _, rfl, isTextIn_textLines _ _⟩
  -- a picture is loaded for a picture slide and for a plot; other slides are read off their shapes
  rw [ShowsTexts]
  split
  · next subtitle hcontent =>
    rw [Made.shapes, hstage, Stage.addition, hcontent]
    exact ⟨_, _, rfl, isTextIn_textLines _ _, isTextIn_textLines _ _⟩
  · next body hcontent =>
    rw [Made.shapes, hstage, Stage.addition, hcontent]
    exact ⟨_, _, rfl, isTextIn_textLines _ _, isTextIn_textLines _ _⟩
  · next items hcontent =>
    have hitems : ((items.map (·.level)).zip (items.map (·.text))).map
        (fun item => (⟨item.1, item.2⟩ : ListItem)) = items := by
      rw [List.zip_map', List.map_map]
      exact List.map_id items
    rw [Made.shapes, hstage, Stage.addition, hcontent]
    refine ⟨_, ?_, isTextIn_textLines _ _⟩
    show [_, Seen.paragraphs _ (seenItems (((items.map (·.level)).zip (items.map (·.text))).map
      fun item => ⟨item.1, item.2⟩))] = _
    rw [hitems]
    rfl
  · next path hcontent =>
    exact hpicture path (by rw [Stage.picture?, hcontent])
  · next source labels hcontent =>
    exact hpicture stage.image (by rw [Stage.picture?, hcontent])

/-- The image of a slide is a part with the contents of the file. -/
theorem exists_media (h : Composed made types package) (hm : m ∈ made)
    (hstage : m.addition = stage.addition) {path : File.Path} (hpath : stage.picture? = some path)
    {picture : Picture} (hload : Picture.load stage.files path = .ok picture) :
    ∃ part r, r ∈ m.references ∧ r.target = part ∧ r.type = Relationship.image ∧
      (r.id = if picture.format = .svg then "rId3" else "rId2") ∧
      (m.references.filter (·.id == r.id) = [r]) ∧ package.get? part = some picture.contents := by
  have hmedia := m.get?_media
  have hkept : ∀ part ∈ m.media, package.get? part = m.after.package.get? part := fun part hpart =>
    h.get?_owned m hm part (.inr (List.mem_cons_of_mem _ hpart))
  rw [media_of_picture? hstage hpath hload, Picture.media] at hmedia
  rw [Made.references]
  generalize m.media = names at hmedia hkept
  split at hmedia
  · next hsvg =>
    -- the vector image comes first and its stand-in second
    obtain ⟨vector, rest, hvector, hrest, rfl⟩ := List.forall₂_cons_right_iff.1 hmedia
    obtain ⟨standIn, _, -, hnil, rfl⟩ := List.forall₂_cons_right_iff.1 hrest
    obtain rfl := List.forall₂_nil_right_iff.1 hnil
    refine ⟨vector, .internal "rId3" Relationship.image vector, by simp [Deck.linksTo], rfl, rfl, ?_, rfl,
      (hkept vector List.mem_cons_self).trans hvector⟩
    rw [if_pos hsvg]
    rfl
  · next hsvg =>
    obtain ⟨part, _, hpart, hnil, rfl⟩ := List.forall₂_cons_right_iff.1 hmedia
    obtain rfl := List.forall₂_nil_right_iff.1 hnil
    refine ⟨part, .internal "rId2" Relationship.image part, by simp [Deck.linksTo], rfl, rfl, ?_, rfl,
      (hkept part List.mem_cons_self).trans hpart⟩
    rw [if_neg hsvg]
    rfl

/-- The last shape of a slide with a picture shows it. -/
theorem showsPicture (h : Composed made types package) (hm : m ∈ made)
    (hstage : m.addition = stage.addition) (hon : ∃ next, stage.addition.on m.before = .ok next)
    {path : File.Path} (hpath : stage.picture? = some path) :
    ShowsPicture package m.part (m.shapes.map Slide.Shape.seen) stage.files path := by
  obtain ⟨picture, hload⟩ := exists_load hpath hon
  obtain ⟨-, hread⟩ := Picture.load_eq_ok hload
  obtain ⟨part, r, hr, rfl, htype, hid, hfilter, hget⟩ := exists_media h hm hstage hpath hload
  have hid' : (if picture.format = .svg then some "rId3" else none).getD "rId2" = r.id := by
    rw [hid]
    split <;> rfl
  refine ⟨"rId2", if picture.format = .svg then some "rId3" else none, m.links,
    { r with target := PartName.relative m.part r.target }, picture.contents, ?_, ?_,
    h.relationships_eq_links hm, ?_, htype, hread, ?_⟩
  · have hraster : Xml.carried "rId2" = "rId2" := by decide
    have hvector : Xml.carried "rId3" = "rId3" := by decide
    rw [shapes_of_picture? hstage hpath hload]
    show some (Seen.picture (some (Xml.carried "rId2"))
      ((if picture.format = .svg then some "rId3" else none).map Xml.carried)) = _
    rw [hraster]
    split
    · rw [Option.map_some, hvector]
    · rfl
  · rw [← Picture.format_eq_svg_iff hload]
    split
    · next hsvg => exact iff_of_true rfl hsvg
    · next hsvg => exact iff_of_false Bool.false_ne_true hsvg
  · rw [hid', Made.links, List.filter_map]
    show (m.references.filter (·.id == r.id)).map _ = _
    rw [hfilter]
    rfl
  · show package.get? (PartName.resolve m.part (PartName.relative m.part r.target)) = _
    rw [h.resolve_target hm hr, hget]

/-- The part of a slide shows it. -/
theorem shows_of_composed (h : Composed made types package) (hm : m ∈ made)
    (hstage : m.addition = stage.addition) (hon : ∃ next, stage.addition.on m.before = .ok next) :
    Shows package Builtin.layoutParts m.part stage where
  layout_found := layout_found h hm hstage
  shapes_read := ⟨_, _, Package.text_eq_ok (h.get?_part hm), Slide.readShapes?_sheet m.shapes,
    showsTexts hstage hon, fun _ hpath => showsPicture h hm hstage hon hpath⟩

/-! ## All slides -/

/-- With different ids, the id of a relationship leads to it alone. -/
theorem filter_id_eq_singleton {relationships : List Relationship}
    (hnodup : (relationships.map (·.id)).Nodup) {r : Relationship} (hr : r ∈ relationships) :
    relationships.filter (·.id == r.id) = [r] := by
  induction relationships with
  | nil => cases hr
  | cons first rest ih =>
    rw [List.map_cons, List.nodup_cons] at hnodup
    rcases List.mem_cons.1 hr with rfl | hr
    · have hrest : rest.filter (·.id == r.id) = [] := by
        rw [List.filter_eq_nil_iff]
        intro other hother heq
        exact hnodup.1 (beq_iff_eq.1 heq ▸ List.mem_map_of_mem hother)
      rw [List.filter_cons, hrest, if_pos (beq_self_eq_true r.id)]
    · have hne : ¬ (first.id == r.id) = true := fun heq =>
        hnodup.1 (beq_iff_eq.1 heq ▸ List.mem_map_of_mem hr)
      rw [List.filter_cons, if_neg hne, ih hnodup.2 hr]

/-- A package of the template and the slides of a run presents them. -/
theorem presents_of_composed (h : Composed made types package)
    (hids : made.map (·.slide.id) = (List.range' 256 made.length).map (· % 2 ^ 32)) {stages : List Stage}
    (hstages : List.Forall₂ (fun m stage => m.addition = stage.addition ∧
      ∃ next, stage.addition.on m.before = .ok next) made stages) : Presents package stages := by
  have hmaster : Deck.targetOf? presentationPart Relationship.slideMaster
      (Builtin.presentationRelationships ++ made.map Made.link) = some Builtin.masterPart :=
    Deck.targetOf?_append (by decide) _
  refine ⟨_, _, _, _, _, Package.text_eq_ok h.get?_presentation, h.relationships_presentation, hmaster,
    h.masterLayouts_eq_ok, Deck.listedSlides?_presentationNode (Composed.isVerbatim_slides made), ?_, ?_⟩
  · have hwritten : (made.map (·.slide.id)).map (fun id => some (toString id))
        = (List.range' 256 made.length).map fun id => some (toString (id % 2 ^ 32)) := by
      rw [hids, List.map_map]
      rfl
    rw [← hstages.length_eq, ← hwritten]
    simp only [List.map_map]
    rfl
  · rw [List.map_map, List.forall₂_map_left_iff]
    -- each entry leads by its one relationship to the part of its slide
    refine forall₂_imp_of_mem hstages fun m hm stage hstage => ?_
    refine ⟨m.link, rfl, filter_id_eq_singleton h.nodup_relationships ?_, rfl, ?_⟩
    · exact List.mem_append_right _ (List.mem_map_of_mem hm)
    · rw [h.resolve_link hm]
      exact shows_of_composed h hm hstage.1 hstage.2

end Render

end SlideDeck
