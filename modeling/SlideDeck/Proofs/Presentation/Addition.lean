import SlideDeck.Presentation.Deck
import SlideDeck.Proofs.Outcome
import SlideDeck.Proofs.Package.Naming
import SlideDeck.Proofs.Package.Parts

/-!
# Additions to a deck

An `Addition` is a call that adds a slide. If it succeeds on a deck, the deck it leaves is `Made.after`
(`Addition.eq_after_of_on`): the media of the slide, its part and its relationships are new parts, and
the rest of the package stays as it was. A `Record` is a deck with the additions that have succeeded.
-/

namespace SlideDeck

/-- The media of a picture. A vector image comes first and its stand-in second. -/
def Picture.media (picture : Picture) : List (Picture.Format × File.Contents) :=
  match picture.format with
  | .svg => [(.svg, picture.contents), (.png, Picture.standIn picture.pixels)]
  | format => [(format, picture.contents)]

namespace Deck

/-- A slide to be added, with the files at that time if it shows one of them. -/
inductive Addition where
  | title (layout : Layout) (title subtitle : String)
  | text (layout : Layout) (title body : String)
  | list (layout : Layout) (title : String) (levels : List UInt32) (texts : List String)
  | image (files : File.Tree) (layout : Layout) (title : String) (path : File.Path)

/-! ## Media -/

/-- The deck with media parts, and the names of these parts. -/
def addMediaAll (deck : Deck) : List (Picture.Format × File.Contents) → List String × Deck
  | [] => ([], deck)
  | (format, contents) :: rest =>
    let (part, next) := deck.addMedia format contents
    let (parts, last) := next.addMediaAll rest
    (part :: parts, last)

/-- The relationships of a slide to the media parts of its picture. -/
def linksTo : List String → List Relationship
  | [] => []
  | [part] => [.internal "rId2" Relationship.image part]
  | vector :: standIn :: _ =>
    [.internal "rId2" Relationship.image standIn, .internal "rId3" Relationship.image vector]

/-- Adding a picture is adding its images and linking to them. -/
theorem addPicture_eq (deck : Deck) (picture : Picture) :
    deck.addPicture picture
      = (linksTo (deck.addMediaAll picture.media).1, (deck.addMediaAll picture.media).2) := by
  rw [addPicture, Picture.media]
  cases picture.format <;> rfl

section Media

variable (deck : Deck) (media : List (Picture.Format × File.Contents))

/-- Media change the package and the types of the media, and nothing else. -/
theorem addMediaAll_eq :
    (deck.addMediaAll media).2
      = { deck with
          package := (deck.addMediaAll media).2.package
          mediaTypes := (deck.addMediaAll media).2.mediaTypes } := by
  induction media generalizing deck with
  | nil => rfl
  | cons entry media ih => exact ih (deck.addMedia entry.1 entry.2).2

/-- The parts after adding images are those before and the images. -/
theorem mem_names_addMediaAll {name : String} :
    name ∈ (deck.addMediaAll media).2.package.names
      ↔ name ∈ (deck.addMediaAll media).1 ∨ name ∈ deck.package.names := by
  induction media generalizing deck with
  | nil => simp [addMediaAll]
  | cons entry media ih =>
    refine (ih (deck.addMedia entry.1 entry.2).2).trans ?_
    rw [addMediaAll, List.mem_cons, or_assoc, or_left_comm]
    exact or_congr_right Package.mem_names_insert

/-- The images are new parts. -/
theorem not_mem_names_of_mem_media {name : String} (h : name ∈ (deck.addMediaAll media).1) :
    name ∉ deck.package.names := by
  induction media generalizing deck with
  | nil => cases h
  | cons entry media ih =>
    rcases List.mem_cons.1 h with rfl | h
    · exact PartName.next_not_mem _ _ _
    · intro hmem
      exact ih (deck.addMedia entry.1 entry.2).2 h (Package.mem_names_insert.2 (.inr hmem))

/-- They are parts of their own, one each. -/
theorem nodup_media : (deck.addMediaAll media).1.Nodup := by
  induction media generalizing deck with
  | nil => exact List.nodup_nil
  | cons entry media ih =>
    refine List.nodup_cons.2 ⟨fun hmem => ?_, ih _⟩
    exact not_mem_names_of_mem_media _ media hmem (Package.mem_names_insert.2 (.inl rfl))

/-- Adding images changes no other part. -/
theorem get?_addMediaAll_of_not_mem {name : String} (h : name ∉ (deck.addMediaAll media).1) :
    (deck.addMediaAll media).2.package.get? name = deck.package.get? name := by
  induction media generalizing deck with
  | nil => rfl
  | cons entry media ih =>
    rw [addMediaAll, List.mem_cons, not_or] at h
    refine (ih (deck.addMedia entry.1 entry.2).2 h.2).trans ?_
    exact Package.get?_insert_of_ne _ h.1 _

/-- Each media part has the contents that were given for it. -/
theorem get?_media :
    List.Forall₂ (fun part entry => (deck.addMediaAll media).2.package.get? part = some entry.2)
      (deck.addMediaAll media).1 media := by
  induction media generalizing deck with
  | nil => exact .nil
  | cons entry media ih =>
    refine .cons ?_ (ih _)
    have hnext : (deck.addMedia entry.1 entry.2).1 ∈ (deck.addMedia entry.1 entry.2).2.package.names :=
      Package.mem_names_insert.2 (.inl rfl)
    -- later media take other names, so that the first part stays
    have hlater := fun hmem => not_mem_names_of_mem_media _ media hmem hnext
    exact (get?_addMediaAll_of_not_mem _ media hlater).trans (Package.get?_insert_self _ _ _)

/-- Media parts are images with numbers in a folder beside the slides. -/
theorem exists_eq_of_mem_media {name : String} (h : name ∈ (deck.addMediaAll media).1) :
    ∃ n : Nat, ∃ entry ∈ media, name = PartName.inFolderOf deck.presentation
      ("media" ++ "/" ++ "image" ++ toString n ++ "." ++ entry.1.extension) := by
  induction media generalizing deck with
  | nil => cases h
  | cons entry media ih =>
    rcases List.mem_cons.1 h with rfl | h
    · exact ⟨_, entry, List.mem_cons_self, PartName.next_eq _ _ _ _⟩
    · obtain ⟨n, other, hother, heq⟩ := ih _ h
      exact ⟨n, other, List.mem_cons_of_mem entry hother, heq⟩

end Media

/-! ## The deck that an addition leaves -/

/-- The picture of a slide in the area for it. -/
def pictureShape (area : Slide.Frame) (path : File.Path) (picture : Picture) : Slide.Shape :=
  .picture (pictureFrame Float area picture.pixels) "rId2"
    (if picture.format = .svg then some "rId3" else none) (String.ofList (path.fileName?.getD []))

namespace Addition

/-- The call on a deck. -/
def on : Addition → Deck → Except Error Deck
  | .title layout heading subtitle, deck => deck.addTitle layout heading subtitle
  | .text layout heading body, deck => deck.addText layout heading body
  | .list layout heading levels texts, deck => deck.addList layout heading levels texts
  | .image files layout heading path, deck => deck.addImage files layout heading path

def layout : Addition → Layout
  | .title layout _ _ | .text layout _ _ | .list layout _ _ _ | .image _ layout _ _ => layout

/-- The picture that a slide shows, if it shows one. -/
def picture? : Addition → Option Picture
  | .image files _ _ path => (Picture.load files path).toOption
  | _ => none

/-- The media of the picture on a slide. -/
def media (a : Addition) : List (Picture.Format × File.Contents) :=
  (a.picture?.map Picture.media).getD []

/-- The shapes of a slide with an area below the title. -/
def shapes (area : Slide.Frame) : Addition → List Slide.Shape
  | .title _ heading subtitle => [.title true heading, .subtitle subtitle]
  | .text _ heading body => [.title false heading, .textBox area body]
  | .list _ heading levels texts =>
    [.title false heading, .list ((levels.zip texts).map fun (level, line) => ⟨level, line⟩)]
  | .image files _ heading path =>
    .title false heading :: ((Picture.load files path).toOption.map (pictureShape area path)).toList

end Addition

/-- An addition that succeeded, with the deck it was made to. -/
structure Made where
  addition : Addition
  before : Deck

namespace Made

variable (m : Made)

/-- The names of the media parts of the slide. -/
def media : List String := (m.before.addMediaAll m.addition.media).1

/-- The deck with these parts. -/
def stocked : Deck := (m.before.addMediaAll m.addition.media).2

/-- The part of the slide. -/
def part : String :=
  m.stocked.package.nextPartName (PartName.inFolderOf m.before.presentation "slides/slide") "xml"

/-- The parts of the slide, apart from its relationships. -/
def parts : List String := m.part :: m.media

/-- The part of the layout of the slide. -/
def layoutPart : String := (m.before.layouts[m.addition.layout.index]?).getD ""

def shapes : List Slide.Shape := m.addition.shapes m.before.contentFrame

/-- The parts that the slide refers to. -/
def references : List Relationship :=
  .internal "rId1" Relationship.slideLayout m.layoutPart :: linksTo m.media

/-- The relationships of the slide. -/
def links : List Relationship :=
  m.references.map fun r => { r with target := PartName.relative m.part r.target }

/-- The slide as the deck holds it. -/
def slide : Added := ⟨m.part, nextRelationshipId m.before.relationships, m.before.nextId.toNat⟩

/-- The relationship of the presentation to the slide. -/
def link : Relationship :=
  .internal m.slide.relationship Relationship.slide (PartName.relative m.before.presentation m.part)

/-- The deck with the slide. -/
def after : Deck :=
  { m.before with
    package := (m.stocked.package.insertText m.part (Slide.sheet m.shapes)).insertText
      (PartName.relationshipsPart m.part) (Relationship.listXml m.links)
    relationships := m.before.relationships ++ [m.link]
    added := m.before.added ++ [m.slide]
    nextId := m.before.nextId + 1
    mediaTypes := m.stocked.mediaTypes }

end Made

/-- Pushing a slide behind its images gives the deck after the addition. -/
theorem push_stocked {a : Addition} {deck : Deck} {layoutPart : String}
    (h : deck.layouts[a.layout.index]? = some layoutPart) :
    (deck.addMediaAll a.media).2.push layoutPart (a.shapes deck.contentFrame)
      (linksTo (deck.addMediaAll a.media).1) = (Made.mk a deck).after := by
  have hlayout : (Made.mk a deck).layoutPart = layoutPart := by rw [Made.layoutPart, h]; rfl
  have hfields := addMediaAll_eq deck a.media
  rw [Made.after, Made.links, Made.references, hlayout, push]
  -- all but the package and the types of media is as in the deck before
  generalize hstocked : deck.addMediaAll a.media = stocked at *
  obtain ⟨parts, next⟩ := stocked
  simp only [] at hfields
  rw [hfields]
  simp only [Made.part, Made.stocked, Made.media, Made.shapes, Made.link, Made.slide, hstocked]

/-- A deck that passes the check has not been finished. -/
theorem checkOpen_eq_ok {deck : Deck} (h : deck.checkOpen = .ok ()) : deck.finalized = false := by
  rw [checkOpen] at h
  split at h
  · cases h
  · next hopen => exact Bool.not_eq_true _ ▸ hopen

/-- A layout that is found is at its number among those of the deck. -/
theorem layoutOf_eq_ok {deck : Deck} {layout : Layout} {part : String}
    (h : deck.layoutOf layout = .ok part) : deck.layouts[layout.index]? = some part := by
  rw [layoutOf] at h
  split at h
  · next found hfound => rw [hfound, Except.ok.inj h]
  · cases h

/-- Shapes are added on the layout that they ask for. -/
theorem addShapes_eq_ok {deck next : Deck} {layout : Layout} {shapes : List Slide.Shape}
    (h : deck.addShapes layout shapes = .ok next) :
    ∃ layoutPart, deck.layouts[layout.index]? = some layoutPart ∧
      deck.push layoutPart shapes [] = next := by
  obtain ⟨layoutPart, hlayout, hnext⟩ := exists_of_bind_eq_ok h
  exact ⟨layoutPart, layoutOf_eq_ok hlayout, Except.ok.inj hnext⟩

/-- An image is added to an open deck, on the layout that it asks for, once it has been loaded. -/
theorem addImage_eq_ok {deck next : Deck} {files : File.Tree} {layout : Layout} {title : String}
    {path : File.Path} (h : deck.addImage files layout title path = .ok next) :
    deck.finalized = false ∧ ∃ layoutPart picture, deck.layouts[layout.index]? = some layoutPart ∧
      Picture.load files path = .ok picture ∧
      (deck.addPicture picture).2.push layoutPart
        [.title false title, pictureShape deck.contentFrame path picture]
        (deck.addPicture picture).1 = next := by
  obtain ⟨_, hopen, h⟩ := exists_of_bind_eq_ok h
  obtain ⟨layoutPart, hlayout, h⟩ := exists_of_bind_eq_ok h
  match hload : Picture.load files path, h with
  | .ok picture, h =>
    exact ⟨checkOpen_eq_ok hopen, layoutPart, picture, layoutOf_eq_ok hlayout, rfl, Except.ok.inj h⟩
  | .error fault, h => cases h

/-- What an addition that succeeds has looked up, and what it has made of that. -/
theorem Addition.exists_push_of_on {a : Addition} {deck next : Deck} (h : a.on deck = .ok next) :
    deck.finalized = false ∧ ∃ layoutPart, deck.layouts[a.layout.index]? = some layoutPart ∧
      (deck.addMediaAll a.media).2.push layoutPart (a.shapes deck.contentFrame)
        (linksTo (deck.addMediaAll a.media).1) = next := by
  cases a with
  | title layout title subtitle =>
    obtain ⟨_, hopen, h⟩ := exists_of_bind_eq_ok h
    exact ⟨checkOpen_eq_ok hopen, addShapes_eq_ok h⟩
  | text layout title body =>
    obtain ⟨_, hopen, h⟩ := exists_of_bind_eq_ok h
    exact ⟨checkOpen_eq_ok hopen, addShapes_eq_ok h⟩
  | list layout title levels texts =>
    obtain ⟨_, hopen, h⟩ := exists_of_bind_eq_ok h
    by_cases hlengths : levels.length ≠ texts.length
    · rw [if_pos hlengths] at h
      cases h
    · rw [if_neg hlengths] at h
      exact ⟨checkOpen_eq_ok hopen, addShapes_eq_ok h⟩
  | image files layout title path =>
    obtain ⟨hopen, layoutPart, picture, hlayout, hload, hnext⟩ := addImage_eq_ok h
    refine ⟨hopen, layoutPart, hlayout, ?_⟩
    have hpicture : (Picture.load files path).toOption = some picture := by rw [hload]; rfl
    rw [addPicture_eq] at hnext
    rw [Addition.media, Addition.picture?, Addition.shapes, hpicture]
    exact hnext

/-- What an addition does if it succeeds: the deck is open and has the layout. -/
theorem Addition.eq_after_of_on {a : Addition} {deck next : Deck} (h : a.on deck = .ok next) :
    deck.finalized = false ∧ deck.layouts[a.layout.index]? = some (Made.mk a deck).layoutPart ∧
      next = (Made.mk a deck).after := by
  obtain ⟨hopen, layoutPart, hlayout, hnext⟩ := Addition.exists_push_of_on h
  refine ⟨hopen, ?_, hnext.symm.trans (push_stocked hlayout)⟩
  rw [Made.layoutPart, hlayout]
  rfl

/-- Whether what is to be shown can be: a list has a level for each text, and a picture can be loaded. -/
def Addition.IsShowable : Addition → Prop
  | .title _ _ _ | .text _ _ _ => True
  | .list _ _ levels texts => levels.length = texts.length
  | .image files _ _ path => ∃ picture, Picture.load files path = .ok picture

/-- If there is the layout, shapes are added. -/
theorem addShapes_of_layout {deck : Deck} {layout : Layout} {part : String}
    (h : deck.layouts[layout.index]? = some part) (shapes : List Slide.Shape) :
    deck.addShapes layout shapes = .ok (deck.push part shapes []) := by
  rw [addShapes, layoutOf, h]
  rfl

/-- An addition succeeds on an open deck with the layout if its slide can be shown. -/
theorem Addition.exists_on_eq_ok {a : Addition} {deck : Deck} {part : String}
    (hopen : deck.finalized = false) (hlayout : deck.layouts[a.layout.index]? = some part)
    (hshow : a.IsShowable) : ∃ next, a.on deck = .ok next := by
  have hcheck : deck.checkOpen = .ok () := by
    rw [checkOpen, hopen]
    rfl
  have hfound : deck.layoutOf a.layout = .ok part := by rw [layoutOf, hlayout]
  cases a with
  | title layout title subtitle =>
    have hshapes : ∀ shapes, deck.addShapes layout shapes = .ok (deck.push part shapes []) :=
      addShapes_of_layout hlayout
    exact ⟨_, by rw [on, addTitle, hcheck, ok_bind, hshapes]⟩
  | text layout title body =>
    have hshapes : ∀ shapes, deck.addShapes layout shapes = .ok (deck.push part shapes []) :=
      addShapes_of_layout hlayout
    exact ⟨_, by rw [on, addText, hcheck, ok_bind, hshapes]⟩
  | list layout title levels texts =>
    have hshapes : ∀ shapes, deck.addShapes layout shapes = .ok (deck.push part shapes []) :=
      addShapes_of_layout hlayout
    have hlengths : ¬ levels.length ≠ texts.length := not_not_intro hshow
    have hlist : (Addition.list layout title levels texts).on deck = deck.addShapes layout
        [.title false title, .list ((levels.zip texts).map fun (level, line) => ⟨level, line⟩)] := by
      rw [on, addList, hcheck, ok_bind, if_neg hlengths]
    exact ⟨_, hlist.trans (hshapes _)⟩
  | image files layout title path =>
    obtain ⟨picture, hpicture⟩ := hshow
    have hsame : deck.layoutOf layout = .ok part := hfound
    rw [on, addImage, hcheck, ok_bind, hsame, ok_bind, hpicture]
    exact ⟨_, rfl⟩

/-- What was added could be shown. -/
theorem Addition.isShowable_of_on {a : Addition} {deck next : Deck} (h : a.on deck = .ok next) :
    a.IsShowable := by
  cases a with
  | title layout title subtitle => trivial
  | text layout title body => trivial
  | list layout title levels texts =>
    by_contra hshow
    have hlengths : levels.length ≠ texts.length := hshow
    obtain ⟨_, -, h⟩ := exists_of_bind_eq_ok h
    rw [if_pos hlengths] at h
    cases h
  | image files layout title path =>
    obtain ⟨-, -, picture, -, hload, -⟩ := addImage_eq_ok h
    exact ⟨picture, hload⟩

/-- An addition succeeds exactly on an open deck with the layout if its slide can be shown. -/
theorem Addition.exists_on_eq_ok_iff {a : Addition} {deck : Deck} :
    (∃ next, a.on deck = .ok next) ↔
      deck.finalized = false ∧ (∃ part, deck.layouts[a.layout.index]? = some part) ∧ a.IsShowable := by
  constructor
  · rintro ⟨next, hnext⟩
    obtain ⟨hopen, hlayout, -⟩ := eq_after_of_on hnext
    exact ⟨hopen, ⟨_, hlayout⟩, isShowable_of_on hnext⟩
  · rintro ⟨hopen, ⟨part, hlayout⟩, hshow⟩
    exact exists_on_eq_ok hopen hlayout hshow

end Deck

end SlideDeck
