import SlideDeck.Proofs.Presentation.Preserved

/-!
# Texts stay on their slides

Two runs of additions that differ in the texts of one slide alone give packages with the same parts, which
have the same contents but for the part of that slide (`agreeBut_register`). No name, id, relationship or
content type depends on what is written on a slide.

Two decks `AgreeBut` for a part if they could be told apart only by the contents of that part. What an
addition gives out depends on the names of parts and on the other fields of a deck, so that decks that
agree go on to agree, and so do the packages into which their slides are entered.
-/

namespace SlideDeck

/-! ## Packages -/

namespace Ascending

variable {ν : Type}

/-- Where a key is put depends on the keys of a table alone. -/
theorem keys_insert_congr {first second : List (String × ν)} (h : first.map (·.1) = second.map (·.1))
    (key : String) (value other : ν) :
    (insert key value first).map (·.1) = (insert key other second).map (·.1) := by
  induction first generalizing second with
  | nil =>
    obtain rfl := List.map_eq_nil_iff.1 h.symm
    rfl
  | cons entry first ih =>
    cases second with
    | nil => cases h
    | cons entry' second =>
      rw [List.map_cons, List.map_cons, List.cons.injEq] at h
      obtain ⟨hkey, hrest⟩ := h
      rw [insert, insert, hkey]
      split
      · simp [hrest]
      · split
        · simp [hrest]
        · simp [ih hrest]

end Ascending

namespace Package

/-- Whether two packages have the same parts, and the same contents of all of them but one. -/
structure AgreeBut (own : String) (first second : Package) : Prop where
  names_eq : first.names = second.names
  get?_eq : ∀ name, name ≠ own → first.get? name = second.get? name

namespace AgreeBut

variable {own : String} {first second : Package}

theorem refl (own : String) (package : Package) : AgreeBut own package package :=
  ⟨rfl, fun _ _ => rfl⟩

/-- Inserting the same part keeps packages alike. -/
theorem insert (h : AgreeBut own first second) (name : String) (contents : File.Contents) :
    AgreeBut own (first.insert name contents) (second.insert name contents) where
  names_eq := Ascending.keys_insert_congr h.names_eq name contents contents
  get?_eq := by
    intro other hother
    by_cases hname : other = name
    · rw [hname, get?_insert_self, get?_insert_self]
    · rw [get?_insert_of_ne _ hname, get?_insert_of_ne _ hname]
      exact h.get?_eq other hother

/-- The contents of the one part may differ. -/
theorem insert_own (h : AgreeBut own first second) (contents other : File.Contents) :
    AgreeBut own (first.insert own contents) (second.insert own other) where
  names_eq := Ascending.keys_insert_congr h.names_eq own contents other
  get?_eq := by
    intro name hname
    rw [get?_insert_of_ne _ hname, get?_insert_of_ne _ hname]
    exact h.get?_eq name hname

/-- Packages that are alike give out the same names. -/
theorem nextPartName_eq (h : AgreeBut own first second) (stem extension : String) :
    first.nextPartName stem extension = second.nextPartName stem extension := by
  rw [nextPartName, nextPartName, h.names_eq]

/-- They have the same texts but for the part that may differ. -/
theorem text_eq (h : AgreeBut own first second) {name : String} (hname : name ≠ own) :
    first.text name = second.text name :=
  text_congr (h.get?_eq name hname)

end AgreeBut

end Package

namespace Deck

open PartName (relationshipsPart)

/-! ## Decks -/

/-- Whether two decks differ at most in the contents of a part. -/
def AgreeBut (own : String) (first second : Deck) : Prop :=
  ∃ package, first.package.AgreeBut own package ∧ second = { first with package }

theorem AgreeBut.refl (own : String) (deck : Deck) : AgreeBut own deck deck := ⟨_, .refl own _, rfl⟩

section Steps

variable {own : String} {first second : Deck}

/-- Decks that agree take the same media under the same names. -/
theorem AgreeBut.addMediaAll (h : AgreeBut own first second)
    (media : List (Picture.Format × File.Contents)) :
    (first.addMediaAll media).1 = (second.addMediaAll media).1 ∧
      AgreeBut own (first.addMediaAll media).2 (second.addMediaAll media).2 := by
  induction media generalizing first second with
  | nil => exact ⟨rfl, h⟩
  | cons entry media ih =>
    obtain ⟨package, h, rfl⟩ := h
    have hpart : (first.addMedia entry.1 entry.2).1 = ({ first with package }.addMedia entry.1 entry.2).1 :=
      h.nextPartName_eq _ _
    have hnext : AgreeBut own (first.addMedia entry.1 entry.2).2
        ({ first with package }.addMedia entry.1 entry.2).2 := by
      refine ⟨_, h.insert (first.addMedia entry.1 entry.2).1 entry.2, ?_⟩
      rw [hpart]
      rfl
    obtain ⟨hparts, hlast⟩ := ih hnext
    exact ⟨List.cons_eq_cons.2 ⟨hpart, hparts⟩, hlast⟩

/-- Additions with the same layout and media leave decks that agree, if their shapes are the same or go
into the part in which the decks may differ. -/
theorem AgreeBut.after (h : AgreeBut own first second) {a b : Addition} (hlayout : a.layout = b.layout)
    (hmedia : a.media = b.media)
    (hshapes : a.shapes first.contentFrame = b.shapes second.contentFrame ∨ (Made.mk a first).part = own) :
    (Made.mk a first).part = (Made.mk b second).part ∧
      AgreeBut own (Made.mk a first).after (Made.mk b second).after := by
  obtain ⟨hnames, hstocked⟩ := h.addMediaAll a.media
  obtain ⟨package, -, rfl⟩ := h
  generalize hm : Made.mk a first = m at *
  generalize hn : Made.mk b { first with package } = n at *
  have hmedia' : m.media = n.media := by
    rw [← hm, ← hn, Made.media, Made.media, ← hmedia]
    exact hnames
  replace hstocked : AgreeBut own m.stocked n.stocked := by
    rw [← hm, ← hn, Made.stocked, Made.stocked, ← hmedia]
    exact hstocked
  obtain ⟨stocked, hstocked, hrest⟩ := hstocked
  have hpackage : n.stocked.package = stocked := by rw [hrest]
  have htypes : m.stocked.mediaTypes = n.stocked.mediaTypes := by rw [hrest]
  have hpart : m.part = n.part := by
    rw [Made.part, Made.part, hpackage, hstocked.nextPartName_eq, ← hm, ← hn]
  have hlayout' : m.layoutPart = n.layoutPart := by
    rw [Made.layoutPart, Made.layoutPart, ← hm, ← hn, hlayout]
  have hlinks : m.links = n.links := by
    rw [Made.links, Made.links, Made.references, Made.references, hpart, hlayout', hmedia']
  -- the slide goes into the part with its number, and its relationships into one beside it
  have hsheet : (m.stocked.package.insertText m.part (Slide.sheet m.shapes)).AgreeBut own
      (stocked.insertText n.part (Slide.sheet n.shapes)) := by
    rcases hshapes with hshapes | hown
    · have hsame : m.shapes = n.shapes := by
        rw [← hm, ← hn]
        exact hshapes
      rw [hsame, hpart]
      exact hstocked.insert _ _
    · rw [← hpart, hown]
      exact hstocked.insert_own _ _
  refine ⟨hpart, _, hsheet.insert (PartName.relationshipsPart m.part) (.text (Relationship.listXml m.links)),
    ?_⟩
  rw [Made.after, Made.after, hpackage, ← htypes, ← hlinks, ← hpart, Made.link, Made.link, Made.slide,
    Made.slide, ← hpart, ← hm, ← hn]
  rfl

/-- Additions that are alike but for their texts succeed on decks that agree, or fail on both. -/
theorem AgreeBut.add {first second : Record} (h : AgreeBut own first.deck second.deck) {a b : Addition}
    (hlayout : a.layout = b.layout) (hmedia : a.media = b.media) (hshow : a.IsShowable ↔ b.IsShowable)
    (hshapes : a.shapes first.deck.contentFrame = b.shapes second.deck.contentFrame ∨
      (Made.mk a first.deck).part = own) : AgreeBut own (first.add a).deck (second.add b).deck := by
  have hafter := (h.after hlayout hmedia hshapes).2
  have hsame : (∃ next, a.on first.deck = .ok next) ↔ ∃ next, b.on second.deck = .ok next := by
    obtain ⟨package, -, hrest⟩ := h
    rw [Addition.exists_on_eq_ok_iff, Addition.exists_on_eq_ok_iff, hshow, hlayout, hrest]
  rw [Record.add, Record.add]
  split
  · next next hnext =>
    obtain ⟨other, hother⟩ := hsame.1 ⟨next, hnext⟩
    obtain ⟨-, -, rfl⟩ := Addition.eq_after_of_on hnext
    obtain ⟨-, -, rfl⟩ := Addition.eq_after_of_on hother
    rw [hother]
    exact hafter
  · next error herror =>
    split
    · next other hother =>
      obtain ⟨next, hnext⟩ := hsame.2 ⟨other, hother⟩
      cases herror.symm.trans hnext
    · exact h

/-- The same additions keep decks alike, by induction on them. -/
theorem AgreeBut.addAll {first second : Record} (h : AgreeBut own first.deck second.deck)
    (additions : List Addition) :
    AgreeBut own (first.addAll additions).deck (second.addAll additions).deck := by
  induction additions generalizing first second with
  | nil => exact h
  | cons a additions ih =>
    have hframe : a.shapes first.deck.contentFrame = a.shapes second.deck.contentFrame := by
      obtain ⟨package, -, hrest⟩ := h
      rw [hrest]
      rfl
    exact ih (h.add rfl rfl Iff.rfl (.inl hframe))

/-! ## Entering the slides -/

/-- Whether two attempts to enter slides fail in the same way, or give packages that differ at most in the
contents of a part. -/
def OutcomesAgreeBut (own : String) :
    Except Presentation.EntryFault Package → Except Presentation.EntryFault Package → Prop
  | .ok first, .ok second => first.AgreeBut own second
  | .error fault, .error other => fault = other
  | _, _ => False

/-- Steps behind the same step end alike if they do for each of its values. -/
theorem outcomesAgreeBut_bind {α : Type} {step : Except Presentation.EntryFault α}
    {next other : α → Except Presentation.EntryFault Package}
    (h : ∀ a, OutcomesAgreeBut own (next a) (other a)) :
    OutcomesAgreeBut own (step >>= next) (step >>= other) := by
  cases step with
  | ok a => exact h a
  | error fault => exact Eq.refl fault

/-- Slides are entered into the presentation and the content types, whatever is in other parts. -/
theorem AgreeBut.register (h : AgreeBut own first second) (hpresentation : first.presentation ≠ own)
    (htypes : Package.contentTypesPart ≠ own) : OutcomesAgreeBut own first.register second.register := by
  obtain ⟨package, h, rfl⟩ := h
  rw [Deck.register, Deck.register, ← h.text_eq hpresentation]
  refine outcomesAgreeBut_bind fun xml => outcomesAgreeBut_bind fun listed => ?_
  have hentered := (h.insert first.presentation (.text (String.ofList listed))).insert
    (PartName.relationshipsPart first.presentation) (.text (Relationship.listXml first.relationships))
  have htext := hentered.text_eq htypes
  simp only [Package.insertText] at htext ⊢
  rw [← htext]
  refine outcomesAgreeBut_bind fun types => outcomesAgreeBut_bind fun known =>
    outcomesAgreeBut_bind fun extended => ?_
  exact hentered.insert Package.contentTypesPart (.text (String.ofList extended))

end Steps

/-! ## Two runs -/

/-- Whether an addition gives texts alone, so many levels as texts if it gives a list. -/
def Addition.IsTextual : Addition → Prop
  | .title _ _ _ | .text _ _ _ => True
  | .list _ _ levels texts => levels.length = texts.length
  | .image _ _ _ _ => False

namespace Addition.IsTextual

variable {a : Addition}

/-- An addition of text has no images. -/
theorem media_eq (h : a.IsTextual) : a.media = [] := by
  cases a with
  | image files layout title path => exact h.elim
  | _ => rfl

/-- It can always be shown. -/
theorem isShowable (h : a.IsTextual) : a.IsShowable := by
  cases a with
  | image files layout title path => exact h.elim
  | list layout title levels texts => exact h
  | _ => trivial

end Addition.IsTextual

/-- Whatever the template, and whatever is added before and after: the texts of a slide reach no other part
of the package, and neither a name, an id, a relationship nor a content type. -/
theorem agreeBut_register {template : Package} {start : Deck} (hstart : ofTemplate template = .ok start)
    (before : List Addition) (one other : Addition) (later : List Addition) (hone : one.IsTextual)
    (hother : other.IsTextual) (hlayout : one.layout = other.layout) :
    ∃ own,
      (∀ a ∈ [one, other], ∀ next, a.on ((Record.start start).addAll before).deck = .ok next →
        ∃ slide, next.added = ((Record.start start).addAll before).deck.added ++ [slide] ∧
          slide.part = own) ∧
      AgreeBut own ((Record.start start).addAll (before ++ one :: later)).deck
        ((Record.start start).addAll (before ++ other :: later)).deck ∧
      OutcomesAgreeBut own ((Record.start start).addAll (before ++ one :: later)).deck.register
        ((Record.start start).addAll (before ++ other :: later)).deck.register := by
  have hsplit : ∀ a, (Record.start start).addAll (before ++ a :: later)
      = (((Record.start start).addAll before).add a).addAll later := fun a => by
    rw [Record.addAll, List.foldl_append]
    rfl
  have hpresentation : ((Record.start start).addAll (before ++ one :: later)).deck.presentation
      = start.presentation := (grown_addAll start _).presentation_eq
  have hgrown := grown_addAll start before
  rw [hsplit] at hpresentation
  rw [hsplit, hsplit]
  generalize (Record.start start).addAll before = record at *
  have hmedia : one.media = other.media := hone.media_eq.trans hother.media_eq.symm
  have hpart : (Made.mk one record.deck).part = (Made.mk other record.deck).part :=
    ((AgreeBut.refl _ record.deck).after hlayout hmedia (.inr rfl)).1
  have hagree : AgreeBut (Made.mk one record.deck).part ((record.add one).addAll later).deck
      ((record.add other).addAll later).deck := by
    refine ((AgreeBut.refl _ record.deck).add hlayout hmedia ?_ (.inr rfl)).addAll later
    exact iff_of_true hone.isShowable hother.isShowable
  refine ⟨(Made.mk one record.deck).part, ?_, hagree, hagree.register ?_ ?_⟩
  · intro a ha next hnext
    obtain ⟨-, -, rfl⟩ := Addition.eq_after_of_on hnext
    refine ⟨(Made.mk a record.deck).slide, rfl, ?_⟩
    rcases List.mem_cons.1 ha with rfl | ha
    · rfl
    · obtain rfl := List.mem_singleton.1 ha
      exact hpart.symm
  · -- the slide is new to the package, and the presentation was there from the start
    rw [hpresentation]
    intro heq
    refine Made.not_mem_names (Made.mk one record.deck) List.mem_cons_self ?_
    rw [← heq, hgrown.mem_names_iff, (opensAs hstart).package_eq]
    exact .inl (opensAs hstart).presentation_mem_names
  · -- and it is further down than the content types, which are at the root
    intro heq
    have hdepth := Made.depth_lt_of_mem_parts (Made.mk one record.deck) List.mem_cons_self
    rw [← heq, show PartName.depth Package.contentTypesPart = 1 by decide] at hdepth
    exact absurd hdepth (Nat.not_lt.2 (PartName.depth_pos _))

/-- A list in the place of a longer one, between two other slides of the built-in template. -/
theorem agreeBut_lists : ∃ start, ofTemplate Builtin.package = .ok start ∧
    ∃ own first second,
      ((Record.start start).addAll ([.title .title "Report" "2024"] ++
        .list .titleAndContent "Costs" [0, 1] ["Rent", "Paris"] ::
          [.text .titleOnly "Outlook" "Good"])).deck.register = .ok first ∧
      ((Record.start start).addAll ([.title .title "Report" "2024"] ++
        .list .titleAndContent "</p:sldIdLst>" [2] ["rId9"] ::
          [.text .titleOnly "Outlook" "Good"])).deck.register = .ok second ∧
      first.AgreeBut own second := by
  obtain ⟨start, hstart, -⟩ := composed_builtin.exists_ofTemplate_eq_ok
  have hongoing := composed_builtin.ongoing hstart
  have hfirst := (hongoing.addAll ([.title .title "Report" "2024"] ++
    .list .titleAndContent "Costs" [0, 1] ["Rent", "Paris"] ::
      [.text .titleOnly "Outlook" "Good"])).register_eq_ok
  have hsecond := (hongoing.addAll ([.title .title "Report" "2024"] ++
    .list .titleAndContent "</p:sldIdLst>" [2] ["rId9"] ::
      [.text .titleOnly "Outlook" "Good"])).register_eq_ok
  obtain ⟨own, -, -, hagree⟩ := agreeBut_register hstart [.title .title "Report" "2024"]
    (.list .titleAndContent "Costs" [0, 1] ["Rent", "Paris"])
    (.list .titleAndContent "</p:sldIdLst>" [2] ["rId9"]) [.text .titleOnly "Outlook" "Good"] rfl rfl rfl
  rw [hfirst, hsecond] at hagree
  exact ⟨start, hstart, own, _, _, hfirst, hsecond, hagree⟩

end Deck

end SlideDeck
