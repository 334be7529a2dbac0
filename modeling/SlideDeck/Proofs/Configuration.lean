import SlideDeck.Proofs.Render.Trace
import SlideDeck.Proofs.Slide.Described

/-!
# Configurations are read before anything is done

A configuration gives slides exactly if every entry of it describes one (`ofText_eq_ok_iff`), and else the
first entry that does not is reported (`slidesFrom_of_first_invalid`). A run whose configuration cannot be
loaded has reported just that and has made no calls (`validates_first`).
-/

namespace SlideDeck

namespace Configuration

/-! ## What is described -/

/-- A document describes slides: it is an object whose member `presentation` is an array of entries that
describe them one by one. -/
inductive Described : Json → List Slide → Prop
  | object {members : List (String × Json)} {entries : List Json} {slides : List Slide}
      (hentries : Ascending.find? "presentation" members = some (.array entries))
      (hslides : List.Forall₂ Slide.Described entries slides) : Described (.object members) slides

/-- A document is an object whose member `presentation` is the array of these entries. -/
def HasEntries (document : Json) (entries : List Json) : Prop :=
  ∃ members, document = .object members ∧
    Ascending.find? "presentation" members = some (.array entries)

/-- An entry describes some slide. -/
def IsValid (entry : Json) : Prop := ∃ slide, Slide.Described entry slide

/-- Two entries are the same apart from members that do not count. -/
inductive Alike : Json → Json → Prop
  | same {entry : Json} : Alike entry entry
  | object {members other : List (String × Json)} (h : Slide.Agree members other) :
      Alike (.object members) (.object other)

/-- A member is found in an object that has it, and in nothing else. -/
theorem get?_eq_some_iff {document : Json} {key : String} {value : Json} :
    document.get? key = some value ↔
      ∃ members, document = .object members ∧ Ascending.find? key members = some value := by
  cases document <;> simp [Json.get?]

/-- An entry that gives a slide is valid. -/
theorem isValid_of_ofJson {entry : Json} {slide : Slide} (h : Slide.ofJson entry = .ok slide) :
    IsValid entry := ⟨slide, Slide.ofJson_eq_ok_iff.1 h⟩

/-- An entry that is not valid has a fault. -/
theorem exists_invalid_of_not_isValid {entry : Json} (h : ¬IsValid entry) :
    ∃ invalid, Slide.ofJson entry = .error invalid := by
  cases hentry : Slide.ofJson entry with
  | ok slide => exact absurd (isValid_of_ofJson hentry) h
  | error invalid => exact ⟨invalid, rfl⟩

/-! ## Entries -/

/-- Entries give slides if each of them describes its own, whatever the first index is. -/
theorem slidesFrom_eq_ok_iff {index : Nat} {entries : List Json} {slides : List Slide} :
    slidesFrom index entries = .ok slides ↔ List.Forall₂ Slide.Described entries slides := by
  induction entries generalizing index slides with
  | nil =>
    rw [slidesFrom, List.forall₂_nil_left_iff]
    exact ⟨fun h => (Except.ok.inj h).symm, fun h => congrArg Except.ok h.symm⟩
  | cons entry rest ih =>
    rw [slidesFrom, List.forall₂_cons_left_iff]
    split
    · next invalid hentry =>
      constructor
      · exact fun h => nomatch h
      · rintro ⟨slide, _, hslide, -, -⟩
        exact nomatch hentry.symm.trans (Slide.ofJson_eq_ok_iff.2 hslide)
    · next slide hentry =>
      rw [map_eq_ok_iff]
      constructor
      · rintro ⟨tail, htail, rfl⟩
        exact ⟨slide, tail, Slide.ofJson_eq_ok_iff.1 hentry, ih.1 htail, rfl⟩
      · rintro ⟨other, tail, hother, htail, rfl⟩
        obtain rfl := Except.ok.inj (hentry.symm.trans (Slide.ofJson_eq_ok_iff.2 hother))
        exact ⟨tail, ih.2 htail, rfl⟩

/-- The first entry that describes no slide is reported, by induction on the entries before it. -/
theorem slidesFrom_of_first_invalid (index : Nat) {before : List Json} (entry : Json) (after : List Json)
    {invalid : Slide.Invalid} (hbefore : ∀ earlier ∈ before, IsValid earlier)
    (hentry : Slide.ofJson entry = .error invalid) :
    slidesFrom index (before ++ entry :: after)
      = .error (.validation (index + before.length) invalid.kind invalid.fault) := by
  induction before generalizing index with
  | nil =>
    rw [List.nil_append, slidesFrom, hentry]
    rfl
  | cons first before ih =>
    obtain ⟨slide, hslide⟩ := hbefore first List.mem_cons_self
    have hrest := ih (index + 1) fun earlier hmem => hbefore earlier (List.mem_cons_of_mem first hmem)
    have hindex : index + 1 + before.length = index + (first :: before).length := by
      rw [List.length_cons]
      omega
    rw [List.cons_append, slidesFrom, Slide.ofJson_eq_ok_iff.2 hslide]
    simp only [hrest, hindex]
    rfl

/-- Entries describe slides, or there is a first one that describes none. -/
theorem described_or_first_invalid (entries : List Json) :
    (∃ slides, List.Forall₂ Slide.Described entries slides) ∨
      ∃ before entry after, entries = before ++ entry :: after ∧
        (∀ earlier ∈ before, IsValid earlier) ∧ ¬IsValid entry := by
  induction entries with
  | nil => exact .inl ⟨[], .nil⟩
  | cons first rest ih =>
    by_cases hfirst : IsValid first
    · obtain ⟨slide, hslide⟩ := hfirst
      rcases ih with ⟨slides, hslides⟩ | ⟨before, entry, after, rfl, hbefore, hentry⟩
      · exact .inl ⟨slide :: slides, .cons hslide hslides⟩
      · exact .inr ⟨first :: before, entry, after, rfl,
          List.forall_mem_cons.2 ⟨⟨slide, hslide⟩, hbefore⟩, hentry⟩
    · exact .inr ⟨[], first, rest, rfl, fun _ h => absurd h List.not_mem_nil, hfirst⟩

/-- Entries that are alike give the same, faults included. -/
theorem slidesFrom_of_alike (index : Nat) {entries others : List Json}
    (h : List.Forall₂ Alike entries others) : slidesFrom index entries = slidesFrom index others := by
  induction h generalizing index with
  | nil => rfl
  | cons halike _ ih =>
    rw [slidesFrom, slidesFrom, ih]
    cases halike with
    | same => rfl
    | object hagree => rw [Slide.ofJson_of_agree hagree]

/-! ## Documents -/

variable {path : File.Path} {document : Json}

/-- A document with entries gives what these give. -/
theorem ofJson_of_hasEntries {entries : List Json} (h : HasEntries document entries) :
    ofJson path document = slidesFrom 0 entries := by
  rw [ofJson, get?_eq_some_iff.2 h]

/-- A document gives the slides that it describes, and no others. -/
theorem ofJson_eq_ok_iff {slides : List Slide} :
    ofJson path document = .ok slides ↔ Described document slides := by
  constructor
  · intro h
    unfold ofJson at h
    split at h
    · cases h
    · next entries hentries =>
      obtain ⟨members, rfl, hfind⟩ := get?_eq_some_iff.1 hentries
      exact .object hfind (slidesFrom_eq_ok_iff.1 h)
    · cases h
  · rintro ⟨hentries, hslides⟩
    rw [ofJson_of_hasEntries ⟨_, rfl, hentries⟩, slidesFrom_eq_ok_iff]
    exact hslides

/-- A document without an array of entries is not the data that it should be. -/
theorem ofJson_of_not_hasEntries (path : File.Path) (h : ∀ entries, ¬HasEntries document entries) :
    ∃ fault, ofJson path document = .error (.dataFormat path fault) := by
  unfold ofJson
  split
  · exact ⟨_, rfl⟩
  · next entries hentries => exact absurd (get?_eq_some_iff.1 hentries) (h entries)
  · exact ⟨_, rfl⟩

/-- A text that is a document is read as that document. -/
theorem ofText_of_ofText? {text : String} (h : Json.ofText? text = some document) :
    ofText path text = ofJson path document := by
  rw [ofText, h]

/-- A configuration is accepted exactly if it is a document that describes slides. -/
theorem ofText_eq_ok_iff {text : String} {slides : List Slide} : ofText path text = .ok slides ↔
    ∃ document, Json.ofText? text = some document ∧ Described document slides := by
  constructor
  · intro h
    unfold ofText at h
    split at h
    · cases h
    · next document hdocument => exact ⟨document, hdocument, ofJson_eq_ok_iff.1 h⟩
  · rintro ⟨document, hdocument, hslides⟩
    rw [ofText_of_ofText? hdocument, ofJson_eq_ok_iff]
    exact hslides

/-- How a text is read as a configuration. -/
structure ReadsAs (path : File.Path) (text : String) (result : Except Error (List Slide)) : Prop where
  /-- It is accepted with the slides that it describes. -/
  accepted : ∀ slides, result = .ok slides ↔
    ∃ document, Json.ofText? text = some document ∧ Described document slides
  /-- The first entry that describes no slide is reported, and that its kind is unknown exactly if it
  is. -/
  reported : ∀ document before entry after, Json.ofText? text = some document →
    HasEntries document (before ++ entry :: after) → (∀ earlier ∈ before, IsValid earlier) →
    ¬IsValid entry → ∃ kind fault, result = .error (.validation before.length kind fault) ∧
      ∀ source, Error.ofSlideFault? fault = some source ↔
        ∃ name, Slide.HasUnknownKind entry name ∧ source = .unknownKind name
  /-- No members but those that count have an influence. -/
  indifferent : ∀ document entries other text' others, Json.ofText? text = some document →
    HasEntries document entries → Json.ofText? text' = some other → HasEntries other others →
    List.Forall₂ Alike entries others → ofText path text' = result

/-- Reading a text results in what it is to be read as. -/
theorem readsAs_ofText (path : File.Path) (text : String) : ReadsAs path text (ofText path text) where
  accepted := fun _ => ofText_eq_ok_iff
  reported := by
    intro document before entry after hdocument hentries hbefore hentry
    obtain ⟨invalid, hinvalid⟩ := exists_invalid_of_not_isValid hentry
    refine ⟨invalid.kind, invalid.fault, ?_, Slide.ofSlideFault?_of_ofJson hinvalid⟩
    rw [ofText_of_ofText? hdocument, ofJson_of_hasEntries hentries,
      slidesFrom_of_first_invalid 0 entry after hbefore hinvalid, Nat.zero_add]
  indifferent := by
    intro document entries other text' others hdocument hentries hother hothers halike
    rw [ofText_of_ofText? hdocument, ofText_of_ofText? hother, ofJson_of_hasEntries hentries,
      ofJson_of_hasEntries hothers, slidesFrom_of_alike 0 halike]

/-! ## Files -/

section Files

variable {files : File.Tree}

/-- The file at a path holds a document with these entries. -/
def Lists (files : File.Tree) (path : File.Path) (entries : List Json) : Prop :=
  ∃ contents text document, files.read path = .ok contents ∧ contents.HoldsText text ∧
    Json.ofText? text = some document ∧ HasEntries document entries

/-- Why the file at a path, which can be read, holds no entries. -/
inductive Malformed (files : File.Tree) (path : File.Path) : Prop
  | notText {contents : File.Contents} (hread : files.read path = .ok contents)
      (htext : ∀ text, ¬contents.HoldsText text)
  | notJson {contents : File.Contents} {text : String} (hread : files.read path = .ok contents)
      (htext : contents.HoldsText text) (hjson : Json.ofText? text = none)
  | noEntries {contents : File.Contents} {text : String} {document : Json}
      (hread : files.read path = .ok contents) (htext : contents.HoldsText text)
      (hjson : Json.ofText? text = some document) (hentries : ∀ entries, ¬HasEntries document entries)

/-- A file cannot be read, holds no entries, or holds some. -/
theorem unread_or_malformed_or_lists (files : File.Tree) (path : File.Path) :
    (∃ cause, files.read path = .error cause) ∨ Malformed files path ∨
      ∃ entries, Lists files path entries := by
  match hread : files.read path with
  | .error cause => exact .inl ⟨cause, rfl⟩
  | .ok contents =>
    match htext : contents.utf8? with
    | none => exact .inr (.inl (.notText hread (File.Contents.utf8?_eq_none_iff.1 htext)))
    | some text =>
      have hholds := File.Contents.holdsText_iff.2 htext
      match hjson : Json.ofText? text with
      | none => exact .inr (.inl (.notJson hread hholds hjson))
      | some document =>
        by_cases hentries : ∃ entries, HasEntries document entries
        · obtain ⟨entries, hentries⟩ := hentries
          exact .inr (.inr ⟨entries, contents, text, document, hread, hholds, hjson, hentries⟩)
        · exact .inr (.inl (.noEntries hread hholds hjson (not_exists.1 hentries)))

/-- A file that cannot be read is reported with the cause. -/
theorem load_of_unread {cause : File.Error} (h : files.read path = .error cause) :
    load files path = .error (.notFound path cause) := by
  rw [load, h]

/-- A file without entries is reported as malformed. -/
theorem load_of_malformed (h : Malformed files path) :
    ∃ fault, load files path = .error (.dataFormat path fault) := by
  cases h with
  | notText hread htext =>
    refine ⟨.configurationNotText, ?_⟩
    rw [load, hread]
    simp only [File.Contents.utf8?_eq_none_iff.2 htext]
  | notJson hread htext hjson =>
    refine ⟨.notJson, ?_⟩
    rw [load, hread]
    simp only [File.Contents.holdsText_iff.1 htext, ofText, hjson]
  | noEntries hread htext hjson hentries =>
    obtain ⟨fault, hfault⟩ := ofJson_of_not_hasEntries path hentries
    refine ⟨fault, ?_⟩
    rw [load, hread]
    simp only [File.Contents.holdsText_iff.1 htext, ofText, hjson, hfault]

/-- A file with entries gives what these give. -/
theorem load_of_lists {entries : List Json} (h : Lists files path entries) :
    load files path = slidesFrom 0 entries := by
  obtain ⟨contents, text, document, hread, htext, hjson, hentries⟩ := h
  rw [load, hread]
  simp only [File.Contents.holdsText_iff.1 htext, ofText, hjson, ofJson_of_hasEntries hentries]

/-- Entries that describe slides are loaded as these slides. -/
theorem load_of_described {entries : List Json} {slides : List Slide} (h : Lists files path entries)
    (hslides : List.Forall₂ Slide.Described entries slides) : load files path = .ok slides := by
  rw [load_of_lists h, slidesFrom_eq_ok_iff]
  exact hslides

/-- Slides that were loaded are described by the entries of the file. -/
theorem exists_lists_of_load {slides : List Slide} (h : load files path = .ok slides) :
    ∃ entries, Lists files path entries ∧ List.Forall₂ Slide.Described entries slides := by
  rcases unread_or_malformed_or_lists files path with ⟨cause, hread⟩ | hmalformed | ⟨entries, hlists⟩
  · exact nomatch (load_of_unread hread).symm.trans h
  · obtain ⟨fault, hfault⟩ := load_of_malformed hmalformed
    exact nomatch hfault.symm.trans h
  · rw [load_of_lists hlists, slidesFrom_eq_ok_iff] at h
    exact ⟨entries, hlists, h⟩

/-- An entry that describes no slide makes the configuration invalid, at that or at an earlier entry. -/
theorem load_of_invalid {entries : List Json} {entry : Json} (h : Lists files path entries)
    (hmem : entry ∈ entries) (hentry : ¬IsValid entry) :
    ∃ index kind fault, load files path = .error (.validation index kind fault) := by
  rw [load_of_lists h]
  rcases described_or_first_invalid entries with ⟨slides, hslides⟩ | ⟨before, first, after, rfl, hbefore, hfirst⟩
  · obtain ⟨slide, -, hslide⟩ := exists_of_mem_forall₂ hslides hmem
    exact absurd ⟨slide, hslide⟩ hentry
  · obtain ⟨invalid, hinvalid⟩ := exists_invalid_of_not_isValid hfirst
    exact ⟨_, _, _, slidesFrom_of_first_invalid 0 first after hbefore hinvalid⟩

end Files

end Configuration

namespace Render

/-- Configurations are read as they should be, and a run that cannot load its configuration reports just
that, makes no calls and leaves everything as it was. -/
theorem validates_first (path : File.Path) :
    (∀ text, Configuration.ReadsAs path text (Configuration.ofText path text)) ∧
      ∀ {σ : Type} (backend : Backend σ) (options : Options) (before : Session σ) (error : Error),
        Configuration.load before.files path = .error error →
          Makes (generate backend options path) (generate backend.traced options path) before []
            (.error error) before := by
  refine ⟨Configuration.readsAs_ofText path, fun backend options before error hload => ?_⟩
  exact Makes.fromFiles_error hload

/-- A configuration whose second slide is of a kind that there is not. -/
def videoFiles : File.Tree where
  nodes :=
    [(["deck.json"], .file (.text (
      "\x7b\"presentation\":[\x7b\"type\":\"title\",\"title\":\"A\",\"content\":\"B\"\x7d," ++
      "\x7b\"type\":\"video\",\"title\":\"C\"\x7d]\x7d")))]
  current := []
  temporary := ⟨"/tmp"⟩

/-- A back end that does nothing at all is not even asked to when there is such a slide. -/
theorem validates_first_video : ∃ error,
    Configuration.load videoFiles ⟨"deck.json"⟩ = .error error ∧
      error.chain = ["Invalid slide 1 (video): unrecognized slide kind", "Unknown slide kind 'video'"] ∧
      Makes (generate (fun _ => pure ()) (.ofOutput ⟨"deck.pptx"⟩) ⟨"deck.json"⟩)
        (generate (Backend.traced fun _ => pure ()) (.ofOutput ⟨"deck.pptx"⟩) ⟨"deck.json"⟩)
        (⟨(), videoFiles⟩ : Session Unit) [] (.error error) ⟨(), videoFiles⟩ := by
  have hchain : (match Configuration.load videoFiles ⟨"deck.json"⟩ with
      | .ok _ => []
      | .error error => error.chain)
      = ["Invalid slide 1 (video): unrecognized slide kind", "Unknown slide kind 'video'"] := by
    decide +kernel
  match hload : Configuration.load videoFiles ⟨"deck.json"⟩ with
  | .ok _ =>
    rw [hload] at hchain
    cases hchain
  | .error error =>
    rw [hload] at hchain
    exact ⟨error, rfl, hchain, (validates_first ⟨"deck.json"⟩).2 _ _ ⟨(), videoFiles⟩ error hload⟩

end Render

end SlideDeck
