import SlideDeck.Series.File

/-!
# Texts in files

Contents hold a text if they are it, or if they are a vector image or an archive that is written as text
(`HoldsText`). The file of a series gives it if the file can be read, holds a text and that has a series, and
otherwise the error of the first of these that is not so (`Series.loads_iff`).
-/

namespace SlideDeck

namespace File.Contents

variable {contents : Contents} {text : String}

/-- Whether contents are a text in UTF-8. -/
inductive HoldsText : Contents → String → Prop
  | text (content : String) : HoldsText (.text content) content
  | drawing {drawing : Chart.Drawing} (h : drawing.format = .svg) :
    HoldsText (.chart drawing) drawing.svg
  | emptyArchive : HoldsText (.archive []) emptyArchive

/-- Contents can be read as the text that they hold and as no other. -/
theorem holdsText_iff : HoldsText contents text ↔ contents.utf8? = some text := by
  constructor
  · intro h
    cases h with
    | text | emptyArchive => rfl
    | drawing h => rw [utf8?, h]
  · intro h
    match contents, h with
    | .text _, rfl => exact .text _
    | .archive [], rfl => exact .emptyArchive
    | .chart drawing, h =>
      rw [utf8?] at h
      split at h
      · next hformat =>
        obtain rfl := Option.some.inj h
        exact .drawing hformat
      · cases h

/-- Contents are either a text or none. -/
theorem utf8?_eq_none_iff : contents.utf8? = none ↔ ∀ text, ¬HoldsText contents text := by
  simp only [holdsText_iff, Option.eq_none_iff_forall_ne_some, ne_eq]

end File.Contents

namespace Series

variable {files : File.Tree} {path : File.Path}

/-- What is to come of the file of a series. -/
inductive Loads (files : File.Tree) (path : File.Path) : Except Error Series → Prop
  | unread {cause : File.Error} (hread : files.read path = .error cause) :
    Loads files path (.error (.notFound path cause))
  | notText {contents : File.Contents} (hread : files.read path = .ok contents)
    (htext : ∀ text, ¬contents.HoldsText text) :
    Loads files path (.error (.dataFormat path .seriesNotText))
  | malformed {contents : File.Contents} {text : String} {fault : Fault}
    (hread : files.read path = .ok contents) (htext : contents.HoldsText text)
    (hseries : (ofText text).1 = .error fault) :
    Loads files path (.error (.dataFormat path (.series fault)))
  | series {contents : File.Contents} {text : String} {series : Series}
    (hread : files.read path = .ok contents) (htext : contents.HoldsText text)
    (hseries : (ofText text).1 = .ok series) : Loads files path (.ok series)

/-- Loading results in what is to come of the file. -/
theorem loads_load (files : File.Tree) (path : File.Path) : Loads files path (load files path) := by
  match hread : files.read path with
  | .error cause =>
    rw [load, hread]
    exact .unread hread
  | .ok contents =>
    match htext : contents.utf8? with
    | none =>
      simp only [load, hread, htext]
      exact .notText hread (File.Contents.utf8?_eq_none_iff.1 htext)
    | some text =>
      match hseries : (ofText text).1 with
      | .error fault =>
        simp only [load, hread, htext, hseries]
        exact .malformed hread (File.Contents.holdsText_iff.2 htext) hseries
      | .ok series =>
        simp only [load, hread, htext, hseries]
        exact .series hread (File.Contents.holdsText_iff.2 htext) hseries

/-- Nothing else is to come of it. -/
theorem loads_iff {result : Except Error Series} : Loads files path result ↔ load files path = result := by
  constructor
  · intro h
    cases h with
    | unread hread => rw [load, hread]
    | notText hread htext => simp only [load, hread, File.Contents.utf8?_eq_none_iff.2 htext]
    | malformed hread htext hseries =>
      simp only [load, hread, File.Contents.holdsText_iff.1 htext, hseries]
    | series hread htext hseries => simp only [load, hread, File.Contents.holdsText_iff.1 htext, hseries]
  · rintro rfl
    exact loads_load files path

end Series

end SlideDeck
