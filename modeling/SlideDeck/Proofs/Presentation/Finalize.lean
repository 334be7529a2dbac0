import SlideDeck.Proofs.File.Publish
import SlideDeck.Proofs.Presentation.Integrity

/-!
# Series of rounds

A deck is filled, written and opened again as a template, any number of times (`Reached`). Whenever
it is written, the file holds a package that is intact and has all slides of all rounds
(`Reached.intact_of_finalize`).
-/

namespace SlideDeck.Deck

open Builtin (presentationPart)

/-! ## Writing -/

/-- What has happened when a deck was written. -/
theorem finalize_eq_ok {deck closed : Deck} {files written : File.Tree} {output : File.Path}
    (h : deck.finalize files output = (.ok (), closed, written)) :
    ∃ package, deck.register = .ok package ∧
      files.publish output ".slidegen-" ".pptx" (.archive package.toEntries) = (.ok (), written) ∧
      closed = { deck with finalized := true, package } := by
  unfold finalize at h
  split at h
  · exact nomatch (Prod.mk.inj h).1
  · dsimp only at h
    split at h
    · exact nomatch (Prod.mk.inj h).1
    · split at h
      · exact nomatch (Prod.mk.inj h).1
      · next package hregister =>
        split at h
        · next tree hpublish =>
          obtain ⟨hclosed, rfl⟩ := Prod.mk.inj (Prod.mk.inj h).2
          exact ⟨package, hregister, hpublish, hclosed.symm⟩
        · exact nomatch (Prod.mk.inj h).1

/-- A deck is written only to a file that is named as one. -/
theorem isPptx_of_finalize {deck closed : Deck} {files written : File.Tree} {output : File.Path}
    (h : deck.finalize files output = (.ok (), closed, written)) : isPptx output = true := by
  unfold finalize at h
  split at h
  · exact nomatch (Prod.mk.inj h).1
  · dsimp only at h
    split at h
    · exact nomatch (Prod.mk.inj h).1
    · next hpptx => simpa using hpptx

/-- A deck that is open is written if its entries can be made and the file can be. -/
theorem finalize_of_publish {deck : Deck} {files written : File.Tree} {output : File.Path}
    {package : Package} (hopen : deck.finalized = false) (hpptx : isPptx output = true)
    (hregister : deck.register = .ok package)
    (hpublish : files.publish output ".slidegen-" ".pptx" (.archive package.toEntries)
      = (.ok (), written)) :
    ∃ closed, deck.finalize files output = (.ok (), closed, written) := by
  refine ⟨{ deck with finalized := true, package }, ?_⟩
  simp only [finalize, checkOpen, hopen, hpptx, hregister, hpublish, Bool.false_eq_true, ite_false,
    Bool.not_true]

/-- A name that neither starts nor ends with a slash is that of a file. -/
theorem isFileName_of_ends {name : String} {first last : Char}
    (hfirst : name.toList.head? = some first) (hlast : name.toList.getLast? = some last)
    (hslash : first ≠ '/') (hend : last ≠ '/' ∧ last ≠ '\\') : Package.IsFileName name := by
  refine ⟨?_, ?_⟩
  · rw [Archive.isFolder, hlast]
    simp [hend.1, hend.2]
  · obtain ⟨rest, hrest⟩ := List.head?_eq_some_iff.1 hfirst
    rw [Package.entryName, hrest, List.dropWhile_cons_of_neg (by simpa using hslash), ← hrest,
      String.ofList_toList]

/-- So are all names of the built-in template. -/
theorem isFileName_builtin : ∀ name ∈ Builtin.parts.map (·.1), Package.IsFileName name := by
  have hnamed : ∀ name ∈ Builtin.namedParts, Package.IsFileName name := by
    unfold Package.IsFileName
    decide
  intro name hname
  rcases Builtin.cases_of_mem_parts hname with hname | ⟨n, -, rfl | rfl⟩
  · exact hnamed name hname
  · have hfirst : (Builtin.layoutPart n).toList.head? = some 'p' := by
      rw [Builtin.toList_layoutPart]
      simp
    exact isFileName_of_ends hfirst (Builtin.getLast?_layoutPart n) (by decide) (by decide)
  · have hfirst : (PartName.relationshipsPart (Builtin.layoutPart n)).toList.head? = some 'p' := by
      rw [Builtin.relationshipsPart_layoutPart]
      simp
    exact isFileName_of_ends hfirst (PartName.getLast?_relationshipsPart _) (by decide) (by decide)

/-- So are the names of all parts of a slide. -/
theorem isFileName_of_owns {m : Made} (h : m.before.presentation = presentationPart) {name : String}
    (hname : m.Owns name) : Package.IsFileName name := by
  obtain ⟨n, hpart⟩ := Made.exists_part_eq_of_builtin h
  -- each of the names starts in a p and ends in a letter
  rcases hname with rfl | hname
  · have hfirst : (PartName.relationshipsPart m.part).toList.head? = some 'p' := by
      have hfile : '/' ∉ ("slide" ++ toString n ++ ".xml").toList :=
        PartName.slash_not_mem_numbered n (by decide) (by decide)
      have hfolder : m.part = "ppt/slides" ++ "/" ++ ("slide" ++ toString n ++ ".xml") := by
        rw [hpart]
        apply String.toList_injective
        simp
      rw [hfolder, PartName.relationshipsPart_append hfile]
      simp
    exact isFileName_of_ends hfirst (PartName.getLast?_relationshipsPart m.part) (by decide) (by decide)
  · rcases List.mem_cons.1 hname with rfl | hmedia
    · have hfirst : m.part.toList.head? = some 'p' := by
        rw [hpart, String.toList_append, String.toList_append]
        rfl
      exact isFileName_of_ends hfirst m.getLast?_part (by decide) (by decide)
    · obtain ⟨k, entry, -, rfl⟩ := Made.exists_media_eq_of_builtin h hmedia
      have hfirst : ("ppt/media/image" ++ toString k ++ "." ++ entry.1.extension).toList.head?
          = some 'p' := by
        rw [String.toList_append, String.toList_append, String.toList_append]
        rfl
      have hlast : ∃ c, entry.1.extension.toList.getLast? = some c ∧ c ≠ '/' ∧ c ≠ '\\' := by
        cases entry.1 <;> exact ⟨_, rfl, by decide⟩
      obtain ⟨c, hc, hend⟩ := hlast
      have hname : ("ppt/media/image" ++ toString k ++ "." ++ entry.1.extension).toList.getLast?
          = some c := by
        rw [String.toList_append, List.getLast?_append, hc]
        rfl
      exact isFileName_of_ends hfirst hname (by decide) hend

/-- A package of the template and slides is read back from its archive. -/
theorem Composed.ofContents_archive {made : List Made} {types : List TypeEntry} {package : Package}
    (h : Composed made types package) :
    Package.ofContents (.archive package.toEntries) = .ok package := by
  refine Package.ofContents_archive fun name hname => ?_
  rcases (h.mem_names_iff name).1 hname with hbuiltin | ⟨m, hm, howns⟩
  · exact isFileName_builtin name (Builtin.mem_names.1 hbuiltin)
  · exact isFileName_of_owns (h.before_eq m hm) howns

/-! ## Rounds -/

/-- The decks that come from the built-in template by adding slides, whether that fails or not, and by
opening what was written as a template, each with the slides that were made on the way. -/
inductive Reached : Record → Prop
  | builtin {deck : Deck} (h : Deck.builtin = .ok deck) : Reached (Record.start deck)
  | added {record : Record} (h : Reached record) (a : Addition) : Reached (record.add a)
  | reopened {record : Record} (h : Reached record) {closed next : Deck}
      {files written later : File.Tree} {output path : File.Path}
      (hfinal : record.deck.finalize files output = (.ok (), closed, written))
      (hkept : later.read path = written.read output) (hopen : openTemplate later path = .ok next) :
      Reached ⟨next, record.made⟩

/-- A record with the slides of earlier rounds in front. -/
def Record.behind (earlier : List Made) (record : Record) : Record :=
  ⟨record.deck, earlier ++ record.made⟩

/-- An addition does not look at what was added before the record started. -/
theorem Record.add_behind (earlier : List Made) (record : Record) (a : Addition) :
    (record.behind earlier).add a = (record.add a).behind earlier := by
  have hdeck : (record.behind earlier).deck = record.deck := rfl
  rw [add, add, hdeck]
  cases a.on record.deck with
  | ok next => exact congrArg (Record.mk next) (List.append_assoc earlier record.made _)
  | error error => rfl

theorem Record.behind_start (earlier : List Made) (deck : Deck) :
    (Record.start deck).behind earlier = ⟨deck, earlier⟩ :=
  congrArg (Record.mk deck) (List.append_nil earlier)

/-- A deck from a template file is the deck of its package. -/
theorem ofTemplateFile_eq_ok {path : File.Path} {result : Except Presentation.TemplateFault Deck} {deck : Deck}
    (h : ofTemplateFile path result = .ok deck) : result = .ok deck := by
  cases result with
  | ok found => rw [Except.ok.inj h]
  | error fault => cases h

/-- There is a deck on the built-in template. -/
theorem exists_builtin_eq_ok : ∃ deck, ofTemplate Builtin.package = .ok deck ∧ builtin = .ok deck := by
  obtain ⟨deck, hdeck, -⟩ := composed_builtin.exists_ofTemplate_eq_ok
  refine ⟨deck, hdeck, ?_⟩
  rw [builtin, hdeck]
  rfl

/-- A package that was written is what is opened. -/
theorem openTemplate_archive {files : File.Tree} {path : File.Path} {package : Package}
    (hread : files.read path = .ok (.archive package.toEntries))
    (hcontents : Package.ofContents (.archive package.toEntries) = .ok package) :
    openTemplate files path = ofTemplateFile path (ofTemplate package) := by
  have hopen : openTemplate files path
      = ofTemplateFile path (ofContents (.archive package.toEntries)) := by
    rw [openTemplate, hread]
  rw [hopen, ofContents, hcontents, ofPackage_ok, ok_bind]

/-- Every deck that is reached is in a round on a package of the template and the slides of all earlier
rounds. -/
theorem Reached.exists_ongoing {record : Record} (h : Reached record) :
    ∃ made types package start current, Ongoing made types package start current ∧
      record = current.behind made := by
  -- opening what was written starts a new round, with all slides so far in its package
  induction h with
  | @builtin deck hbuiltin =>
    exact ⟨[], [], Builtin.package, deck, Record.start deck,
      composed_builtin.ongoing (ofTemplateFile_eq_ok hbuiltin), (Record.behind_start [] deck).symm⟩
  | added h a ih =>
    obtain ⟨made, types, package, start, current, hongoing, rfl⟩ := ih
    exact ⟨made, types, package, start, current.add a, hongoing.addAll [a], current.add_behind made a⟩
  | @reopened _ h closed next files written later output path hfinal hkept hopen ih =>
    obtain ⟨made, types, package, start, current, hongoing, rfl⟩ := ih
    obtain ⟨packed, hregister, hpublish, -⟩ := finalize_eq_ok hfinal
    obtain rfl := Except.ok.inj (hongoing.register_eq_ok.symm.trans hregister)
    have hcomposed := hongoing.composed_entered
    have hread := hkept.trans (File.Tree.read_of_publish hpublish)
    rw [openTemplate_archive hread hcomposed.ofContents_archive] at hopen
    exact ⟨_, _, _, next, Record.start next, hcomposed.ongoing (ofTemplateFile_eq_ok hopen),
      (Record.behind_start _ next).symm⟩

/-- Whenever a deck that is reached was written, its file holds a package of the template and the slides
of all rounds. -/
theorem Reached.composed_of_finalize {record : Record} (h : Reached record) {closed : Deck}
    {files written : File.Tree} {output : File.Path}
    (hfinal : record.deck.finalize files output = (.ok (), closed, written)) :
    ∃ types, Composed record.made types closed.package ∧
      written.read output = .ok (.archive closed.package.toEntries) := by
  obtain ⟨made, types, package, start, current, hongoing, rfl⟩ := h.exists_ongoing
  obtain ⟨packed, hregister, hpublish, rfl⟩ := finalize_eq_ok hfinal
  obtain rfl := Except.ok.inj (hongoing.register_eq_ok.symm.trans hregister)
  exact ⟨_, hongoing.composed_entered, File.Tree.read_of_publish hpublish⟩

/-- Every deck that is reached has the built-in layouts. -/
theorem Reached.layouts_eq {record : Record} (h : Reached record) :
    record.deck.layouts = Builtin.layoutParts := by
  obtain ⟨made, types, package, start, current, hongoing, rfl⟩ := h.exists_ongoing
  exact hongoing.grown.layouts_eq.trans hongoing.layouts_eq

/-- An open deck that is reached can be written wherever a file can be. -/
theorem Reached.exists_finalize_eq {record : Record} (h : Reached record)
    (hopen : record.deck.finalized = false) {files : File.Tree} {output : File.Path}
    (hpptx : isPptx output = true)
    (hpublish : ∀ contents, ∃ written,
      files.publish output ".slidegen-" ".pptx" contents = (.ok (), written)) :
    ∃ closed written, record.deck.finalize files output = (.ok (), closed, written) := by
  obtain ⟨made, types, package, start, current, hongoing, rfl⟩ := h.exists_ongoing
  obtain ⟨written, hwritten⟩ := hpublish (.archive (Ongoing.entered current made types).toEntries)
  obtain ⟨closed, hclosed⟩ := finalize_of_publish hopen hpptx hongoing.register_eq_ok hwritten
  exact ⟨closed, written, hclosed⟩

/-- Whenever a deck that is reached was written, its file holds an intact package with the slides of all
rounds, and opens as a template. -/
theorem Reached.intact_of_finalize {record : Record} (h : Reached record) {closed : Deck}
    {files written : File.Tree} {output : File.Path}
    (hfinal : record.deck.finalize files output = (.ok (), closed, written)) :
    ∃ package, written.read output = .ok (.archive package.toEntries) ∧
      Package.ofContents (.archive package.toEntries) = .ok package ∧ Intact package record.made ∧
      ∃ next, openTemplate written output = .ok next := by
  obtain ⟨made, types, package, start, current, hongoing, rfl⟩ := h.exists_ongoing
  obtain ⟨packed, hregister, hpublish, -⟩ := finalize_eq_ok hfinal
  obtain rfl := Except.ok.inj (hongoing.register_eq_ok.symm.trans hregister)
  have hcomposed := hongoing.composed_entered
  have hread := File.Tree.read_of_publish hpublish
  obtain ⟨next, hnext, -⟩ := hcomposed.exists_ofTemplate_eq_ok
  refine ⟨_, hread, hcomposed.ofContents_archive, hcomposed.intact, next, ?_⟩
  rw [openTemplate_archive hread hcomposed.ofContents_archive, hnext]
  rfl

/-- What can be shown is added to an open deck, which stays open. -/
theorem Reached.exists_add_eq {record : Record} (h : Reached record)
    (hopen : record.deck.finalized = false) {a : Addition}
    (hlayout : a.layout.index < Builtin.layoutParts.length) (hshow : a.IsShowable) :
    ∃ next, a.on record.deck = .ok next ∧ next.finalized = false ∧
      Reached ⟨next, record.made ++ [⟨a, record.deck⟩]⟩ := by
  have hfound : record.deck.layouts[a.layout.index]?
      = some (Builtin.layoutParts.get ⟨a.layout.index, hlayout⟩) := by
    rw [h.layouts_eq]
    exact List.getElem?_eq_getElem hlayout
  obtain ⟨next, hnext⟩ := Addition.exists_on_eq_ok hopen hfound hshow
  obtain ⟨-, -, hafter⟩ := Addition.eq_after_of_on hnext
  refine ⟨next, hnext, by rw [hafter]; exact hopen, ?_⟩
  have hadd := h.added a
  rw [Record.add, hnext] at hadd
  exact hadd

/-- Two rounds, with a title in the first and a text in the second. -/
theorem Reached.intact_two_rounds : ∃ record : Record, Reached record ∧
    record.made.map (·.addition) = [.title .title "Report" "2024", .text .titleOnly "Cost" "Low"] ∧
    ∃ closed files written output,
      record.deck.finalize files output = (.ok (), closed, written) ∧
      ∃ package, written.read output = .ok (.archive package.toEntries) ∧
        Package.ofContents (.archive package.toEntries) = .ok package ∧ Intact package record.made ∧
        ∃ next, openTemplate written output = .ok next := by
  have hpublish : ∀ contents, ∃ written, (⟨[], [], ⟨"/"⟩, {}⟩ : File.Tree).publish ⟨"deck.pptx"⟩
      ".slidegen-" ".pptx" contents = (.ok (), written) := fun contents => ⟨_, rfl⟩
  have hpptx : isPptx ⟨"deck.pptx"⟩ = true := by decide
  obtain ⟨deck, hdeck, -⟩ := composed_builtin.exists_ofTemplate_eq_ok
  have hbuiltin : Deck.builtin = .ok deck := by
    rw [Deck.builtin, hdeck]
    rfl
  obtain ⟨titled, -, hopen, hfirst⟩ := (Reached.builtin hbuiltin).exists_add_eq
    (a := .title .title "Report" "2024") (opensAs hdeck).finalized_eq (by decide) trivial
  obtain ⟨_, written, hfinal⟩ := hfirst.exists_finalize_eq hopen hpptx hpublish
  obtain ⟨package, hread, hcontents, -, next, hnext⟩ := hfirst.intact_of_finalize hfinal
  have hagain := Reached.reopened hfirst hfinal rfl hnext
  rw [openTemplate_archive hread hcontents] at hnext
  obtain ⟨told, -, hopen', hsecond⟩ := hagain.exists_add_eq
    (a := .text .titleOnly "Cost" "Low") (opensAs (ofTemplateFile_eq_ok hnext)).finalized_eq
    (by decide) trivial
  obtain ⟨closed, later, hlast⟩ := hsecond.exists_finalize_eq hopen' hpptx hpublish
  exact ⟨_, hsecond, rfl, closed, _, later, _, hlast, hsecond.intact_of_finalize hlast⟩

end SlideDeck.Deck
