import SlideDeck.Presentation.Entry
import SlideDeck.Proofs.Xml.Replacement

/-!
# Entering slides into a presentation

The list of slides is searched for in the text of a presentation, while the presentation is a document
of which that text is one spelling. Where the search finds what a reader of the document finds, the new
entries come last in the one list of slides and all else stays (`CanEnter.one_list`). A list that
the search misses, since its tags are spelled in another way, is no longer the only one afterwards
(`CanEnter.length_held`).
-/

namespace SlideDeck.Presentation

open Xml

/-- The name of the list of slides. -/
def listName : List Char := "p:sldIdLst".toList

/-- The entries of slides, which their attributes tell apart. -/
def entryNodes (entries : List (List Attribute)) : List Node := entries.map (.empty "p:sldId")

/-- What is searched for in a presentation: the end of the list of slides, or else the list as an empty
tag, or else the end of the list of slide masters. -/
def anchor (xml : List Char) : List Char :=
  if (Text.cutFirst listEnd xml).isSome then listEnd
  else if (Text.cutFirst listEmpty xml).isSome then listEmpty
  else mastersEnd

/-- Wherever there is the end of the masters, there is a place for entries. -/
theorem isSome_cutFirst_anchor {xml : List Char} (h : (Text.cutFirst mastersEnd xml).isSome) :
    (Text.cutFirst (anchor xml) xml).isSome := by
  rw [anchor]
  split
  · assumption
  split
  · assumption
  · exact h

/-- Entries go where the anchor is. -/
theorem insertEntries_cases {xml entries : List Char} (hentries : entries.isEmpty = false)
    (hanchor : (Text.cutFirst (anchor xml) xml).isSome) :
    ∃ before after, Text.cutFirst (anchor xml) xml = some (before, after) ∧
      ((anchor xml = listEnd ∧
          insertEntries xml entries = .ok (before ++ entries ++ listEnd ++ after)) ∨
        (anchor xml = listEmpty ∧
          insertEntries xml entries = .ok (before ++ (listStart ++ entries ++ listEnd) ++ after)) ∨
        (anchor xml = mastersEnd ∧ insertEntries xml entries
          = .ok (before ++ mastersEnd ++ (listStart ++ entries ++ listEnd) ++ after))) := by
  obtain ⟨⟨before, after⟩, hcut⟩ := Option.isSome_iff_exists.1 hanchor
  refine ⟨before, after, hcut, ?_⟩
  rw [insertEntries, hentries]
  rw [anchor] at hcut ⊢
  simp only [Bool.false_eq_true, ite_false]
  cases hend : Text.cutFirst listEnd xml with
  | some cut =>
    rw [hend, Option.isSome_some, if_pos rfl, hend] at hcut
    obtain rfl := Option.some.inj hcut
    exact .inl ⟨rfl, rfl⟩
  | none =>
    rw [hend, Option.isSome_none, if_neg Bool.false_ne_true] at hcut
    cases hempty : Text.cutFirst listEmpty xml with
    | some cut =>
      rw [hempty, Option.isSome_some, if_pos rfl, hempty] at hcut
      obtain rfl := Option.some.inj hcut
      exact .inr (.inl ⟨rfl, rfl⟩)
    | none =>
      rw [hempty, Option.isSome_none, if_neg Bool.false_ne_true] at hcut
      rw [hcut]
      exact .inr (.inr ⟨rfl, rfl⟩)

/-! ## Entries -/

/-- Entries with plain attributes can be read again. -/
theorem allPlain_entryNodes {entries : List (List Attribute)}
    (h : ∀ attributes ∈ entries, arePlain attributes = true) : allPlain (entryNodes entries) = true := by
  refine allPlain_eq_true_iff.2 fun node hnode => ?_
  obtain ⟨attributes, hattributes, rfl⟩ := List.mem_map.1 hnode
  have hname : isName "p:sldId".toList = true := by decide
  rw [Node.isPlain, hname, h attributes hattributes, Bool.and_self]

/-- No entry holds a list of slides. -/
theorem allHeld_entryNodes (entries : List (List Attribute)) :
    allHeld listName (allTrees (entryNodes entries)) = [] := by
  have hname : "p:sldId".toList ≠ listName := by decide
  induction entries with
  | nil => rfl
  | cons attributes entries ih =>
    have hstart : (startOf "p:sldId" attributes).name ≠ listName := hname
    rw [entryNodes, List.map_cons, allTrees, Node.trees, allHeld_append, allHeld, held_of_name_ne hstart]
    exact ih

/-- Entries are written as something. -/
theorem isEmpty_allChars_entryNodes {entries : List (List Attribute)} (h : entries ≠ []) :
    (allChars (entryNodes entries)).isEmpty = false := by
  cases entries with
  | nil => exact absurd rfl h
  | cons attributes entries => rfl

/-- A list of slides with entries. -/
def listNode (entries : List (List Attribute)) : Node := .element "p:sldIdLst" [] (entryNodes entries)

/-- A new list of entries can be read again. -/
theorem isPlain_listNode {entries : List (List Attribute)}
    (h : ∀ attributes ∈ entries, arePlain attributes = true) : allPlain [listNode entries] = true := by
  have hname : isName "p:sldIdLst".toList = true := by decide
  have hnone : arePlain [] = true := by decide
  simp only [allPlain, listNode, Node.isPlain, hname, hnone, allPlain_entryNodes h, Bool.and_self]

/-- Entries between the tags of a list are that list. -/
theorem chars_listNode (entries : List (List Attribute)) :
    listStart ++ allChars (entryNodes entries) ++ listEnd = allChars [listNode entries] := by
  have hstart : listStart = '<' :: (openingChars "p:sldIdLst" [] ++ ['>']) := by decide
  have hend : listEnd = '<' :: '/' :: ("p:sldIdLst".toList ++ ['>']) := by decide
  simp [allChars, listNode, Node.chars, hstart, hend]

/-- A list holds its entries and nothing else. -/
theorem allHeld_listNode (entries : List (List Attribute)) :
    allHeld listName (allTrees [listNode entries]) = [allTrees (entryNodes entries)] := by
  have hname : (startOf "p:sldIdLst" []).name = listName := rfl
  rw [listNode, allTrees, Node.trees, allTrees, List.append_nil, allHeld_singleton hname,
    allHeld_entryNodes]

/-- The attributes of an entry. -/
def entry (id relationship : String) : List Attribute := [⟨"id", id⟩, ⟨"r:id", relationship⟩]

/-- In front of the end of the masters, a document is between its markup. -/
theorem endsBetween_masters :
    EndsBetween (startTag "p:presentation" [] ++ startTag "p:sldMasterIdLst" []) :=
  .append (.startTag (by decide) (by decide)) (.startTag (by decide) (by decide))

/-! ## Where the entries go -/

/-- A presentation with a list of slide masters, where what is searched for stands between two pieces of
the document and not within one, and entries for it that can be read back. -/
structure CanEnter (xml : String) (trees : List Tree) (entries : List (List Attribute)) : Prop where
  read : readTrees? xml = some trees
  masters : (Text.cutFirst mastersEnd xml.toList).isSome
  between : ∀ before after,
    Text.cutFirst (anchor xml.toList) xml.toList = some (before, after) → EndsBetween before
  nonempty : entries ≠ []
  plain : ∀ attributes ∈ entries, arePlain attributes = true

section Entered

variable {xml : String} {trees : List Tree} {entries : List (List Attribute)}

/-- Entries come last in a list of slides that is found, and are a list of their own otherwise. -/
theorem CanEnter.replaced (h : CanEnter xml trees entries) :
    ∃ result trees', insertEntries xml.toList (allChars (entryNodes entries)) = .ok result ∧
      readTrees? (String.ofList result) = some trees' ∧
      ((anchor xml.toList ≠ mastersEnd ∧ ∃ start children, start.name = listName ∧
          Replaced [.element start children]
            [.element start (children ++ allTrees (entryNodes entries))] trees trees') ∨
        (anchor xml.toList = mastersEnd ∧
          Replaced [] (allTrees [listNode entries]) trees trees')) := by
  have hlist := isPlain_listNode h.plain
  have hname : isName listName = true := by decide
  have hempty : allPlain [.empty "p:sldIdLst" []] = true := by decide
  have hnothing : allPlain [] = true := rfl
  have hmasters : EndsBetween mastersEnd :=
    (EndsBetween.endTag (by decide) : EndsBetween (endTag "p:sldMasterIdLst".toList))
  obtain ⟨before, after, hcut, hcases⟩ :=
    insertEntries_cases (isEmpty_allChars_entryNodes h.nonempty) (isSome_cutFirst_anchor h.masters)
  have hbefore := h.between before after hcut
  have hread := h.read
  have htext := Text.eq_of_cutFirst hcut
  rw [← String.ofList_toList (s := xml), htext] at hread
  -- the end of a list is found, or an empty list, or only the end of the masters
  rcases hcases with ⟨hanchor, hresult⟩ | ⟨hanchor, hresult⟩ | ⟨hanchor, hresult⟩ <;>
    rw [hanchor, List.append_assoc] at hread
  · obtain ⟨start, children, trees', hstart, htrees', hreplaced⟩ :=
      readTrees?_insert hbefore hname (allPlain_entryNodes h.plain) hread
    refine ⟨_, trees', hresult, ?_, .inl ⟨by rw [hanchor]; decide, start, children, hstart, hreplaced⟩⟩
    rw [← htrees', List.append_assoc, List.append_assoc, List.append_assoc]
    rfl
  · obtain ⟨trees', htrees', hreplaced⟩ := readTrees?_replace hbefore hempty hlist hread
    refine ⟨_, trees', hresult, ?_, .inl ⟨by rw [hanchor]; decide, startOf "p:sldIdLst" [], [], rfl, ?_⟩⟩
    · rw [chars_listNode, List.append_assoc, htrees']
    · simpa [listNode, allTrees, Node.trees] using hreplaced
  · rw [← List.append_assoc] at hread
    obtain ⟨trees', htrees', hreplaced⟩ :=
      readTrees?_replace (hbefore.append hmasters) hnothing hlist hread
    refine ⟨_, trees', hresult, ?_, .inr ⟨hanchor, hreplaced⟩⟩
    rw [chars_listNode, List.append_assoc, htrees']

/-- Where what is found in the text is what a reader of the document finds, the presentation has one
list of slides afterwards: the entries that were there, in order, and behind them the new ones. All other
elements, and all text outside of that list, stay. -/
theorem CanEnter.one_list (h : CanEnter xml trees entries)
    (hone : (allHeld listName trees).length ≤ 1)
    (hspelled : anchor xml.toList = mastersEnd → allHeld listName trees = []) :
    ∃ result trees', insertEntries xml.toList (allChars (entryNodes entries)) = .ok result ∧
      readTrees? (String.ofList result) = some trees' ∧
      allHeld listName trees'
        = [(allHeld listName trees).flatten ++ allTrees (entryNodes entries)] ∧
      allWithout listName trees' = allWithout listName trees := by
  obtain ⟨result, trees', hresult, htrees', hcases⟩ := h.replaced
  refine ⟨result, trees', hresult, htrees', ?_⟩
  rcases hcases with ⟨-, start, children, hname, hreplaced⟩ | ⟨hanchor, hreplaced⟩
  · obtain ⟨hold, hnew⟩ := hreplaced.held_eq listName (by
      rw [allHeld_singleton hname, List.length_cons]
      omega)
    rw [allHeld_singleton hname] at hold hnew
    -- the list that was found is the only one, so that it does not hold another
    have hchildren : allHeld listName children = [] := by
      rw [hold, List.length_cons] at hone
      exact List.length_eq_zero_iff.1 (by omega)
    refine ⟨?_, (hreplaced.without_eq ?_).symm⟩
    · rw [hold, hnew, allHeld_append, hchildren, allHeld_entryNodes]
      simp
    · rw [allWithout_singleton hname, allWithout_singleton hname]
  · -- no list was found, and by assumption there was none
    have hnone := hspelled hanchor
    obtain ⟨-, hnew⟩ := hreplaced.held_eq listName (by rw [hnone]; exact Nat.zero_le _)
    refine ⟨?_, (hreplaced.without_eq rfl).symm⟩
    rw [hnew, hnone, allHeld_listNode, List.flatten_nil, List.nil_append]

/-- A presentation with one slide, whose list of slides stands behind a comment. -/
def oneSlide : String :=
  "<p:presentation><p:sldMasterIdLst></p:sldMasterIdLst><!-- kept --><p:sldIdLst>" ++
    "<p:sldId id=\"300\" r:id=\"rId2\"/></p:sldIdLst><p:sldSz/></p:presentation>"

/-- A presentation with one slide has one list with both after another is entered. -/
theorem one_list_oneSlide :
    ∃ trees result trees', readTrees? oneSlide = some trees ∧
      insertEntries oneSlide.toList (allChars (entryNodes [entry "301" "rId9"])) = .ok result ∧
      readTrees? (String.ofList result) = some trees' ∧
      allHeld listName trees' = [allTrees (entryNodes [entry "300" "rId2", entry "301" "rId9"])] ∧
      allWithout listName trees' = allWithout listName trees := by
  have htext : oneSlide.toList = startTag "p:presentation" [] ++ (startTag "p:sldMasterIdLst" [] ++
      (endTag "p:sldMasterIdLst".toList ++ (comment " kept ".toList ++ (startTag "p:sldIdLst" [] ++
        (allChars (entryNodes [entry "300" "rId2"]) ++ (endTag listName ++
          (allChars [.empty "p:sldSz" []] ++ (endTag "p:presentation".toList ++ [])))))))) := by
    decide +kernel
  have hread : readTrees? oneSlide = some [.element (startOf "p:presentation" [])
      [.element (startOf "p:sldMasterIdLst" []) [],
        .element (startOf "p:sldIdLst" []) (allTrees (entryNodes [entry "300" "rId2"])),
        .element (startOf "p:sldSz" []) []]] := by
    have hnil : pieces [] = ⟨[], true⟩ := by simp [pieces]
    rw [readTrees?, htext, pieces_startTag (by decide) (by decide),
      pieces_startTag (by decide) (by decide), pieces_endTag (by decide), pieces_comment (by decide),
      pieces_startTag (by decide) (by decide), pieces_allChars _ (by decide), pieces_endTag (by decide),
      pieces_allChars _ (by decide), pieces_endTag (by decide), hnil]
    rfl
  have hcut : Text.cutFirst listEnd oneSlide.toList
      = some (startTag "p:presentation" [] ++ startTag "p:sldMasterIdLst" [] ++
          (endTag "p:sldMasterIdLst".toList ++ (comment " kept ".toList ++
            (startTag "p:sldIdLst" [] ++ allChars (entryNodes [entry "300" "rId2"])))),
        allChars [.empty "p:sldSz" []] ++ endTag "p:presentation".toList) := by
    rw [htext]
    decide +kernel
  have hanchor : anchor oneSlide.toList = listEnd := by
    rw [anchor, hcut]
    rfl
  have hcomment : EndsBetween (comment " kept ".toList) := ⟨[], pieces_comment (by decide)⟩
  have henter : CanEnter oneSlide _ [entry "301" "rId9"] :=
    { read := hread
      masters := by
        rw [htext]
        decide +kernel
      between := by
        rw [hanchor, hcut]
        intro before after hfound
        obtain ⟨rfl, rfl⟩ := Prod.mk.inj (Option.some.inj hfound)
        exact endsBetween_masters.append (.append (.endTag (by decide)) (hcomment.append
          (.append (.startTag (by decide) (by decide)) (.allChars (by decide)))))
      nonempty := by simp
      plain := by decide }
  obtain ⟨result, trees', hresult, htrees', hheld, hwithout⟩ :=
    henter.one_list (by decide) (fun hmissed => absurd (hanchor.symm.trans hmissed) (by decide))
  exact ⟨_, result, trees', hread, hresult, htrees', hheld, hwithout⟩

/-- A list of slides that the search misses stays as it is, and another one is made for the entries. -/
theorem CanEnter.length_held (h : CanEnter xml trees entries)
    (hmissed : anchor xml.toList = mastersEnd) :
    ∃ result trees', insertEntries xml.toList (allChars (entryNodes entries)) = .ok result ∧
      readTrees? (String.ofList result) = some trees' ∧
      (allHeld listName trees').length = (allHeld listName trees).length + 1 := by
  obtain ⟨result, trees', hresult, htrees', hcases⟩ := h.replaced
  refine ⟨result, trees', hresult, htrees', ?_⟩
  rcases hcases with ⟨hanchor, -⟩ | ⟨-, hreplaced⟩
  · exact absurd hmissed hanchor
  · obtain ⟨n, hold, hnew⟩ := hreplaced.length_held listName
    rw [allHeld, List.length_nil] at hold
    rw [allHeld_listNode, List.length_singleton] at hnew
    omega

/-- A presentation without slides, whose list of slides is an empty tag with a blank in it. -/
def blankList : String :=
  "<p:presentation><p:sldMasterIdLst></p:sldMasterIdLst><p:sldIdLst /></p:presentation>"

/-- A list without entries whose tag has a blank in it is not found, and a second list is made. -/
theorem two_lists_blankList :
    ∃ trees result trees', readTrees? blankList = some trees ∧
      allHeld "p:sldMasterIdLst".toList trees = [[]] ∧ allHeld listName trees = [[]] ∧
      insertEntries blankList.toList (allChars (entryNodes [entry "256" "rId2"])) = .ok result ∧
      readTrees? (String.ofList result) = some trees' ∧ (allHeld listName trees').length = 2 := by
  have htext : blankList.toList = startTag "p:presentation" [] ++ (startTag "p:sldMasterIdLst" [] ++
      (endTag "p:sldMasterIdLst".toList ++ '<' :: ("p:sldIdLst />".toList ++
        (endTag "p:presentation".toList ++ [])))) := by
    decide +kernel
  have hread : readTrees? blankList = some [.element (startOf "p:presentation" [])
      [.element (startOf "p:sldMasterIdLst" []) [], .element ⟨listName, [' ']⟩ []]] := by
    have hblank : ∀ rest, markup? ("p:sldIdLst />".toList ++ rest)
        = some (some (.empty ⟨listName, [' ']⟩), rest) := fun _ => rfl
    have hnil : pieces [] = ⟨[], true⟩ := by simp [pieces]
    rw [readTrees?, htext, pieces_startTag (by decide) (by decide),
      pieces_startTag (by decide) (by decide), pieces_endTag (by decide), pieces_markup (hblank _),
      pieces_endTag (by decide), hnil]
    rfl
  have hmissed : anchor blankList.toList = mastersEnd := by
    rw [htext]
    decide +kernel
  have hcut : Text.cutFirst mastersEnd blankList.toList
      = some (startTag "p:presentation" [] ++ startTag "p:sldMasterIdLst" [],
        '<' :: ("p:sldIdLst />".toList ++ endTag "p:presentation".toList)) := by
    rw [htext]
    decide +kernel
  have henter : CanEnter blankList _ [entry "256" "rId2"] :=
    { read := hread
      masters := by rw [hcut]; rfl
      between := by
        rw [hmissed, hcut]
        intro before after hfound
        obtain ⟨rfl, rfl⟩ := Prod.mk.inj (Option.some.inj hfound)
        exact endsBetween_masters
      nonempty := by simp
      plain := by decide }
  obtain ⟨result, trees', hresult, htrees', hlength⟩ := henter.length_held hmissed
  exact ⟨_, result, trees', hread, rfl, rfl, hresult, htrees', hlength⟩

end Entered

/-- Entries that go into a comment, since the end of a list stands in it, are not there for a reader of
the document. -/
theorem readTrees?_of_comment {xml : String} {before inside outside after entries : List Char}
    (hcut : Text.cutFirst listEnd xml.toList
      = some (before ++ ("<!--".toList ++ inside), outside ++ ("-->".toList ++ after)))
    (hbefore : EndsBetween before)
    (hold : Text.clears "-->".toList (inside ++ (listEnd ++ outside)) = true)
    (hnew : Text.clears "-->".toList (inside ++ (entries ++ (listEnd ++ outside))) = true) :
    ∃ result, insertEntries xml.toList entries = .ok result ∧
      readTrees? (String.ofList result) = readTrees? xml := by
  obtain ⟨found, hfound⟩ := hbefore
  have hsame : ∀ content, Text.clears "-->".toList content = true →
      pieces (before ++ (comment content ++ after)) = (pieces after).after found := fun content h => by
    rw [hfound, pieces_comment h]
  have htext : xml.toList = before ++ (comment (inside ++ (listEnd ++ outside)) ++ after) := by
    rw [Text.eq_of_cutFirst hcut, comment]
    simp only [List.append_assoc]
  -- with the entries in it, the comment still ends where it did
  have hresult : before ++ ("<!--".toList ++ inside) ++ entries ++ listEnd
        ++ (outside ++ ("-->".toList ++ after))
      = before ++ (comment (inside ++ (entries ++ (listEnd ++ outside))) ++ after) := by
    rw [comment]
    simp only [List.append_assoc]
  by_cases hentries : entries.isEmpty = true
  · exact ⟨xml.toList, by rw [insertEntries, if_pos hentries], by rw [String.ofList_toList]⟩
  · refine ⟨_, by rw [insertEntries, if_neg hentries, hcut], ?_⟩
    rw [hresult, readTrees?, readTrees?, String.toList_ofList, htext, hsame _ hold, hsame _ hnew]

example : insertEntries "<!--</p:sldIdLst>-->".toList "<p:sldId/>".toList
    = .ok "<!--<p:sldId/></p:sldIdLst>-->".toList := by rfl

end SlideDeck.Presentation
