import SlideDeck.Proofs.Presentation.Complete
import SlideDeck.Proofs.Xml.Places

/-!
# The order of what a presentation holds

The children of a presentation come in a fixed order, in which the list of slides stands behind all three
lists of masters. New entries go where the list of slides is, and then the order stays. Without a list of
slides one is made behind the list of slide masters, and that is its place only if there are no other
masters. `inOrder_of_insertEntries` says so for every presentation, wherever in its text the search finds what it
looks for.
-/

namespace SlideDeck.Presentation

open Xml

/-! ## Children of the root -/

/-- The children of a presentation whose order is looked at. -/
inductive Child where
  | slideMasters
  | notesMasters
  | handoutMasters
  | slides
  | slideSize
  | notesSize
deriving Repr, DecidableEq

/-- The local name of the element of a child. -/
def Child.name : Child → String
  | slideMasters => "sldMasterIdLst"
  | notesMasters => "notesMasterIdLst"
  | handoutMasters => "handoutMasterIdLst"
  | slides => "sldIdLst"
  | slideSize => "sldSz"
  | notesSize => "notesSz"

/-- The children in the order in which they come, each of them once at most. -/
def Child.order : List Child :=
  [slideMasters, notesMasters, handoutMasters, slides, slideSize, notesSize]

/-- The child of a presentation that a tree is, if it is one. -/
def child? : Tree → Option Child
  | .char _ => none
  | .element start _ => Child.order.find? fun child => localName start.name == child.name.toList

/-- The children of the root of a document, as far as their order is looked at. -/
def rootChildren : List Tree → List Child
  | [] => []
  | .char _ :: rest => rootChildren rest
  | .element _ children :: _ => children.filterMap child?

/-- Whether children come in their order, where some may be absent. -/
def InOrder (children : List Child) : Prop := children.Sublist Child.order

instance (children : List Child) : Decidable (InOrder children) :=
  inferInstanceAs (Decidable (children.Sublist Child.order))

/-- The root of a document is found among its first trees or behind them. -/
theorem rootChildren_append (before : List Tree) :
    (∀ rest, rootChildren (before ++ rest) = rootChildren before) ∨
      ∀ rest, rootChildren (before ++ rest) = rootChildren rest := by
  induction before with
  | nil => exact .inr fun _ => rfl
  | cons tree before ih =>
    cases tree with
    | char c => exact ih
    | element start children => exact .inl fun _ => rfl

section Replaced

variable {start : Element} {children children' behind trees trees' : List Tree}

/-- Where an element gets other children that do not count and trees behind it, these are all that is new. -/
theorem filterMap_child?_replaced
    (h : Replaced [.element start children] (.element start children' :: behind) trees trees') :
    trees'.filterMap child? = trees.filterMap child? ∨
      ∃ front back, trees.filterMap child? = front ++ (child? (.element start [])).toList ++ back ∧
        trees'.filterMap child?
          = front ++ (child? (.element start [])).toList ++ behind.filterMap child? ++ back := by
  have hchild : ∀ tree trees,
      (tree :: trees).filterMap child? = (child? tree).toList ++ trees.filterMap child? := by
    intro tree trees
    rw [List.filterMap_cons]
    cases child? tree <;> rfl
  cases h with
  | here before after =>
    refine .inr ⟨before.filterMap child?, after.filterMap child?, ?_, ?_⟩
    · simp only [List.filterMap_append, hchild, List.filterMap_nil, List.append_nil, child?]
    · simp only [List.filterMap_append, hchild, child?, List.append_assoc]
  | inside before outer after h =>
    refine .inl ?_
    simp only [List.filterMap_append, hchild, child?]

/-- Replacing the inside of an element leaves the children of the root as they are, or puts more behind one
of them. -/
theorem rootChildren_replaced (hsame : children'.filterMap child? = children.filterMap child?)
    (h : Replaced [.element start children] (.element start children' :: behind) trees trees') :
    rootChildren trees' = rootChildren trees ∨
      ∃ front back, rootChildren trees = front ++ (child? (.element start [])).toList ++ back ∧
        rootChildren trees'
          = front ++ (child? (.element start [])).toList ++ behind.filterMap child? ++ back := by
  cases h with
  | here before after =>
    refine .inl ?_
    rw [List.append_assoc, List.append_assoc]
    rcases rootChildren_append before with hfound | hfound
    · rw [hfound, hfound]
    · rw [hfound, hfound]
      exact hsame
  | inside before outer after h =>
    rcases rootChildren_append before with hfound | hfound
    · exact .inl (by rw [hfound, hfound])
    · rw [hfound, hfound]
      exact filterMap_child?_replaced h

/-- With no trees behind it, nothing is new. -/
theorem rootChildren_eq_of_replaced (hsame : children'.filterMap child? = children.filterMap child?)
    (h : Replaced [.element start children] [.element start children'] trees trees') :
    rootChildren trees' = rootChildren trees := by
  rcases rootChildren_replaced hsame h with hequal | ⟨front, back, hold, hnew⟩
  · exact hequal
  · rw [hold, hnew, List.filterMap_nil, List.append_nil]

end Replaced

/-! ## The place of the slides -/

/-- The children that stand behind the slide masters and not behind the slides. -/
def Child.beforeSlides : List Child := [notesMasters, handoutMasters, slides]

/-- Nothing stands in front of the slide masters if all is in order. -/
theorem eq_nil_of_inOrder {front back : List Child} (h : InOrder (front ++ [.slideMasters] ++ back)) :
    front = [] := by
  cases front with
  | nil => rfl
  | cons child front =>
    -- the slide masters would be among what comes behind them
    have hmem : Child.slideMasters ∈ front ++ [Child.slideMasters] ++ back := by simp
    have hrest : (front ++ [Child.slideMasters] ++ back).Sublist Child.order.tail := List.Sublist.tail h
    exact absurd (hrest.subset hmem) (by decide)

/-- Behind the slide masters is the place of the slides, if there are no other masters and no slides yet. -/
theorem inOrder_insert_iff {back : List Child} (h : InOrder (.slideMasters :: back)) :
    InOrder (.slideMasters :: .slides :: back) ↔
      ∀ child ∈ Child.beforeSlides, child ∉ Child.slideMasters :: back := by
  have hback : back.Sublist (Child.beforeSlides ++ [.slideSize, .notesSize]) := List.cons_sublist_cons.1 h
  constructor
  · intro hinserted child hchild hmem
    have hslides : (Child.slides :: back).Sublist (Child.beforeSlides ++ [.slideSize, .notesSize]) :=
      List.cons_sublist_cons.1 hinserted
    have hrest : back.Sublist [.slideSize, .notesSize] := by
      simpa [Child.beforeSlides, List.cons_sublist_cons'] using hslides
    rcases List.mem_cons.1 hmem with rfl | hmem
    · exact absurd hchild (by decide)
    · have hsize := hrest.subset hmem
      revert hchild hsize
      cases child <;> decide
  · intro hnone
    have hrest : back.Sublist [.slideSize, .notesSize] := by
      have hfilter := hback.filter (· ∉ Child.beforeSlides)
      rwa [List.filter_eq_self.2 fun child hchild => ?_] at hfilter
      exact decide_eq_true fun hbefore => hnone child hbefore (List.mem_cons_of_mem _ hchild)
    exact .cons_cons _ (.cons _ (.cons _ (.cons_cons _ hrest)))

/-! ## Entries as tags -/

/-- Whether the attributes of an entry can be read back, with neither `<` nor `>` in their values. -/
structure IsEntry (attributes : List Attribute) : Prop where
  plain : arePlain attributes = true
  verbatim : ∀ a ∈ attributes, '<' ∉ a.written.toList ∧ '>' ∉ a.written.toList

/-- No entry holds the start or the end of a tag inside. -/
theorem IsEntry.not_mem {attributes : List Attribute} (h : IsEntry attributes) {c : Char}
    (hc : c = '<' ∨ c = '>') : c ∉ openingChars "p:sldId" attributes := by
  have hname : ∀ {name : List Char}, isName name = true → c ∉ name := by
    intro name hname hmem
    have hchar := nameChars_of_isName hname c hmem
    rcases hc with rfl | rfl <;> exact absurd hchar (by decide)
  rw [openingChars, List.mem_append, not_or]
  refine ⟨hname (by decide), fun hmem => ?_⟩
  obtain ⟨a, ha, hmem⟩ := List.mem_flatMap.1 hmem
  have hplain := (Attribute.isPlain_iff.1 (isPlain_of_arePlain h.plain a ha)).1
  have hwritten : c ∉ a.written.toList := by
    rcases hc with rfl | rfl
    · exact (h.verbatim a ha).1
    · exact (h.verbatim a ha).2
  have hsigns : c ≠ ' ' ∧ c ≠ '=' ∧ c ≠ '"' := by
    rcases hc with rfl | rfl <;> decide
  simp only [Attribute.chars, List.mem_cons, List.mem_append, List.not_mem_nil, or_false] at hmem
  grind

/-- The entry of a slide is one: its number has digits only. -/
theorem isEntry_entry (id : Nat) {relationship : String} (h : IsVerbatim relationship) :
    IsEntry (entry (toString id) relationship) := by
  have hvalues : ∀ a ∈ entry (toString id) relationship, IsVerbatim a.written :=
    List.forall_mem_cons.2 ⟨isVerbatim_toString id, List.forall_mem_singleton.2 h⟩
  refine ⟨arePlain_of_names ["id", "r:id"] (by decide) rfl fun a ha => ?_, fun a ha => ⟨?_, ?_⟩⟩
  · exact (hvalues a ha).not_mem (.inr (.inr (.inl rfl)))
  · exact (hvalues a ha).not_mem (.inl rfl)
  · exact (hvalues a ha).not_mem (.inr (.inl rfl))

/-- An entry is a tag. -/
theorem IsEntry.isTag {attributes : List Attribute} (h : IsEntry attributes) :
    IsTag (Node.empty "p:sldId" attributes).chars :=
  ⟨openingChars "p:sldId" attributes, '/', rfl, h.not_mem (.inl rfl), h.not_mem (.inr rfl), by decide⟩

/-- Entries in front of tags are tags. -/
theorem isTagged_entries {entries : List (List Attribute)} (h : ∀ attributes ∈ entries, IsEntry attributes)
    {rest : List Char} (hrest : IsTagged rest) : IsTagged (allChars (entryNodes entries) ++ rest) := by
  induction entries with
  | nil => exact hrest
  | cons attributes entries ih =>
    rw [entryNodes, List.map_cons, allChars, List.append_assoc]
    exact .cons (h attributes List.mem_cons_self).isTag
      (ih fun other hother => h other (List.mem_cons_of_mem _ hother))

theorem isTag_listStart : IsTag listStart :=
  ⟨"p:sldIdLs".toList, 't', by decide, by decide, by decide, by decide⟩

theorem isTag_listEnd : IsTag listEnd :=
  ⟨"/p:sldIdLs".toList, 't', by decide, by decide, by decide, by decide⟩

theorem isTag_listEmpty : IsTag listEmpty :=
  ⟨"p:sldIdLst".toList, '/', by decide, by decide, by decide, by decide⟩

theorem isTag_mastersEnd : IsTag mastersEnd :=
  ⟨"/p:sldMasterIdLs".toList, 't', by decide, by decide, by decide, by decide⟩

/-- Whatever entries are put in front of, it is a tag. -/
theorem isTagged_anchor (xml : List Char) : IsTagged (anchor xml) := by
  rw [anchor]
  split
  · exact .single isTag_listEnd
  split
  · exact .single isTag_listEmpty
  · exact .single isTag_mastersEnd

/-! ## Children before and after -/

section Inserted

variable {xml : String} {trees : List Tree} {entries : List (List Attribute)} {result : List Char}

/-- What stands in the place of the anchor when entries have been put there. -/
inductive StandsIn (xml entries : List Char) : List Char → Prop where
  | list (found : anchor xml = listEnd) : StandsIn xml entries (entries ++ listEnd)
  | empty (found : anchor xml = listEmpty) : StandsIn xml entries (listStart ++ (entries ++ listEnd))
  | masters (found : anchor xml = mastersEnd) :
      StandsIn xml entries (mastersEnd ++ (listStart ++ (entries ++ listEnd)))

/-- Whether the children of the root stay the same, or get a list of slides behind the slide masters. -/
inductive Gains (xml : List Char) (trees trees' : List Tree) : Prop where
  | nothing (same : rootChildren trees' = rootChildren trees)
  | slides {front back : List Child} (found : anchor xml = mastersEnd)
      (before : rootChildren trees = front ++ [.slideMasters] ++ back)
      (behind : rootChildren trees' = front ++ [.slideMasters] ++ [.slides] ++ back)

/-- Entries are put in at the first place that is found for them. -/
theorem exists_of_insertEntries_eq_ok {entries : List Char} (hentries : entries ≠ [])
    (h : insertEntries xml.toList entries = .ok result) :
    ∃ before new after, Text.cutFirst (anchor xml.toList) xml.toList = some (before, after) ∧
      result = before ++ (new ++ after) ∧ StandsIn xml.toList entries new := by
  have hplace : HasPlace xml := exists_insertEntries_eq_ok_iff.1 ⟨result, h⟩ hentries
  obtain ⟨before, after, hcut, hcases⟩ := insertEntries_cases (List.isEmpty_eq_false_iff.2 hentries) hplace
  rcases hcases with ⟨hanchor, hresult⟩ | ⟨hanchor, hresult⟩ | ⟨hanchor, hresult⟩
  · refine ⟨before, _, after, hcut, ?_, .list hanchor⟩
    simpa using (Except.ok.inj (hresult.symm.trans h)).symm
  · refine ⟨before, _, after, hcut, ?_, .empty hanchor⟩
    simpa using (Except.ok.inj (hresult.symm.trans h)).symm
  · refine ⟨before, _, after, hcut, ?_, .masters hanchor⟩
    simpa using (Except.ok.inj (hresult.symm.trans h)).symm

/-- What is put in is made of tags. -/
theorem StandsIn.isTagged {text new : List Char} (h : StandsIn text (allChars (entryNodes entries)) new)
    (hentries : ∀ attributes ∈ entries, IsEntry attributes) : IsTagged new := by
  have hend := isTagged_entries hentries (.single isTag_listEnd)
  cases h with
  | list => exact hend
  | empty => exact .cons isTag_listStart hend
  | masters => exact .cons isTag_mastersEnd (.cons isTag_listStart hend)

/-- Entries are no children whose order is looked at. -/
theorem filterMap_child?_entries (entries : List (List Attribute)) :
    (allTrees (entryNodes entries)).filterMap child? = [] := by
  induction entries with
  | nil => rfl
  | cons attributes entries ih =>
    rw [entryNodes, List.map_cons, allTrees, List.filterMap_append]
    exact ih

/-- A list of slides is one of these children, whatever its entries are. -/
theorem filterMap_child?_listNode (entries : List (List Attribute)) :
    (allTrees [listNode entries]).filterMap child? = [.slides] := by
  have hslides : child? (.element (startOf "p:sldIdLst" []) (allTrees (entryNodes entries)))
      = some .slides := by
    rw [child?]
    decide
  simp [listNode, allTrees, Node.trees, hslides]

section Between

variable {before after : List Char}

/-- Behind the other entries of the list. -/
theorem gains_of_list (hplain : allPlain (entryNodes entries) = true) (hbefore : EndsBetween before)
    (hread : readTrees? (String.ofList (before ++ (listEnd ++ after))) = some trees) :
    ∃ trees', readTrees? (String.ofList (before ++ (allChars (entryNodes entries) ++ listEnd ++ after)))
        = some trees' ∧ rootChildren trees' = rootChildren trees := by
  have hname : isName listName = true := by decide
  obtain ⟨start, children, trees', -, htrees', hreplaced⟩ := readTrees?_insert hbefore hname hplain hread
  refine ⟨trees', htrees', rootChildren_eq_of_replaced ?_ hreplaced⟩
  rw [List.filterMap_append, filterMap_child?_entries, List.append_nil]

/-- In the list that has none. -/
theorem gains_of_empty (hplain : allPlain [listNode entries] = true) (hbefore : EndsBetween before)
    (hread : readTrees? (String.ofList (before ++ (listEmpty ++ after))) = some trees) :
    ∃ trees', readTrees? (String.ofList (before ++ (allChars [listNode entries] ++ after)))
        = some trees' ∧ rootChildren trees' = rootChildren trees := by
  have hempty : allPlain [.empty "p:sldIdLst" []] = true := by decide
  obtain ⟨trees', htrees', hreplaced⟩ := readTrees?_replace hbefore hempty hplain hread
  have hreplaced : Replaced [.element (startOf "p:sldIdLst" []) []]
      [.element (startOf "p:sldIdLst" []) (allTrees (entryNodes entries))] trees trees' := by
    simpa [listNode, allTrees, Node.trees] using hreplaced
  exact ⟨trees', htrees', rootChildren_eq_of_replaced (filterMap_child?_entries entries) hreplaced⟩

/-- In a list behind the slide masters. -/
theorem gains_of_masters (hplain : allPlain [listNode entries] = true) (hbefore : EndsBetween before)
    (hanchor : anchor xml.toList = mastersEnd)
    (hread : readTrees? (String.ofList (before ++ (mastersEnd ++ after))) = some trees) :
    ∃ trees', readTrees? (String.ofList (before ++ (mastersEnd ++ allChars [listNode entries] ++ after)))
        = some trees' ∧ Gains xml.toList trees trees' := by
  have hmasters : isName "p:sldMasterIdLst".toList = true := by decide
  obtain ⟨start, children, trees', hstart, htrees', hreplaced⟩ :=
    readTrees?_around hbefore hmasters (show allPlain [] = true from rfl) hplain hread
  refine ⟨trees', htrees', ?_⟩
  have hchild : child? (.element start []) = some .slideMasters := by
    rw [child?, hstart]
    decide
  rw [allTrees, List.append_nil] at hreplaced
  rcases rootChildren_replaced rfl hreplaced with hsame | ⟨front, back, hold, hnew⟩
  · exact .nothing hsame
  · rw [hchild] at hold
    rw [hchild, filterMap_child?_listNode] at hnew
    exact .slides hanchor hold hnew

end Between

/-- Where the anchor stands between two pieces, the children are the same but for a new list of slides. -/
theorem exists_gains_between (hread : readTrees? xml = some trees)
    (hentries : ∀ attributes ∈ entries, IsEntry attributes) {before after : List Char}
    (hcut : Text.cutFirst (anchor xml.toList) xml.toList = some (before, after))
    (hbefore : EndsBetween before) {new : List Char}
    (hnew : StandsIn xml.toList (allChars (entryNodes entries)) new) :
    ∃ trees', readTrees? (String.ofList (before ++ (new ++ after))) = some trees' ∧
      Gains xml.toList trees trees' := by
  have hplain := fun attributes hattributes => (hentries attributes hattributes).plain
  have hlist := isPlain_listNode hplain
  have hchars : listStart ++ (allChars (entryNodes entries) ++ listEnd) = allChars [listNode entries] := by
    rw [← List.append_assoc, chars_listNode]
  rw [← String.ofList_toList (s := xml), Text.eq_of_cutFirst hcut, List.append_assoc] at hread
  cases hnew with
  | list hanchor =>
    rw [hanchor] at hread
    obtain ⟨trees', htrees', hsame⟩ := gains_of_list (allPlain_entryNodes hplain) hbefore hread
    exact ⟨trees', htrees', .nothing hsame⟩
  | empty hanchor =>
    rw [hanchor] at hread
    obtain ⟨trees', htrees', hsame⟩ := gains_of_empty hlist hbefore hread
    exact ⟨trees', hchars ▸ htrees', .nothing hsame⟩
  | masters hanchor =>
    rw [hanchor] at hread
    rw [hchars]
    exact gains_of_masters hlist hbefore hanchor hread

/-! ## The order before and after -/

/-- Whether a text is read as trees, has no `<` within a tag, and has its children in order. -/
structure IsOrdered (xml : String) (trees : List Tree) : Prop where
  read : readTrees? xml = some trees
  strict : ∀ tag ∈ (tags xml.toList).tags, tag.IsStrict
  inOrder : InOrder (rootChildren trees)

/-- A document that can be read is made of whole pieces. -/
theorem pieces_complete_of_readTrees? (h : readTrees? xml = some trees) :
    (pieces xml.toList).complete = true := by
  simp only [readTrees?] at h
  split at h
  · assumption
  · cases h

/-- The entries stand in a place between two pieces, or else in markup that is no tag. -/
theorem IsOrdered.exists_gains (h : IsOrdered xml trees) (hne : entries ≠ [])
    (hentries : ∀ attributes ∈ entries, IsEntry attributes)
    (hresult : insertEntries xml.toList (allChars (entryNodes entries)) = .ok result) :
    ∃ trees', readTrees? (String.ofList result) = some trees' ∧ Gains xml.toList trees trees' := by
  have hnonempty : allChars (entryNodes entries) ≠ [] :=
    List.isEmpty_eq_false_iff.1 (isEmpty_allChars_entryNodes hne)
  obtain ⟨before, new, after, hcut, rfl, hnew⟩ := exists_of_insertEntries_eq_ok hnonempty hresult
  have htext := Text.eq_of_cutFirst hcut
  rw [List.append_assoc] at htext
  have hcomplete := pieces_complete_of_readTrees? h.read
  have hstrict : AreStrict (pieces xml.toList).pieces := by
    have htags := h.strict
    rw [tags_eq_pieces] at htags
    exact htags
  rw [htext] at hcomplete hstrict
  rcases settles (isTagged_anchor xml.toList) before after hcomplete hstrict with hbefore | hsame
  · exact exists_gains_between h.read hentries hcut hbefore hnew
  · -- the pieces are the same with the entries and without them
    refine ⟨trees, ?_, .nothing rfl⟩
    rw [readTrees?, String.toList_ofList, hsame new (hnew.isTagged hentries), ← htext]
    exact h.read

/-- If entries are put into a presentation with its children in order, the result can be read. Its children
are in order if the list of slides is found, or if there are neither other masters nor slides where one is
made. Where one was made as a child among these, they are not. -/
theorem inOrder_of_insertEntries (h : IsOrdered xml trees) (hne : entries ≠ [])
    (hentries : ∀ attributes ∈ entries, IsEntry attributes)
    (hresult : insertEntries xml.toList (allChars (entryNodes entries)) = .ok result) :
    ∃ trees', readTrees? (String.ofList result) = some trees' ∧
      ((anchor xml.toList = mastersEnd → ∀ child ∈ Child.beforeSlides, child ∉ rootChildren trees) →
        InOrder (rootChildren trees')) ∧
      (InOrder (rootChildren trees') → rootChildren trees' = rootChildren trees ∨
        ∀ child ∈ Child.beforeSlides, child ∉ rootChildren trees) := by
  obtain ⟨trees', htrees', hgains⟩ := h.exists_gains hne hentries hresult
  refine ⟨trees', htrees', ?_⟩
  have horder := h.inOrder
  cases hgains with
  | nothing hsame => exact ⟨fun _ => hsame ▸ horder, fun _ => .inl hsame⟩
  | slides hanchor hold hnew =>
    rw [hold] at horder
    obtain rfl := eq_nil_of_inOrder horder
    have hiff := inOrder_insert_iff horder
    rw [hold, hnew]
    exact ⟨fun hnone => hiff.2 (hnone hanchor), fun hinserted => .inr (hiff.1 hinserted)⟩

end Inserted

/-! ## Two presentations without slides -/

/-- A presentation with a list of slide masters and with other children behind it. -/
def mastersWith (children : List Node) : Node :=
  .element "p:presentation" [] (.element "p:sldMasterIdLst" [] [] :: children)

/-- A size of slides and one of notes. -/
def sizes : List Node := [.empty "p:sldSz" [], .empty "p:notesSz" []]

/-- A list of masters for notes. -/
def notesList : Node := .element "p:notesMasterIdLst" [] [.empty "p:notesMasterId" [⟨"r:id", "rId3"⟩]]

/-- A presentation that can be read again and has its children in order is ordered. -/
theorem isOrdered_mastersWith {children : List Node} (hplain : (mastersWith children).isPlain = true)
    (hstrict : ∀ tag ∈ (mastersWith children).pieces.filterMap Piece.tag?, tag.IsStrict)
    (horder : InOrder (rootChildren (mastersWith children).trees)) :
    IsOrdered (document (mastersWith children)) (mastersWith children).trees := by
  refine ⟨readTrees?_document hplain, ?_, horder⟩
  rw [tags_eq_pieces, pieces_document hplain]
  exact hstrict

/-- It is written with the end of the masters in front of the other children. -/
theorem toList_document_mastersWith (children : List Node) :
    (document (mastersWith children)).toList = declaration.toList ++ (startTag "p:presentation" [] ++
      startTag "p:sldMasterIdLst" []) ++
        (mastersEnd ++ (allChars children ++ endTag "p:presentation".toList)) := by
  have hend : mastersEnd = '<' :: '/' :: ("p:sldMasterIdLst".toList ++ ['>']) := by decide
  rw [document, String.toList_ofList, hend]
  simp [mastersWith, Node.chars, allChars, startTag, endTag]

/-- Without a list of slides one is made behind the slide masters. -/
theorem insertEntries_mastersWith {children : List Node}
    (hend : Text.cutFirst listEnd (document (mastersWith children)).toList = none)
    (hempty : Text.cutFirst listEmpty (document (mastersWith children)).toList = none)
    {entries : List (List Attribute)} (hne : entries ≠ []) :
    insertEntries (document (mastersWith children)).toList (allChars (entryNodes entries))
      = .ok (document (mastersWith (listNode entries :: children))).toList := by
  have hmasters : Text.cutFirst mastersEnd (document (mastersWith children)).toList
      = some (declaration.toList ++ (startTag "p:presentation" [] ++ startTag "p:sldMasterIdLst" []),
        allChars children ++ endTag "p:presentation".toList) := by
    rw [toList_document_mastersWith]
    exact Text.cutFirst_found (by decide) (Text.passes_of_clears (by decide) _)
  have hlist : allChars (listNode entries :: children)
      = listStart ++ allChars (entryNodes entries) ++ listEnd ++ allChars children := by
    rw [chars_listNode, ← allChars_append, List.singleton_append]
  have hresult := toList_document_mastersWith (listNode entries :: children)
  rw [hlist] at hresult
  rw [insertEntries, isEmpty_allChars_entryNodes hne, hend, hempty, hmasters, hresult]
  simp

/-- The list of slides is in order where there are no masters but those of slides. -/
theorem inOrder_insertEntries_sizes : ∃ trees result trees', IsOrdered (document (mastersWith sizes)) trees ∧
    insertEntries (document (mastersWith sizes)).toList (allChars (entryNodes [entry (toString 256) "rId2"]))
      = .ok result ∧
    readTrees? (String.ofList result) = some trees' ∧ InOrder (rootChildren trees') := by
  have hordered : IsOrdered (document (mastersWith sizes)) (mastersWith sizes).trees :=
    isOrdered_mastersWith (by decide) (by decide) (by decide)
  have hnone : Text.cutFirst listEnd (document (mastersWith sizes)).toList = none ∧
      Text.cutFirst listEmpty (document (mastersWith sizes)).toList = none := by
    rw [toList_document_mastersWith]
    decide +kernel
  have hresult := insertEntries_mastersWith hnone.1 hnone.2 (List.cons_ne_nil (entry (toString 256) "rId2") [])
  obtain ⟨trees', htrees', horder, -⟩ :=
    inOrder_of_insertEntries hordered (List.cons_ne_nil _ _)
      (List.forall_mem_singleton.2 (isEntry_entry 256 (by decide))) hresult
  exact ⟨_, _, trees', hordered, hresult, htrees', horder fun _ => by decide⟩

/-- Where there are masters for notes, it stands before them and not behind. -/
theorem not_inOrder_notes : ∃ trees result trees',
    IsOrdered (document (mastersWith (notesList :: sizes))) trees ∧
    insertEntries (document (mastersWith (notesList :: sizes))).toList
      (allChars (entryNodes [entry (toString 256) "rId2"])) = .ok result ∧
    readTrees? (String.ofList result) = some trees' ∧ ¬ InOrder (rootChildren trees') := by
  have hordered : IsOrdered (document (mastersWith (notesList :: sizes)))
      (mastersWith (notesList :: sizes)).trees :=
    isOrdered_mastersWith (by decide) (by decide) (by decide)
  have hnone : Text.cutFirst listEnd (document (mastersWith (notesList :: sizes))).toList = none ∧
      Text.cutFirst listEmpty (document (mastersWith (notesList :: sizes))).toList = none := by
    rw [toList_document_mastersWith]
    decide +kernel
  have hresult := insertEntries_mastersWith hnone.1 hnone.2 (List.cons_ne_nil (entry (toString 256) "rId2") [])
  have hplain : (mastersWith (listNode [entry (toString 256) "rId2"] :: notesList :: sizes)).isPlain = true := by
    decide
  have hread := readTrees?_document hplain
  rw [← String.ofList_toList (s := document _)] at hread
  exact ⟨_, _, _, hordered, hresult, hread, by decide⟩

end SlideDeck.Presentation
