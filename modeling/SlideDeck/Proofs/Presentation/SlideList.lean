import SlideDeck.Presentation.Deck
import SlideDeck.Proofs.Text.Search
import SlideDeck.Proofs.Xml.Starts

/-!
# The built-in presentation with slides

The presentation of the built-in template is a document that may have a list of slides. Inserting entries
into its text gives the document with the longer list, whether a list was there or not
(`insertEntries_presentation`).
-/

namespace SlideDeck.Deck

open Xml (Node IsVerbatim document allChars)

/-! ## The list of slides -/

/-- The entry of a slide in the list of slides. -/
def Added.entry (slide : Added) : Node :=
  .empty "p:sldId" [⟨"id", toString slide.id⟩, ⟨"r:id", slide.relationship⟩]

/-- The list of slide masters. -/
def masterList : Node :=
  .element "p:sldMasterIdLst" []
    [.empty "p:sldMasterId" [⟨"id", "2147483648"⟩, ⟨"r:id", "rId1"⟩]]

/-- The sizes of slides and notes. -/
def sizes : List Node :=
  [.empty "p:sldSz" [⟨"cx", toString Builtin.slideWidth⟩, ⟨"cy", toString Builtin.slideHeight⟩],
   .empty "p:notesSz" [⟨"cx", "6858000"⟩, ⟨"cy", "9144000"⟩]]

/-- The list of slides, which is left out if there are none. -/
def slideList (slides : List Added) : List Node :=
  if slides.isEmpty then [] else [.element "p:sldIdLst" [] (slides.map Added.entry)]

/-- The built-in presentation with slides. -/
def presentationNode (slides : List Added) : Node :=
  .element "p:presentation" (Slide.vocabularies ++ [⟨"saveSubsetFonts", "1"⟩])
    ([masterList] ++ slideList slides ++ sizes)

theorem presentationXml_eq : Builtin.presentationXml = document (presentationNode []) := rfl

/-- What stands in front of the end of the list of slide masters. -/
def front : List Char :=
  Xml.declaration.toList ++
    '<' :: (Xml.openingChars "p:presentation" (Slide.vocabularies ++ [⟨"saveSubsetFonts", "1"⟩]) ++
      '>' :: ("<p:sldMasterIdLst>".toList ++
        (Node.empty "p:sldMasterId" [⟨"id", "2147483648"⟩, ⟨"r:id", "rId1"⟩]).chars))

/-- What stands behind the list of slides. -/
def back : List Char := allChars sizes ++ "</p:presentation>".toList

open Presentation (listStart listEnd listEmpty mastersEnd)

/-- The template is cut at the end of its masters. -/
theorem toList_document_nil :
    (document (presentationNode [])).toList = front ++ (mastersEnd ++ back) := by
  rw [document, String.toList_ofList]
  decide +kernel

/-- With slides, their list stands behind the masters. -/
theorem toList_document_cons {slides : List Added} (h : slides ≠ []) :
    (document (presentationNode slides)).toList
      = front ++ mastersEnd ++ listStart ++ allChars (slides.map Added.entry) ++ (listEnd ++ back) := by
  have hempty : slides.isEmpty = false := by simpa using h
  have hmasters : masterList.chars = "<p:sldMasterIdLst>".toList ++
      (Node.empty "p:sldMasterId" [⟨"id", "2147483648"⟩, ⟨"r:id", "rId1"⟩]).chars ++ mastersEnd := by
    decide
  have hstart : '<' :: (Xml.openingChars "p:sldIdLst" [] ++ ['>']) = listStart := by decide
  have hend : '<' :: '/' :: ("p:sldIdLst".toList ++ ['>']) = listEnd := by decide
  have hclose : '<' :: '/' :: ("p:presentation".toList ++ ['>']) = "</p:presentation>".toList := by decide
  rw [document, String.toList_ofList, presentationNode, slideList, hempty, Node.chars,
    Xml.allChars_append, Xml.allChars_append, hclose]
  simp only [Bool.false_eq_true, ite_false, Xml.allChars, Node.chars, hend, hmasters, front, back,
    ← hstart, List.append_assoc, List.cons_append, List.nil_append, List.append_nil]

/-- The entry of a slide, behind the start of its tag. -/
theorem exists_chars_entry {slide : Added} (h : IsVerbatim slide.relationship) :
    ∃ rest, slide.entry.chars = '<' :: 'p' :: rest ∧ '<' ∉ rest := by
  refine ⟨":sldId id=\"".toList ++ ((toString slide.id).toList ++ ("\" r:id=\"".toList ++
    (slide.relationship.toList ++ "\"/>".toList))), ?_, ?_⟩
  · simp [Added.entry, Node.chars, Xml.openingChars, Xml.Attribute.chars]
  · have hid := (Xml.isVerbatim_toString slide.id).not_mem (.inl rfl)
    have hrelationship := h.not_mem (.inl rfl)
    simp only [List.mem_append, not_or]
    exact ⟨by decide, hid, by decide, hrelationship, by decide⟩

/-- The end of the list of slides starts nowhere in its entries. -/
theorem passes_entries {slides : List Added} (h : ∀ slide ∈ slides, IsVerbatim slide.relationship)
    (after : List Char) : Text.Passes listEnd (allChars (slides.map Added.entry)) after := by
  induction slides with
  | nil => trivial
  | cons slide slides ih =>
    rw [List.map_cons, Xml.allChars]
    refine Text.Passes.append ?_ (ih fun other hother => h other (List.mem_cons_of_mem slide hother))
    obtain ⟨rest, hchars, hrest⟩ := exists_chars_entry (h slide List.mem_cons_self)
    rw [hchars]
    have hnone : '<' ∉ 'p' :: rest := by
      rw [List.mem_cons, not_or]
      exact ⟨by decide, hrest⟩
    have htail : Text.Passes ('<' :: "/p:sldIdLst>".toList) ('p' :: rest)
        (allChars (slides.map Added.entry) ++ after) := Text.passes_of_not_mem hnone _
    exact ⟨rfl, htail⟩

/-- There is something to enter if there are slides. -/
theorem allChars_entries_isEmpty (slides : List Added) :
    (allChars (slides.map Added.entry)).isEmpty = slides.isEmpty := by
  cases slides <;> rfl

/-- Inserting the entries of further slides gives the presentation with these slides. -/
theorem insertEntries_presentation {slides : List Added} (added : List Added)
    (h : ∀ slide ∈ slides, IsVerbatim slide.relationship) :
    Presentation.insertEntries (document (presentationNode slides)).toList
      (allChars (added.map Added.entry)) = .ok (document (presentationNode (slides ++ added))).toList := by
  rw [Presentation.insertEntries, allChars_entries_isEmpty]
  by_cases hadded : added = []
  · subst hadded
    rw [List.append_nil]
    rfl
  have hnonempty : added.isEmpty = false := by simpa using hadded
  have hboth : slides ++ added ≠ [] := fun heq => hadded (List.append_eq_nil_iff.1 heq).2
  rw [hnonempty, toList_document_cons hboth]
  by_cases hslides : slides = []
  · -- a list is made behind the list of slide masters
    subst hslides
    obtain ⟨hlist, hempty, hmasters⟩ : Text.cutFirst listEnd (front ++ (mastersEnd ++ back)) = none ∧
        Text.cutFirst listEmpty (front ++ (mastersEnd ++ back)) = none ∧
        Text.cutFirst mastersEnd (front ++ (mastersEnd ++ back)) = some (front, back) := by
      decide +kernel
    rw [toList_document_nil, hlist, hempty, hmasters]
    simp only [Bool.false_eq_true, ite_false, List.nil_append, List.append_assoc]
  · -- the entries go to the end of the list that is there
    have hfront : Text.clears listEnd (front ++ mastersEnd ++ listStart) = true := by decide +kernel
    have hpasses := Text.Passes.append
      (Text.passes_of_clears hfront (allChars (slides.map Added.entry) ++ (listEnd ++ back)))
      (passes_entries h (listEnd ++ back))
    rw [toList_document_cons hslides, Text.cutFirst_found (by decide) hpasses]
    simp only [Bool.false_eq_true, ite_false, List.map_append, Xml.allChars_append, List.append_assoc]

end SlideDeck.Deck
