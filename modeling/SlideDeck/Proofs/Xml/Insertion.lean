import SlideDeck.Proofs.Xml.Replacement
import SlideDeck.Proofs.Xml.Starts

/-!
# Inserting elements into documents

Where a place of a document is between two of its pieces, elements without content can be inserted there.
A scan finds them between the elements that start in front of the place and those that start behind it, and
the document stays as complete as it was (`exists_scan_insert`).
-/

namespace SlideDeck.Xml

/-- What is found behind elements that were found before. -/
def Scan.behind (kept : List Element) (found : Scan) : Scan := ⟨kept ++ found.elements, found.complete⟩

/-- An element in front of those that come first is one of them. -/
theorem Scan.cons_behind (element : Element) (kept : List Element) (found : Scan) :
    (found.behind kept).cons element = found.behind (element :: kept) := rfl

/-- Elements put in front twice are put in front at once. -/
theorem Scan.behind_behind (first second : List Element) (found : Scan) :
    (found.behind second).behind first = found.behind (first ++ second) := by
  rw [behind, behind, behind, List.append_assoc]

/-- Tags with others behind them that nest leave some elements open. -/
theorem exists_nest_append {opened : List (List Char)} {complete : Bool} {found rest : List Tag}
    (h : (nest opened complete (found ++ rest)).complete = true) :
    ∃ kept opened', ∀ complete rest,
      nest opened complete (found ++ rest) = (nest opened' complete rest).behind kept := by
  induction found generalizing opened with
  | nil => exact ⟨[], opened, fun _ _ => rfl⟩
  | cons tag found ih =>
    cases tag with
    | opening element =>
      have hopening : (nest (element.name :: opened) complete (found ++ rest)).complete = true := h
      obtain ⟨kept, opened', hnest⟩ := ih hopening
      exact ⟨element :: kept, opened', fun complete rest => by
        rw [List.cons_append, nest, hnest, Scan.cons_behind]⟩
    | empty element =>
      have hempty : (nest opened complete (found ++ rest)).complete = true := h
      obtain ⟨kept, opened', hnest⟩ := ih hempty
      exact ⟨element :: kept, opened', fun complete rest => by
        rw [List.cons_append, nest, hnest, Scan.cons_behind]⟩
    | closing name =>
      cases opened with
      | nil => cases h
      | cons innermost opened =>
        rw [List.cons_append, nest] at h
        split at h
        · next hname =>
          obtain ⟨kept, opened', hnest⟩ := ih h
          exact ⟨kept, opened', fun complete rest => by rw [List.cons_append, nest, if_pos hname, hnest]⟩
        · cases h

/-- Empty tags leave the same elements open. -/
theorem nest_empties (opened : List (List Char)) (complete : Bool) (elements : List Element)
    (rest : List Tag) :
    nest opened complete (elements.map .empty ++ rest) = (nest opened complete rest).behind elements := by
  induction elements with
  | nil => rfl
  | cons element elements ih => rw [List.map_cons, List.cons_append, nest, ih, Scan.cons_behind]

/-! ## Tags of edited documents -/

/-- A text that ends between pieces has the same tags, whatever follows. -/
theorem EndsBetween.exists_tags {text : List Char} (h : EndsBetween text) :
    ∃ found, ∀ rest, tags (text ++ rest) = ⟨found ++ (tags rest).tags, (tags rest).complete⟩ := by
  obtain ⟨found, hfound⟩ := h
  refine ⟨found.filterMap Piece.tag?, fun rest => ?_⟩
  rw [tags_eq_pieces, tags_eq_pieces rest, hfound, Pieces.after, List.filterMap_append]

/-- An end tag is read back as it was written. -/
theorem tags_endTag {name : List Char} (h : isName name = true) (rest : List Char) :
    tags (endTag name ++ rest) = ⟨.closing name :: (tags rest).tags, (tags rest).complete⟩ := by
  rw [tags_eq_pieces, tags_eq_pieces rest, pieces_endTag h]
  rfl

/-- An element without content, printed as one empty tag. -/
def Start.node (start : Start) : Node := .empty start.1 start.2

/-- Empty elements are pieces that are one empty tag each. -/
theorem allNodePieces_starts (starts : List Start) :
    allNodePieces (starts.map Start.node) = ((starts.map Start.read).map Tag.empty).map .tag := by
  induction starts with
  | nil => rfl
  | cons start starts ih =>
    rw [List.map_cons, allNodePieces, ih]
    rfl

/-- Empty elements are read back as empty tags. -/
theorem tags_starts {starts : List Start} (h : allPlain (starts.map Start.node) = true) (rest : List Char) :
    tags (allChars (starts.map Start.node) ++ rest)
      = ⟨(starts.map Start.read).map .empty ++ (tags rest).tags, (tags rest).complete⟩ := by
  rw [tags_eq_pieces, tags_eq_pieces rest, pieces_allChars _ h, Pieces.after, allNodePieces_starts,
    List.filterMap_append, filterMap_tag?]

/-- Inserted elements are found behind those that start in front of their place. -/
theorem exists_scan_insert {before after : List Char} (h : EndsBetween before)
    (hcomplete : (scan (String.ofList (before ++ after))).complete = true) :
    ∃ kept opened, ∀ starts : List Start, allPlain (starts.map Start.node) = true →
      scan (String.ofList (before ++ (allChars (starts.map Start.node) ++ after)))
        = (nest opened (tags after).complete (tags after).tags).behind (kept ++ starts.map Start.read) := by
  obtain ⟨found, hfound⟩ := h.exists_tags
  rw [scan, String.toList_ofList, hfound] at hcomplete
  obtain ⟨kept, opened, hnest⟩ := exists_nest_append hcomplete
  refine ⟨kept, opened, fun starts hplain => ?_⟩
  rw [scan, String.toList_ofList, hfound, tags_starts hplain]
  simp only [hnest, nest_empties, Scan.behind_behind]

/-- Elements can be inserted in front of the last end tag of a document, behind all that it has. -/
theorem scan_insert_last {before after name : List Char} (h : EndsBetween before)
    (hname : isName name = true) (hlast : (tags after).tags = [])
    (hcomplete : (scan (String.ofList (before ++ (endTag name ++ after)))).complete = true)
    {starts : List Start} (hplain : allPlain (starts.map Start.node) = true) :
    scan (String.ofList (before ++ (allChars (starts.map Start.node) ++ (endTag name ++ after))))
      = ⟨(scan (String.ofList (before ++ (endTag name ++ after)))).elements ++ starts.map Start.read, true⟩ := by
  obtain ⟨kept, opened, hscan⟩ := exists_scan_insert h hcomplete
  have hsame := hscan [] rfl
  rw [List.map_nil, allChars, List.nil_append, List.map_nil, List.append_nil] at hsame
  rw [hsame] at hcomplete
  rw [hscan starts hplain, hsame]
  -- nothing starts behind the place
  have hnone : (nest opened (tags (endTag name ++ after)).complete (tags (endTag name ++ after)).tags).elements
      = [] := by
    rw [tags_endTag hname, hlast]
    cases opened with
    | nil => rfl
    | cons innermost opened =>
      rw [nest]
      split <;> rfl
  simp only [Scan.behind] at hcomplete ⊢
  rw [hnone, hcomplete, List.append_nil, List.append_nil]

end SlideDeck.Xml
