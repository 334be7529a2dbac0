import SlideDeck.Proofs.Package.Relationship
import SlideDeck.Proofs.Package.Target

/-!
# Names that documents can carry

Part names and targets are made of the characters of other names, of digits and of a few fixed texts. If
a document can carry the names they are made from, it can carry them too.
-/

namespace SlideDeck

namespace PartName

open Xml (IsCarried)

/-- Pieces that are carried whole make a name that is. -/
theorem isCarried_join {pieces : List (List Char)}
    (h : ∀ piece ∈ pieces, ∀ c ∈ piece, Xml.isCarried c = true) :
    IsCarried (String.ofList (Text.join ['/'] pieces)) := by
  intro c hc
  rw [String.toList_ofList] at hc
  rcases Text.mem_join hc with rfl | ⟨piece, hpiece, hc⟩
  · decide
  · exact h piece hpiece c hc

/-- The pieces of a name that is carried whole are. -/
theorem isCarried_of_mem_splitAt {text piece : List Char} (h : ∀ c ∈ text, Xml.isCarried c = true)
    (hpiece : piece ∈ Text.splitAt '/' text) : ∀ c ∈ piece, Xml.isCarried c = true :=
  fun c hc => h c (Text.mem_of_mem_splitAt hpiece hc)

/-- A target resolves to a name of the characters of the two. -/
theorem isCarried_resolve {source target : String} (hsource : IsCarried source)
    (htarget : IsCarried target) : IsCarried (resolve source target) := by
  rw [resolve_eq]
  apply isCarried_join
  intro piece hpiece
  have hmem := (mem_follow hpiece).1
  rw [targetSegments] at hmem
  split at hmem
  · next rest hrest =>
    have hcarried : ∀ c ∈ rest, Xml.isCarried c = true := fun c hc =>
      htarget c (hrest ▸ List.mem_cons_of_mem _ hc)
    exact isCarried_of_mem_splitAt hcarried hmem
  · rcases List.mem_append.1 hmem with hmem | hmem
    · rw [folderSegments_eq] at hmem
      exact isCarried_of_mem_splitAt hsource (List.dropLast_subset _ hmem)
    · exact isCarried_of_mem_splitAt htarget hmem

/-- The target that leads to a part has the characters of its name. -/
theorem isCarried_relative (source : String) {target : String} (h : IsCarried target) :
    IsCarried (relative source target) := by
  rw [relative_eq]
  apply isCarried_join
  intro piece hpiece
  rcases List.mem_append.1 hpiece with hpiece | hpiece
  · obtain ⟨-, rfl⟩ := List.mem_replicate.1 hpiece
    have hup : IsCarried ".." := by decide
    exact hup
  · exact isCarried_of_mem_splitAt h (List.mem_of_mem_drop hpiece)

/-- A name in the folder of a part is carried whole if both are. -/
theorem isCarried_inFolderOf {part name : String} (hpart : IsCarried part) (hname : IsCarried name) :
    IsCarried (inFolderOf part name) := by
  rw [inFolderOf, split]
  split
  · next folder file hcut =>
    intro c hc
    rw [String.toList_ofList, List.mem_append, List.mem_cons] at hc
    rcases hc with hc | rfl | hc
    · refine hpart c ?_
      rw [Text.eq_of_cutLast hcut, List.mem_append, List.mem_append]
      exact .inl (.inl hc)
    · decide
    · exact hname c hc
  · exact hname

end PartName

end SlideDeck
