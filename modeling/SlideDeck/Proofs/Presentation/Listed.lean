import SlideDeck.Proofs.Presentation.Composed
import SlideDeck.Proofs.Xml.Query

/-!
# Reading the list of slides

What the presentation of a package of the template and slides says about its slides, as a reader of the
document finds it.
-/

namespace SlideDeck

/-- The numbers and the relationship ids in the list of slides of a presentation. -/
def Presentation.listedSlides? (xml : String) : Option (List (Option String × Option String)) :=
  (Xml.readTrees? xml).map fun trees =>
    (Xml.startsNamed "sldId" (Xml.within "sldIdLst" (Xml.within "presentation" trees))).map
      fun entry => (entry.attribute? "id", entry.attribute? "r:id")

namespace Deck

open Xml (document IsVerbatim Node)

variable {slides : List Added} (h : ∀ slide ∈ slides, IsVerbatim slide.relationship)

include h

/-- The relationships that the presentation refers to are that of its master and those of its slides. -/
theorem relationshipIds_presentationNode :
    (Xml.scan (document (presentationNode slides))).elements.filterMap (·.attribute? "r:id")
      = "rId1" :: slides.map (·.relationship) := by
  have hroot : Xml.Start.value? "r:id"
      ("p:presentation", Slide.vocabularies ++ [⟨"saveSubsetFonts", "1"⟩]) = none := by decide
  have hmasters : masterList.starts.filterMap (·.value? "r:id") = ["rId1"] := by decide
  have hlist : Xml.Start.value? "r:id" ("p:sldIdLst", []) = none := by decide
  have hsizes : (Xml.allStarts sizes).filterMap (·.value? "r:id") = [] := by decide
  have hentries : (slides.map Added.start).filterMap (·.value? "r:id")
      = slides.map (·.relationship) := by
    rw [List.filterMap_map, ← List.filterMap_eq_map]
    exact List.filterMap_congr fun slide hslide => (h slide hslide).unescape?
  rw [Xml.filterMap_attribute? (isPlain_presentationNode h), starts_presentationNode,
    List.filterMap_cons_none hroot, List.filterMap_append, List.filterMap_append, hmasters, hsizes,
    List.append_nil, List.singleton_append]
  refine congrArg _ ?_
  cases slides with
  | nil => rfl
  | cons slide slides => exact (List.filterMap_cons_none hlist).trans hentries

/-- The list of slides has an entry for each slide, in order. -/
theorem listedSlides?_presentationNode :
    Presentation.listedSlides? (document (presentationNode slides))
      = some (slides.map fun slide => (some (toString slide.id), some slide.relationship)) := by
  have hroot : Xml.Start.isNamed "presentation" ("p:presentation", []) = true := by decide
  have hmasters : masterList.within "sldIdLst" = [] := by decide
  have hsizes : sizes.flatMap (Node.within "sldIdLst") = [] := by decide
  have hlist : Xml.Start.isNamed "sldIdLst" ("p:sldIdLst", []) = true := by decide
  have hentry : Xml.Start.isNamed "sldId" ("p:sldId", []) = true := by decide
  have hholds : (presentationNode slides).within "presentation"
      = [masterList] ++ slideList slides ++ sizes := Node.within_of_isNamed hroot _ _
  have hlists : ([masterList] ++ slideList slides ++ sizes).flatMap (Node.within "sldIdLst")
      = slides.map Added.entry := by
    rw [List.flatMap_append, List.flatMap_append, List.flatMap_singleton, hmasters, hsizes,
      List.append_nil, List.nil_append, slideList]
    cases slides with
    | nil => rfl
    | cons slide slides =>
      have hheld : (Node.element "p:sldIdLst" [] ((slide :: slides).map Added.entry)).within "sldIdLst"
          = (slide :: slides).map Added.entry := Node.within_of_isNamed hlist _ _
      rw [List.isEmpty_cons, if_neg Bool.false_ne_true, List.flatMap_singleton, hheld]
  have hentries : (slides.map Added.entry).filterMap (Node.startNamed? "sldId")
      = slides.map Added.start := by
    rw [List.filterMap_map, ← List.filterMap_eq_map]
    exact List.filterMap_congr fun slide _ => Node.startNamed?_of_isNamed hentry _
  rw [Presentation.listedSlides?, Xml.readTrees?_document (isPlain_presentationNode h), Option.map_some,
    Xml.within_trees, hholds, Xml.within_allTrees, hlists, Xml.startsNamed_allTrees, hentries,
    List.map_map, List.map_map]
  refine congrArg some (List.map_congr_left fun slide hslide => ?_)
  have hplain : Xml.arePlain slide.start.2 = true := by
    have hnode := isPlain_entry (h slide hslide)
    rw [Added.entry, Node.isPlain, Bool.and_eq_true] at hnode
    exact hnode.2
  have hid : slide.start.value? "id" = some (toString slide.id) :=
    (Xml.isVerbatim_toString slide.id).unescape?
  have hrelationship : slide.start.value? "r:id" = some slide.relationship :=
    (h slide hslide).unescape?
  show (slide.start.read.attribute? "id", slide.start.read.attribute? "r:id") = _
  rw [Xml.attribute?_read hplain, Xml.attribute?_read hplain, hid, hrelationship]

end Deck

end SlideDeck
