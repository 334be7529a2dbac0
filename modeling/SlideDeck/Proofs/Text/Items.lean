import Mathlib.Data.List.Basic
import SlideDeck.Text.Lines

/-!
# Items between separators

A text is made of items and of separators between and around them in one way only, as an item goes on to the
next separator (`Items`). The items are the pieces that the text is cut into, without the empty ones
(`items_iff`).
-/

namespace SlideDeck.Text

variable {separates : Char → Bool}

/-- Whether a text is made of these items and of separators between and around them. -/
inductive Items (separates : Char → Bool) : List Char → List (List Char) → Prop
  | nil : Items separates [] []
  | gap {c : Char} {text : List Char} {items : List (List Char)} (hc : separates c = true)
      (h : Items separates text items) : Items separates (c :: text) items
  | item {item rest : List Char} {items : List (List Char)} (hne : item ≠ [])
      (hitem : ∀ c ∈ item, separates c = false) (hrest : ∀ c ∈ rest.head?, separates c = true)
      (h : Items separates rest items) : Items separates (item ++ rest) (item :: items)

/-- Every text has items. -/
theorem exists_items (separates : Char → Bool) (text : List Char) :
    ∃ items, Items separates text items := by
  induction text with
  | nil => exact ⟨[], .nil⟩
  | cons c text ih =>
    obtain ⟨items, h⟩ := ih
    by_cases hc : separates c = true
    · exact ⟨items, .gap hc h⟩
    rw [Bool.not_eq_true] at hc
    -- the character is an item of its own, or the start of the first one
    cases h with
    | nil => exact ⟨[[c]], .item (List.cons_ne_nil c []) (by simpa using hc) (by simp) .nil⟩
    | @gap d text _ hd h =>
      exact ⟨[c] :: items, .item (List.cons_ne_nil c []) (by simpa using hc) (by simpa using hd) (.gap hd h)⟩
    | @item item rest items hne hitem hrest h =>
      refine ⟨(c :: item) :: items, .item (List.cons_ne_nil c item) (fun d hd => ?_) hrest h⟩
      rcases List.mem_cons.1 hd with rfl | hd
      · exact hc
      · exact hitem d hd

/-- What is not separated is the start of the first piece. -/
theorem splitWhere_append {item : List Char} (h : ∀ c ∈ item, separates c = false) {rest : List Char}
    {first : List Char} {pieces : List (List Char)} (hrest : splitWhere separates rest = first :: pieces) :
    splitWhere separates (item ++ rest) = (item ++ first) :: pieces := by
  induction item with
  | nil => exact hrest
  | cons c item ih =>
    rw [List.cons_append, splitWhere, h c List.mem_cons_self,
      ih fun d hd => h d (List.mem_cons_of_mem c hd)]
    rfl

/-- They are what is left of the pieces when the empty ones are taken out. -/
theorem filter_splitWhere {text : List Char} {items : List (List Char)}
    (h : Items separates text items) : (splitWhere separates text).filter (· ≠ []) = items := by
  induction h with
  | nil => rfl
  | gap hc _ ih =>
    rw [splitWhere, if_pos hc]
    exact ih
  | @item item rest items hne hitem hrest _ ih =>
    -- the item ends where the first piece of the rest, which is empty, does
    obtain ⟨pieces, hpieces⟩ : ∃ pieces, splitWhere separates rest = [] :: pieces := by
      cases rest with
      | nil => exact ⟨[], rfl⟩
      | cons c rest => exact ⟨_, if_pos (hrest c rfl)⟩
    rw [hpieces] at ih
    rw [splitWhere_append hitem hpieces, List.append_nil, List.filter_cons_of_pos (by simpa using hne)]
    exact congrArg (item :: ·) ih

/-- A text has no other items than these. -/
theorem items_iff {text : List Char} {items : List (List Char)} :
    Items separates text items ↔ items = (splitWhere separates text).filter (· ≠ []) := by
  constructor
  · exact fun h => (filter_splitWhere h).symm
  · rintro rfl
    obtain ⟨items, h⟩ := exists_items separates text
    rwa [filter_splitWhere h]

end SlideDeck.Text
