import SlideDeck.Text.Find
import SlideDeck.Text.Lines

/-!
# Cutting texts at separators

The pieces of a text have no separator in them, and pieces without one are what the text that joins them
is cut into.
-/

namespace SlideDeck.Text

variable {separator : Char}

/-- A text without the separator is one piece. -/
theorem splitAt_of_not_mem {text : List Char} (h : separator ∉ text) :
    splitAt separator text = [text] := by
  unfold splitAt
  induction text with
  | nil => rfl
  | cons c text ih =>
    rw [List.mem_cons, not_or] at h
    have hc : (c == separator) = false := by simpa using Ne.symm h.1
    rw [splitWhere, hc, ih h.2]
    rfl

/-- A text is cut at a separator in it, and on both sides of it as those texts are. -/
theorem splitAt_append (a b : List Char) :
    splitAt separator (a ++ separator :: b) = splitAt separator a ++ splitAt separator b := by
  unfold splitAt
  induction a with
  | nil => simp [splitWhere]
  | cons c a ih =>
    rw [List.cons_append, splitWhere, splitWhere, ih]
    split
    · rfl
    · cases hpieces : splitWhere (· == separator) a with
      | nil => exact absurd hpieces (splitWhere_ne_nil _ a)
      | cons piece pieces => rfl

/-- No piece holds the separator. -/
theorem not_mem_of_mem_splitAt {text piece : List Char} (h : piece ∈ splitAt separator text) :
    separator ∉ piece := by
  unfold splitAt at h
  induction text generalizing piece with
  | nil =>
    obtain rfl := List.mem_singleton.1 h
    exact List.not_mem_nil
  | cons c text ih =>
    rw [splitWhere] at h
    split at h
    · rcases List.mem_cons.1 h with rfl | h
      · exact List.not_mem_nil
      · exact ih h
    · next hc =>
      have hne : separator ≠ c := fun heq => hc (beq_iff_eq.2 heq.symm)
      cases hpieces : splitWhere (· == separator) text with
      | nil =>
        rw [hpieces] at h
        obtain rfl := List.mem_singleton.1 h
        simpa using hne
      | cons first pieces =>
        rw [hpieces] at h ih
        rcases List.mem_cons.1 h with rfl | h
        · rw [List.mem_cons, not_or]
          exact ⟨hne, ih List.mem_cons_self⟩
        · exact ih (List.mem_cons_of_mem first h)

/-- Between two pieces is one separator. -/
theorem join_cons_cons (first second : List Char) (pieces : List (List Char)) :
    join [separator] (first :: second :: pieces)
      = first ++ separator :: join [separator] (second :: pieces) := by
  simp [join]

/-- Pieces without a separator in them are what the text that joins them is cut into. -/
theorem splitAt_join {pieces : List (List Char)} (hne : pieces ≠ [])
    (h : ∀ piece ∈ pieces, separator ∉ piece) : splitAt separator (join [separator] pieces) = pieces := by
  induction pieces with
  | nil => exact absurd rfl hne
  | cons first pieces ih =>
    have hfirst := splitAt_of_not_mem (h first List.mem_cons_self)
    match pieces, ih, h with
    | [], _, _ => exact hfirst
    | second :: pieces, ih, h =>
      rw [join_cons_cons, splitAt_append, hfirst,
        ih (List.cons_ne_nil _ _) fun piece hpiece => h piece (List.mem_cons_of_mem first hpiece)]
      rfl

/-- A joined text is made of its pieces and separators. -/
theorem mem_join {pieces : List (List Char)} {c : Char} (h : c ∈ join [separator] pieces) :
    c = separator ∨ ∃ piece ∈ pieces, c ∈ piece := by
  induction pieces with
  | nil => cases h
  | cons first pieces ih =>
    match pieces, ih, h with
    | [], _, h => exact .inr ⟨first, List.mem_cons_self, h⟩
    | second :: pieces, ih, h =>
      rw [join_cons_cons, List.mem_append, List.mem_cons] at h
      rcases h with h | h | h
      · exact .inr ⟨first, List.mem_cons_self, h⟩
      · exact .inl h
      · refine (ih h).imp_right fun ⟨piece, hpiece, hc⟩ => ?_
        exact ⟨piece, List.mem_cons_of_mem first hpiece, hc⟩

/-- What is in a piece is in the text that is joined of it. -/
theorem mem_join_of_mem {pieces : List (List Char)} {piece : List Char} (h : piece ∈ pieces) {c : Char}
    (hc : c ∈ piece) : c ∈ join [separator] pieces := by
  induction pieces with
  | nil => cases h
  | cons first pieces ih =>
    match pieces, ih, h with
    | [], _, h =>
      obtain rfl := List.mem_singleton.1 h
      exact hc
    | second :: pieces, ih, h =>
      rw [join_cons_cons, List.mem_append, List.mem_cons]
      rcases List.mem_cons.1 h with rfl | h
      · exact .inl hc
      · exact .inr (.inr (ih h))

/-- What is in a piece is in the text that was split. -/
theorem mem_of_mem_splitAt {text piece : List Char} (h : piece ∈ splitAt separator text) {c : Char}
    (hc : c ∈ piece) : c ∈ text := by
  rw [← join_splitAt separator text]
  exact mem_join_of_mem h hc

/-- Texts with the same pieces are the same. -/
theorem splitAt_injective {a b : List Char} (h : splitAt separator a = splitAt separator b) :
    a = b := by
  rw [← join_splitAt separator a, h, join_splitAt]

/-- A text without a last separator has none. -/
theorem not_mem_of_cutLast_eq_none {text : List Char} (h : cutLast [separator] text = none) :
    separator ∉ text := by
  induction text with
  | nil => exact List.not_mem_nil
  | cons c text ih =>
    rw [cutLast] at h
    split at h
    · cases h
    · next hcut =>
      rw [Option.map_eq_none_iff] at h
      rw [List.mem_cons, not_or]
      refine ⟨fun heq => ?_, ih hcut⟩
      subst heq
      rw [dropStart?_eq_some_iff.2 (List.singleton_append)] at h
      cases h

/-- A separator is the last one if none follows it. -/
theorem cutLast_of_not_mem (before : List Char) {after : List Char} (h : separator ∉ after) :
    cutLast [separator] (before ++ separator :: after) = some (before, after) := by
  have hafter : cutLast [separator] after = none := by
    match hcut : cutLast [separator] after with
    | none => rfl
    | some (left, right) =>
      refine absurd ?_ h
      rw [eq_of_cutLast hcut]
      simp
  induction before with
  | nil =>
    have hstart : dropStart? [separator] (separator :: after) = some after :=
      dropStart?_eq_some_iff.2 rfl
    rw [List.nil_append, cutLast, hafter, hstart]
    rfl
  | cons c before ih => rw [List.cons_append, cutLast, ih]

/-- The last separator of a text is in front of its last piece. -/
theorem splitAt_of_cutLast {text before after : List Char}
    (h : cutLast [separator] text = some (before, after)) :
    splitAt separator text = splitAt separator before ++ [after] := by
  -- no separator follows the last one, by induction on the text
  have hlast : separator ∉ after := by
    induction text generalizing before with
    | nil => simp [cutLast] at h
    | cons c text ih =>
      rw [cutLast] at h
      split at h
      · next left right hcut =>
        obtain ⟨rfl, rfl⟩ : c :: left = before ∧ right = after := by simpa using h
        exact ih hcut
      · next hcut =>
        obtain ⟨rest, hrest, heq⟩ := Option.map_eq_some_iff.1 h
        obtain ⟨rfl, rfl⟩ : [] = before ∧ rest = after := by simpa using heq
        obtain ⟨-, rfl⟩ : c = separator ∧ text = rest := by
          simpa using dropStart?_eq_some_iff.1 hrest
        exact not_mem_of_cutLast_eq_none hcut
  rw [eq_of_cutLast h, List.append_assoc, List.singleton_append, splitAt_append,
    splitAt_of_not_mem hlast]

end SlideDeck.Text
