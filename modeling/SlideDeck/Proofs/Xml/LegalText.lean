import Mathlib.Data.List.Basic
import SlideDeck.Proofs.Xml.Plain

/-!
# Legal text

What XML 1.0 calls a character may stand in a document, and no other code point may. Escaping drops the
control characters that are none, and writes what has a meaning in markup as one of the predefined entities.
It keeps the two noncharacters U+FFFE and U+FFFF, so that a text with one of them is written as text that is
not legal. `escape_legal_but_noncharacters` says so for every text, and that all else is as it should be.
-/

namespace SlideDeck.Xml

/-! ## Characters -/

/-- Whether XML 1.0 allows a character in a document. -/
def IsLegal (c : Char) : Prop :=
  c = '\t' ∨ c = '\n' ∨ c = '\r' ∨ (0x20 ≤ c.toNat ∧ c.toNat ≤ 0xD7FF) ∨
    (0xE000 ≤ c.toNat ∧ c.toNat ≤ 0xFFFD) ∨ (0x10000 ≤ c.toNat ∧ c.toNat ≤ 0x10FFFF)

instance (c : Char) : Decidable (IsLegal c) := by
  unfold IsLegal
  infer_instance

/-- The two code points above the control characters that XML 1.0 does not allow. -/
def noncharacters : List Char := ['\uFFFE', '\uFFFF']

/-- There are two noncharacters. -/
theorem mem_noncharacters_iff {c : Char} : c ∈ noncharacters ↔ c.toNat = 0xFFFE ∨ c.toNat = 0xFFFF := by
  rw [noncharacters, List.mem_pair, ← Char.toNat_inj, ← Char.toNat_inj]
  rfl

/-- Neither is legal. -/
theorem not_isLegal_of_mem_noncharacters {c : Char} (h : c ∈ noncharacters) : ¬ IsLegal c := by
  rw [noncharacters, List.mem_pair] at h
  rcases h with rfl | rfl <;> decide

/-- A text keeps its legal characters and its noncharacters when it is escaped. -/
theorem isCarried_iff {c : Char} : isCarried c = true ↔ IsLegal c ∨ c ∈ noncharacters := by
  have hvalid : c.toNat < 0xD800 ∨ (0xDFFF < c.toNat ∧ c.toNat < 0x110000) := c.valid
  have hranges : 0x20 ≤ c.toNat ↔ (0x20 ≤ c.toNat ∧ c.toNat ≤ 0xD7FF) ∨
      (0xE000 ≤ c.toNat ∧ c.toNat ≤ 0xFFFD) ∨ (0x10000 ≤ c.toNat ∧ c.toNat ≤ 0x10FFFF) ∨
      c.toNat = 0xFFFE ∨ c.toNat = 0xFFFF := by
    omega
  rw [isCarried, Bool.or_eq_true, decide_eq_true_eq, hranges]
  simp only [Bool.or_eq_true, decide_eq_true_eq, mem_noncharacters_iff, IsLegal, or_assoc]

/-! ## Entities -/

/-- The entities that are predefined. -/
def predefined : List (List Char) :=
  ["&lt;".toList, "&gt;".toList, "&apos;".toList, "&amp;".toList, "&quot;".toList]

/-- Whether every `&` in a text starts one of the predefined entities. -/
def HasEntitiesOnly (text : List Char) : Prop :=
  ∀ before after, text = before ++ '&' :: after → ∃ entity ∈ predefined, entity <+: '&' :: after

/-- A character is written as one of the predefined entities, or has no meaning in markup. -/
theorem escapeChar_cases (c : Char) :
    escapeChar c ∈ predefined ∨ (escapeChar c = [c] ∧ c ≠ '&') := by
  by_cases hentity : c ∈ ['<', '>', '\'', '&', '"']
  · simp only [List.mem_cons, List.not_mem_nil, or_false] at hentity
    rcases hentity with rfl | rfl | rfl | rfl | rfl <;> exact .inl (by decide)
  · simp only [List.mem_cons, List.not_mem_nil, or_false, not_or] at hentity
    obtain ⟨hless, hgreater, hsingle, hand, hdouble⟩ := hentity
    exact .inr ⟨by rw [escapeChar, if_neg hless, if_neg hgreater, if_neg hsingle, if_neg hand,
      if_neg hdouble], hand⟩

/-- An `&` behind a text without one is in the rest. -/
theorem exists_of_append_eq {front rest before after : List Char} (hfront : '&' ∉ front)
    (h : front ++ rest = before ++ '&' :: after) : ∃ more, rest = more ++ '&' :: after := by
  rcases List.append_eq_append_iff.1 h with ⟨more, -, hrest⟩ | ⟨more, hbefore, hafter⟩
  · exact ⟨more, hrest⟩
  · match more, hafter with
    | [], hafter => exact ⟨[], hafter.symm⟩
    | c :: more, hafter =>
      obtain ⟨rfl, -⟩ := List.cons.inj hafter
      exact absurd (hbefore ▸ by simp) hfront

/-- An escaped character brings no ampersand that does not begin an entity. -/
theorem HasEntitiesOnly.escapeChar_append {rest : List Char} (h : HasEntitiesOnly rest) (c : Char) :
    HasEntitiesOnly (escapeChar c ++ rest) := by
  intro before after heq
  rcases escapeChar_cases c with hentity | ⟨hself, hand⟩
  · -- an entity starts with its only `&`
    obtain ⟨name, hname, hand⟩ : ∃ name, escapeChar c = '&' :: name ∧ '&' ∉ name := by
      simp only [predefined, List.mem_cons, List.not_mem_nil, or_false] at hentity
      rcases hentity with hentity | hentity | hentity | hentity | hentity <;>
        exact ⟨_, hentity, by decide⟩
    match before, heq with
    | [], heq => exact ⟨_, hentity, rest, heq⟩
    | d :: before, heq =>
      rw [hname, List.cons_append, List.cons_append] at heq
      obtain ⟨more, hmore⟩ := exists_of_append_eq hand (List.cons.inj heq).2
      exact h more after hmore
  · rw [hself] at heq
    obtain ⟨more, hmore⟩ := exists_of_append_eq (by simpa using Ne.symm hand) heq
    exact h more after hmore

/-- In escaped text every ampersand begins an entity. -/
theorem hasEntitiesOnly_escape (text : List Char) : HasEntitiesOnly (escape text) := by
  rw [escape]
  induction text.filter isCarried with
  | nil =>
    intro before after h
    rw [List.flatMap_nil] at h
    exact absurd h.symm (List.append_ne_nil_of_right_ne_nil _ (List.cons_ne_nil _ _))
  | cons c rest ih => exact ih.escapeChar_append c

/-! ## Escaped text -/

/-- The predefined entities are written in legal characters. -/
theorem isLegal_of_mem_predefined : ∀ entity ∈ predefined, ∀ c ∈ entity, IsLegal c := by
  have hall : predefined.all (fun entity => entity.all fun c => decide (IsLegal c)) = true := by decide
  exact fun entity hentity c hc =>
    of_decide_eq_true (List.all_eq_true.1 (List.all_eq_true.1 hall entity hentity) c hc)

/-- The characters that escaping keeps and that are not legal are the noncharacters. -/
theorem mem_escape_iff_of_not_isLegal {c : Char} (h : ¬ IsLegal c) (text : List Char) :
    c ∈ escape text ↔ c ∈ text ∧ c ∈ noncharacters := by
  rw [escape, List.mem_flatMap]
  constructor
  · rintro ⟨d, hd, hc⟩
    obtain ⟨hmem, hcarried⟩ := List.mem_filter.1 hd
    rcases escapeChar_cases d with hentity | ⟨hself, -⟩
    · exact absurd (isLegal_of_mem_predefined _ hentity c hc) h
    · rw [hself, List.mem_singleton] at hc
      subst hc
      exact ⟨hmem, (isCarried_iff.1 hcarried).resolve_left h⟩
  · rintro ⟨hmem, hnone⟩
    refine ⟨c, List.mem_filter.2 ⟨hmem, isCarried_iff.2 (.inr hnone)⟩, ?_⟩
    rcases escapeChar_cases c with hentity | ⟨hself, -⟩
    · simp only [predefined, List.mem_cons, List.not_mem_nil, or_false] at hentity
      rw [noncharacters, List.mem_pair] at hnone
      rcases hnone with rfl | rfl <;> exact absurd hentity (by decide)
    · rw [hself]
      exact List.mem_singleton_self c

/-- Unescaping gives the legal characters back, and the noncharacters with them. -/
theorem unescape?_escape_eq (text : List Char) :
    unescape? (escape text) = some (text.filter fun c => IsLegal c ∨ c ∈ noncharacters) := by
  rw [unescape?_escape]
  refine congrArg some (List.filter_congr fun c _ => ?_)
  rw [Bool.eq_iff_iff, isCarried_iff, decide_eq_true_eq]

/-- An escaped text holds no character with a meaning in markup but for the predefined entities. Unescaping
gives the text back without the characters that XML 1.0 does not allow, but with its noncharacters. What is
written is legal, and what is read back is exactly what is legal, if and only if it has none of these. -/
theorem escape_legal_but_noncharacters (text : List Char) :
    (∀ c ∈ escape text, c ∉ ['<', '>', '"', '\'']) ∧ HasEntitiesOnly (escape text) ∧
    (∀ c ∈ escape text, IsLegal c ∨ c ∈ noncharacters) ∧
    unescape? (escape text) = some (text.filter fun c => IsLegal c ∨ c ∈ noncharacters) ∧
    ((∀ c ∈ escape text, IsLegal c) ↔ ∀ c ∈ text, c ∉ noncharacters) ∧
    (unescape? (escape text) = some (text.filter fun c => IsLegal c) ↔ ∀ c ∈ text, c ∉ noncharacters) := by
  refine ⟨fun c hc hmarkup => ?_, hasEntitiesOnly_escape text, fun c hc => ?_, unescape?_escape_eq text,
    ⟨fun h c hc hnone => ?_, fun h c hc => ?_⟩, ?_⟩
  · simp only [List.mem_cons, List.not_mem_nil, or_false] at hmarkup
    exact not_mem_escape hmarkup text hc
  · by_cases hlegal : IsLegal c
    · exact .inl hlegal
    · exact .inr ((mem_escape_iff_of_not_isLegal hlegal text).1 hc).2
  · have hillegal := not_isLegal_of_mem_noncharacters hnone
    exact hillegal (h c ((mem_escape_iff_of_not_isLegal hillegal text).2 ⟨hc, hnone⟩))
  · by_contra hlegal
    obtain ⟨hmem, hnone⟩ := (mem_escape_iff_of_not_isLegal hlegal text).1 hc
    exact h c hmem hnone
  · rw [unescape?_escape_eq, Option.some.injEq]
    constructor
    · intro h c hc hnone
      -- the noncharacter is among what is read back, but not among what is legal
      have hmem : c ∈ text.filter fun c => IsLegal c ∨ c ∈ noncharacters :=
        List.mem_filter.2 ⟨hc, decide_eq_true (.inr hnone)⟩
      rw [h] at hmem
      exact not_isLegal_of_mem_noncharacters hnone (of_decide_eq_true (List.mem_filter.1 hmem).2)
    · intro h
      refine List.filter_congr fun c hc => decide_eq_decide.2 ?_
      exact or_iff_left (h c hc)

/-- A noncharacter stays in an escaped text, which is not legal then. -/
theorem not_isLegal_escape_noncharacter : escape ['a', '\uFFFE'] = ['a', '\uFFFE'] ∧
    ¬ IsLegal '\uFFFE' ∧ unescape? (escape ['a', '\uFFFE']) ≠ some (['a', '\uFFFE'].filter fun c => IsLegal c) := by
  decide

end SlideDeck.Xml
