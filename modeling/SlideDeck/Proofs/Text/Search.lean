import SlideDeck.Text.Find

/-!
# Where a pattern is found

`cutFirst` goes past a text in which no occurrence of its pattern starts (`cutFirst_append`), and
`cutLast` finds a pattern at the end of a text (`cutLast_append_self`). That nothing starts in a fixed
text, whatever follows it, is decided by `clears`.
-/

namespace SlideDeck.Text

/-- No occurrence of a pattern starts within the first of two texts that follow each other. -/
def Passes (pattern : List Char) : List Char → List Char → Prop
  | [], _ => True
  | c :: before, after =>
    dropStart? pattern (c :: before ++ after) = none ∧ Passes pattern before after

/-- A search goes past what does not hold the pattern. -/
theorem cutFirst_append {pattern before after : List Char} (h : Passes pattern before after) :
    cutFirst pattern (before ++ after)
      = (cutFirst pattern after).map fun (left, right) => (before ++ left, right) := by
  induction before with
  | nil => simp
  | cons c before ih =>
    obtain ⟨hstart, hrest⟩ := h
    have hcut := ih hrest
    rw [List.cons_append] at hstart
    rw [List.cons_append, cutFirst, hstart]
    simp only [hcut, Option.map_map]
    rfl

/-- It goes past two texts if it goes past each in front of what follows. -/
theorem Passes.append {pattern first second after : List Char}
    (hfirst : Passes pattern first (second ++ after)) (hsecond : Passes pattern second after) :
    Passes pattern (first ++ second) after := by
  induction first with
  | nil => exact hsecond
  | cons c first ih =>
    obtain ⟨hstart, hrest⟩ := hfirst
    exact ⟨by simpa using hstart, ih hrest⟩

/-- A pattern starts nowhere in a text without its first character. -/
theorem passes_of_not_mem {c : Char} {pattern before : List Char} (h : c ∉ before)
    (after : List Char) : Passes (c :: pattern) before after := by
  induction before with
  | nil => trivial
  | cons d before ih =>
    rw [List.mem_cons, not_or] at h
    obtain ⟨hd, hbefore⟩ := h
    exact ⟨by rw [List.cons_append, dropStart?, if_neg hd], ih hbefore⟩

/-! ## Fixed texts -/

/-- Whether two texts are the same as far as both of them go. -/
def agree : List Char → List Char → Bool
  | a :: left, b :: right => a == b && agree left right
  | _, _ => true

/-- Whether the pattern differs from the text at each of its places before either of them ends. -/
def clears (pattern : List Char) : List Char → Bool
  | [] => true
  | c :: text => !agree pattern (c :: text) && clears pattern text

/-- A text that disagrees with the pattern does not begin with it, whatever follows. -/
theorem dropStart?_of_not_agree {pattern text : List Char} (h : agree pattern text = false)
    (after : List Char) : dropStart? pattern (text ++ after) = none := by
  induction pattern generalizing text with
  | nil => simp [agree] at h
  | cons p pattern ih =>
    cases text with
    | nil => simp [agree] at h
    | cons c text =>
      rw [List.cons_append, dropStart?]
      split
      · next hpc =>
        subst hpc
        exact ih (by simpa [agree] using h)
      · rfl

/-- A text that disagrees with the pattern at every place is gone past. -/
theorem passes_of_clears {pattern before : List Char} (h : clears pattern before = true)
    (after : List Char) : Passes pattern before after := by
  induction before with
  | nil => trivial
  | cons c before ih =>
    rw [clears, Bool.and_eq_true, Bool.not_eq_true'] at h
    exact ⟨dropStart?_of_not_agree h.1 after, ih h.2⟩

/-! ## The pattern itself -/

/-- Behind the pattern is what was put behind it. -/
theorem dropStart?_append (pattern text : List Char) : dropStart? pattern (pattern ++ text) = some text :=
  dropStart?_eq_some_iff.2 rfl

/-- The first occurrence of a pattern that follows a text in which none starts. -/
theorem cutFirst_found {pattern before after : List Char} (hne : pattern ≠ [])
    (h : Passes pattern before (pattern ++ after)) :
    cutFirst pattern (before ++ (pattern ++ after)) = some (before, after) := by
  -- the pattern is found at once where it stands
  have hhere : cutFirst pattern (pattern ++ after) = some ([], after) := by
    obtain ⟨p, rest, rfl⟩ := List.exists_cons_of_ne_nil hne
    have hstart := dropStart?_append (p :: rest) after
    rw [List.cons_append] at hstart ⊢
    rw [cutFirst, hstart]
  rw [cutFirst_append h, hhere]
  simp

/-- Whether a pattern stands at the start of a text that is long enough does not depend on what follows. -/
theorem dropStart?_eq_none_of_append {pattern text first : List Char}
    (hlength : pattern.length ≤ text.length) (h : dropStart? pattern (text ++ first) = none)
    (second : List Char) : dropStart? pattern (text ++ second) = none := by
  cases hsecond : dropStart? pattern (text ++ second) with
  | none => rfl
  | some rest =>
    obtain ⟨more, rfl⟩ := List.prefix_of_prefix_length_le ⟨rest, (dropStart?_eq_some_iff.1 hsecond).symm⟩
      ⟨second, rfl⟩ hlength
    rw [List.append_assoc, dropStart?_append] at h
    cases h

/-- No occurrence of a pattern starts in front of the first one, whatever follows that. -/
theorem passes_of_cutFirst {pattern before after : List Char}
    (h : cutFirst pattern (before ++ (pattern ++ after)) = some (before, after)) (other : List Char) :
    Passes pattern before (pattern ++ other) := by
  induction before with
  | nil => trivial
  | cons c before ih =>
    rw [List.cons_append, cutFirst] at h
    split at h
    · cases h
    · next hstart =>
      obtain ⟨⟨a, b⟩, hcut, heq⟩ := Option.map_eq_some_iff.1 h
      obtain ⟨ha, rfl⟩ := Prod.mk.inj heq
      obtain ⟨-, rfl⟩ := List.cons.inj ha
      rw [← List.append_assoc, ← List.cons_append] at hstart
      have hlength : pattern.length ≤ (c :: (a ++ pattern)).length := by
        simp only [List.length_cons, List.length_append]
        omega
      have hnone := dropStart?_eq_none_of_append hlength hstart other
      exact ⟨by simpa using hnone, ih hcut⟩

/-- The last occurrence of a pattern with which a text ends. -/
theorem cutLast_append_self {pattern : List Char} (hne : pattern ≠ []) (before : List Char) :
    cutLast pattern (before ++ pattern) = some (before, []) := by
  induction before with
  | nil =>
    obtain ⟨p, rest, rfl⟩ := List.exists_cons_of_ne_nil hne
    -- the pattern does not fit into what follows its first character
    have hrest : cutLast (p :: rest) rest = none := by
      match hcut : cutLast (p :: rest) rest with
      | none => rfl
      | some (left, right) =>
        have hlength := congrArg List.length (eq_of_cutLast hcut)
        simp only [List.length_append, List.length_cons] at hlength
        omega
    have hstart := dropStart?_append (p :: rest) []
    rw [List.append_nil] at hstart
    rw [List.nil_append, cutLast, hrest, hstart]
    rfl
  | cons c before ih => rw [List.cons_append, cutLast, ih]

end SlideDeck.Text
