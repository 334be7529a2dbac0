import SlideDeck.Presentation.Deck
import SlideDeck.Proofs.Number.Vacancy
import SlideDeck.Proofs.Package.Carried

/-!
# Numbers given out in a presentation

The id for a new relationship is that of no relationship, and the number for the first added slide is
above all numbers that are taken.
-/

namespace SlideDeck.Deck

/-! ## Numbers of slides -/

/-- Whether there are so many numbers of 32 bits behind those that are taken, from 256 on. -/
def IdsFit (taken : List UInt32) (count : Nat) : Prop :=
  256 + count ≤ 2 ^ 32 ∧ ∀ id ∈ taken, id.toNat + count < 2 ^ 32

/-- The greatest of some numbers is bounded as all of them are. -/
theorem toNat_foldl_max_le_iff (taken : List UInt32) (start : UInt32) (bound : Nat) :
    (taken.foldl max start).toNat ≤ bound ↔
      start.toNat ≤ bound ∧ ∀ id ∈ taken, id.toNat ≤ bound := by
  induction taken generalizing start with
  | nil => simp
  | cons first taken ih =>
    rw [List.foldl_cons, ih, UInt32.toNat_max, Nat.max_le, List.forall_mem_cons, and_assoc]

/-- No number below the least one is given to a slide, even if the numbers wrap around. -/
theorem minId_le_firstId (taken : List UInt32) : minId.toNat ≤ (firstId taken).toNat := by
  rw [firstId, UInt32.toNat_max]
  exact Nat.le_max_left _ _

/-- The first number is the least that is from 256 on and above all that are taken, if there is one. -/
theorem toNat_firstId_le_iff {taken : List UInt32} (hfit : ∀ id ∈ taken, id.toNat + 1 < 2 ^ 32)
    (bound : Nat) : (firstId taken).toNat ≤ bound ↔
      256 ≤ bound ∧ ∀ id ∈ taken, id.toNat < bound := by
  -- the number behind the greatest does not wrap around
  have hgreatest : (taken.foldl max 0).toNat ≤ 2 ^ 32 - 2 := by
    rw [toNat_foldl_max_le_iff]
    refine ⟨Nat.zero_le _, fun id hid => ?_⟩
    have hbelow := hfit id hid
    omega
  have hnext : (taken.foldl max 0 + 1).toNat = (taken.foldl max 0).toNat + 1 := by
    rw [UInt32.toNat_add]
    exact Nat.mod_eq_of_lt (Nat.lt_of_le_of_lt (Nat.succ_le_succ hgreatest) (by decide))
  rw [firstId, UInt32.toNat_max, Nat.max_le, hnext]
  refine and_congr_right fun hleast => ?_
  cases bound with
  | zero => exact absurd hleast (by decide)
  | succ bound =>
    rw [Nat.succ_le_succ_iff, toNat_foldl_max_le_iff]
    exact (and_iff_right (Nat.zero_le _)).trans (by simp only [Nat.lt_succ_iff])

/-- The first number is above all that are taken. -/
theorem lt_firstId {taken : List UInt32} (hfit : ∀ id ∈ taken, id.toNat + 1 < 2 ^ 32) {id : UInt32}
    (h : id ∈ taken) : id.toNat < (firstId taken).toNat :=
  ((toNat_firstId_le_iff hfit _).1 (Nat.le_refl _)).2 id h

/-- If there are enough numbers, those from the first on do not wrap around. -/
theorem IdsFit.firstId_add_le {taken : List UInt32} {count : Nat} (h : IdsFit taken count) :
    (firstId taken).toNat + count ≤ 2 ^ 32 := by
  cases count with
  | zero => exact Nat.le_of_lt (firstId taken).toNat_lt
  | succ count =>
    have hfirst := (toNat_firstId_le_iff (fun id hid => by have := h.2 id hid; omega)
      (2 ^ 32 - (count + 1))).2 ⟨by have := h.1; omega, fun id hid => by have := h.2 id hid; omega⟩
    have hcount := h.1
    omega

/-! ## Ids of relationships -/

/-- The next id is a numbered one that no relationship has. -/
theorem exists_nextRelationshipId_eq (relationships : List Relationship) :
    ∃ n : Nat, nextRelationshipId relationships = "rId" ++ toString n ∧
      ∀ r ∈ relationships, r.id ≠ "rId" ++ toString n := by
  have hunique : ∀ r ∈ relationships, ∀ m n : Nat,
      r.id = "rId" ++ toString m → r.id = "rId" ++ toString n → m = n := by
    intro r _ m n hm hn
    have heq := congrArg String.toList (hm.symm.trans hn)
    rw [String.toList_append, String.toList_append] at heq
    exact Number.toString_injective (String.toList_injective (List.append_cancel_left heq))
  obtain ⟨start, hstart⟩ : ∃ start : Nat, nextRelationshipId relationships
      = "rId" ++ toString (start + (((List.range (relationships.length + 1)).find? fun k =>
        !relationships.any (·.id == "rId" ++ toString (start + k))).getD 0)) := ⟨_, rfl⟩
  -- the first of the numbers that no relationship has is found
  obtain ⟨k, hk, hfree⟩ := Number.exists_vacancy relationships hunique start
  rw [hstart]
  match hfind : (List.range (relationships.length + 1)).find? fun k =>
      !relationships.any (·.id == "rId" ++ toString (start + k)) with
  | some found =>
    refine ⟨start + found, rfl, fun r hr heq => ?_⟩
    have hany := List.find?_some hfind
    rw [Bool.not_eq_true', List.any_eq_false] at hany
    exact hany r hr (beq_iff_eq.2 heq)
  | none =>
    have hany := List.find?_eq_none.1 hfind k (List.mem_range.2 hk)
    rw [Bool.not_eq_true', Bool.not_eq_false, List.any_eq_true] at hany
    obtain ⟨r, hr, heq⟩ := hany
    exact absurd (beq_iff_eq.1 heq) (hfree r hr)

/-- The id for a new relationship is new. -/
theorem ne_nextRelationshipId {relationships : List Relationship} {r : Relationship}
    (h : r ∈ relationships) : r.id ≠ nextRelationshipId relationships := by
  obtain ⟨n, heq, hfree⟩ := exists_nextRelationshipId_eq relationships
  rw [heq]
  exact hfree r h

/-- It is carried whole. -/
theorem isCarried_nextRelationshipId (relationships : List Relationship) :
    Xml.IsCarried (nextRelationshipId relationships) := by
  obtain ⟨n, heq, -⟩ := exists_nextRelationshipId_eq relationships
  rw [heq]
  exact Xml.IsCarried.append (by decide) (Xml.isCarried_toString n)

end SlideDeck.Deck
