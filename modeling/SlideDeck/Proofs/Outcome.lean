import Mathlib.Data.List.Forall2

/-!
# Computations that succeed

A computation that is made of steps succeeds only if each of them does, and steps for the elements of a
list give results that go with them one by one.
-/

namespace SlideDeck

/-- Steps that have succeeded in turn have each succeeded. -/
theorem exists_of_bind_eq_ok {ε α β : Type} {first : Except ε α} {next : α → Except ε β} {b : β}
    (h : first >>= next = .ok b) : ∃ a, first = .ok a ∧ next a = .ok b := by
  cases first with
  | ok a => exact ⟨a, rfl, h⟩
  | error fault => cases h

theorem ok_bind {ε α β : Type} (a : α) (next : α → Except ε β) :
    (Except.ok a >>= next) = next a := rfl

/-- A computation fails where its first step fails, or else where the next one does. -/
theorem error_of_bind_eq_error {ε α β : Type} {first : Except ε α} {next : α → Except ε β} {fault : ε}
    (h : first >>= next = .error fault) :
    first = .error fault ∨ ∃ a, first = .ok a ∧ next a = .error fault := by
  cases first with
  | ok a => exact .inr ⟨a, rfl, h⟩
  | error other => exact .inl (congrArg Except.error (Except.error.inj h))

/-- A value that was mapped comes from a value. -/
theorem map_eq_ok_iff {ε α β : Type} {result : Except ε α} {f : α → β} {b : β} :
    result.map f = .ok b ↔ ∃ a, result = .ok a ∧ f a = b := by
  cases result <;> simp [Except.map]

/-- Mapping a value leaves a fault as it is. -/
theorem map_eq_error_iff {ε α β : Type} {result : Except ε α} {f : α → β} {fault : ε} :
    result.map f = .error fault ↔ result = .error fault := by
  cases result <;> simp [Except.map]

/-- A list of results has the result of each step in order. -/
theorem forall₂_of_mapM_eq_ok {ε α β : Type} {step : α → Except ε β} {list : List α} {results : List β}
    (h : list.mapM step = .ok results) :
    List.Forall₂ (fun a b => step a = .ok b) list results := by
  induction list generalizing results with
  | nil =>
    obtain rfl : [] = results := Except.ok.inj h
    exact .nil
  | cons a list ih =>
    rw [List.mapM_cons] at h
    obtain ⟨b, hb, h⟩ := exists_of_bind_eq_ok h
    obtain ⟨rest, hrest, h⟩ := exists_of_bind_eq_ok h
    obtain rfl : b :: rest = results := Except.ok.inj h
    exact .cons hb (ih hrest)

/-- Conversely, results of all steps make a list of results. -/
theorem mapM_eq_ok_of_forall₂ {ε α β : Type} {step : α → Except ε β} {list : List α} {results : List β}
    (h : List.Forall₂ (fun a b => step a = .ok b) list results) : list.mapM step = .ok results := by
  induction h with
  | nil => rfl
  | cons hab _ ih =>
    rw [List.mapM_cons, hab, ok_bind, ih]
    rfl

/-- What is in the left list has a partner in the right one. -/
theorem exists_of_mem_forall₂ {α β : Type} {R : α → β → Prop} {left : List α} {right : List β}
    (h : List.Forall₂ R left right) {a : α} (ha : a ∈ left) : ∃ b ∈ right, R a b := by
  induction h with
  | nil => cases ha
  | cons hab _ ih =>
    rcases List.mem_cons.1 ha with rfl | ha
    · exact ⟨_, List.mem_cons_self, hab⟩
    · obtain ⟨b, hb, hR⟩ := ih ha
      exact ⟨b, List.mem_cons_of_mem _ hb, hR⟩

/-- A relation between lists may use that its left side is in the left list. -/
theorem forall₂_imp_of_mem {α β : Type} {R S : α → β → Prop} {left : List α} {right : List β}
    (h : List.Forall₂ R left right) (himp : ∀ a ∈ left, ∀ b, R a b → S a b) :
    List.Forall₂ S left right := by
  induction h with
  | nil => exact .nil
  | cons hab _ ih =>
    refine .cons (himp _ List.mem_cons_self _ hab) (ih fun a ha => ?_)
    exact himp a (List.mem_cons_of_mem _ ha)

end SlideDeck
