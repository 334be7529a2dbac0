import Mathlib.Data.List.Nodup
import Mathlib.Data.List.Perm.Subperm

/-!
# A number that is free

If each of some things takes at most one number, then among the numbers in a row of which there is one
more than there are things, one is taken by none of them.
-/

namespace SlideDeck.Number

/-- Things that take at most one number each leave one free among one more of them. -/
theorem exists_vacancy {α : Type} {takes : α → Nat → Prop} (things : List α)
    (unique : ∀ a ∈ things, ∀ m n, takes a m → takes a n → m = n) (start : Nat) :
    ∃ k < things.length + 1, ∀ a ∈ things, ¬ takes a (start + k) := by
  by_contra hnone
  push Not at hnone
  obtain ⟨first, -, -⟩ := hnone 0 (Nat.succ_pos _)
  have : Nonempty α := ⟨first⟩
  choose! taker hmem htakes using hnone
  -- the things that take the numbers are as many as the numbers, since none takes two
  have hnodup : ((List.range (things.length + 1)).map taker).Nodup := by
    refine List.Nodup.map_on (fun j hj k hk heq => ?_) List.nodup_range
    rw [List.mem_range] at hj hk
    have hsame := unique _ (hmem j hj) _ _ (htakes j hj) (heq ▸ htakes k hk)
    omega
  have hsubset : (List.range (things.length + 1)).map taker ⊆ things := by
    intro a ha
    obtain ⟨k, hk, rfl⟩ := List.mem_map.1 ha
    exact hmem k (List.mem_range.1 hk)
  have hlength := (hnodup.subperm hsubset).length_le
  rw [List.length_map, List.length_range] at hlength
  omega

end SlideDeck.Number
