import Mathlib.Data.Set.Card
import Mathlib.Data.Set.Finite.Lattice
import Mathlib.Order.Bounds.Defs
import SlideDeck.Proofs.Package.Naming
import SlideDeck.Proofs.Package.Parts

/-!
# The search for a free number

`search` tries the numbers of a stem one after the other, without a bound. It ends because a name takes one
number of a stem at most (`finite_isTaken`), so that among as many numbers as there are names and one more
there is a free one. The first of these is the number of the part name that is given out
(`nextPartName_least_and_fresh`).
-/

namespace SlideDeck

namespace PartName

variable {names : List String} {stem : String}

/-- Whether a name takes a number of a stem: it starts with the stem, the number and a dot. -/
def Takes (stem name : String) (n : Nat) : Prop := (stem ++ toString n ++ ".").toList <+: name.toList

/-- A number counts as taken if some name takes it. -/
theorem isTaken_eq_true_iff {n : Nat} :
    isTaken names stem n = true ↔ ∃ name ∈ names, Takes stem name n := by
  simp only [isTaken, List.any_eq_true, List.isPrefixOf_iff_prefix, Takes]

/-- It is free if no name takes it. -/
theorem isTaken_eq_false_iff {n : Nat} :
    isTaken names stem n = false ↔ ∀ name ∈ names, ¬ Takes stem name n := by
  simp only [isTaken, List.any_eq_false, List.isPrefixOf_iff_prefix, Takes]

/-- A name takes one number at most. -/
theorem Takes.unique {name : String} {m n : Nat} (hm : Takes stem name m) (hn : Takes stem name n) :
    m = n :=
  number_unique (List.isPrefixOf_iff_prefix.2 hm) (List.isPrefixOf_iff_prefix.2 hn)

/-! ## The least number -/

/-- One of the first numbers is free, so that the number is found among these. -/
theorem find?_eq_freeNumber (names : List String) (stem : String) :
    (List.range' 1 (names.length + 1)).find? (!isTaken names stem ·) = some (freeNumber names stem) := by
  have hfree := isTaken_freeNumber names stem
  cases hfind : (List.range' 1 (names.length + 1)).find? (!isTaken names stem ·) with
  | some n => rw [freeNumber, hfind, Option.getD_some]
  | none =>
    have hlast : freeNumber names stem = names.length + 1 := by
      rw [freeNumber, hfind, Option.getD_none]
    have hmem : names.length + 1 ∈ List.range' 1 (names.length + 1) := by
      rw [List.mem_range'_1]
      omega
    have htaken := List.find?_eq_none.1 hfind _ hmem
    rw [← hlast, hfree] at htaken
    exact absurd rfl htaken

/-- The number that is given out is positive, and one more than there are names at most. -/
theorem freeNumber_bounds (names : List String) (stem : String) :
    1 ≤ freeNumber names stem ∧ freeNumber names stem ≤ names.length + 1 := by
  have hmem := List.mem_of_find?_eq_some (find?_eq_freeNumber names stem)
  rw [List.mem_range'_1] at hmem
  omega

/-- All positive numbers below it are taken. -/
theorem isTaken_of_lt_freeNumber {n : Nat} (hpos : 1 ≤ n) (h : n < freeNumber names stem) :
    isTaken names stem n = true := by
  obtain ⟨-, -, hbefore⟩ := List.find?_range'_eq_some.1 (find?_eq_freeNumber names stem)
  simpa using hbefore n hpos h

/-- It is the least positive number that is free. -/
theorem isLeast_freeNumber (names : List String) (stem : String) :
    IsLeast {n | 1 ≤ n ∧ ∀ name ∈ names, ¬ Takes stem name n} (freeNumber names stem) := by
  refine ⟨⟨(freeNumber_bounds names stem).1, ?_⟩, fun n hn => ?_⟩
  · exact isTaken_eq_false_iff.1 (isTaken_freeNumber names stem)
  · by_contra hlt
    have htaken := isTaken_of_lt_freeNumber hn.1 (Nat.lt_of_not_le hlt)
    rw [isTaken_eq_false_iff.2 hn.2] at htaken
    cases htaken

/-! ## The search -/

/-- Every name takes one number at most, so that finitely many numbers are taken. -/
theorem finite_isTaken (names : List String) (stem : String) :
    {n | isTaken names stem n = true}.Finite := by
  have hnames : (⋃ name ∈ {name | name ∈ names}, {n | Takes stem name n}).Finite :=
    Set.Finite.biUnion (List.finite_toSet names) fun name _ =>
      Set.Subsingleton.finite fun _ hm _ hn => Takes.unique hm hn
  refine hnames.subset fun n hn => ?_
  obtain ⟨name, hmem, htakes⟩ := isTaken_eq_true_iff.1 hn
  exact Set.mem_biUnion hmem htakes

/-- Behind a number that is taken fewer numbers are taken than from it on. -/
theorem ncard_isTaken_lt {n : Nat} (h : isTaken names stem n = true) :
    {m | n + 1 ≤ m ∧ isTaken names stem m = true}.ncard < {m | n ≤ m ∧ isTaken names stem m = true}.ncard := by
  have hfinite : {m | n ≤ m ∧ isTaken names stem m = true}.Finite :=
    (finite_isTaken names stem).subset fun _ hm => hm.2
  refine Set.ncard_lt_ncard ⟨fun m hm => ⟨Nat.le_of_succ_le hm.1, hm.2⟩, fun hsubset => ?_⟩ hfinite
  exact Nat.not_succ_le_self n (hsubset ⟨Nat.le_refl n, h⟩).1

/-- The first number from `n` on that no name takes, by trying one after the other. -/
def search (names : List String) (stem : String) (n : Nat) : Nat :=
  if isTaken names stem n then search names stem (n + 1) else n
termination_by {m | n ≤ m ∧ isTaken names stem m = true}.ncard
decreasing_by exact ncard_isTaken_lt ‹_›

/-- The search goes past numbers that are taken, by induction on how many there are. -/
theorem search_add {n k : Nat} (h : ∀ j < k, isTaken names stem (n + j) = true) :
    search names stem n = search names stem (n + k) := by
  induction k with
  | zero => rfl
  | succ k ih =>
    rw [ih fun j hj => h j (Nat.lt_succ_of_lt hj), search, if_pos (h k (Nat.lt_succ_self k)), Nat.add_assoc]

/-- The search ends at the least number. -/
theorem search_eq_freeNumber (names : List String) (stem : String) :
    search names stem 1 = freeNumber names stem := by
  obtain ⟨k, hk⟩ := Nat.exists_eq_add_of_le (freeNumber_bounds names stem).1
  have htaken : ∀ j < k, isTaken names stem (1 + j) = true := fun j hj =>
    isTaken_of_lt_freeNumber (Nat.le_add_right 1 j) (by omega)
  have hfree := isTaken_freeNumber names stem
  rw [search_add htaken, ← hk, search, hfree, if_neg Bool.false_ne_true]

end PartName

namespace Package

/-- The name that is given out has the least positive number that no part takes, whatever its extension. The
search for that number ends, at the latest behind as many numbers as there are parts, because no part takes
two numbers. So the name is new, and it would be so with every other extension. -/
theorem nextPartName_least_and_fresh (package : Package) (stem extension : String) :
    ∃ n, package.nextPartName stem extension = stem ++ toString n ++ "." ++ extension ∧
      IsLeast {m | 1 ≤ m ∧ ∀ name ∈ package.names, ¬ PartName.Takes stem name m} n ∧
      PartName.search package.names stem 1 = n ∧ n ≤ package.parts.length + 1 ∧
      (∀ name m m', PartName.Takes stem name m → PartName.Takes stem name m' → m = m') ∧
      package.contains (package.nextPartName stem extension) = false ∧
      ∀ other, package.contains (stem ++ toString n ++ "." ++ other) = false := by
  have hbound := (PartName.freeNumber_bounds package.names stem).2
  rw [names, List.length_map] at hbound
  have hnew : ∀ other, package.contains (PartName.next package.names stem other) = false := fun other => by
    rw [← Bool.not_eq_true, contains_eq_true_iff]
    exact PartName.next_not_mem package.names stem other
  exact ⟨PartName.freeNumber package.names stem, rfl, PartName.isLeast_freeNumber package.names stem,
    PartName.search_eq_freeNumber package.names stem, hbound, fun _ _ _ => PartName.Takes.unique,
    hnew extension, hnew⟩

end Package

end SlideDeck
