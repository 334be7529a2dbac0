/-!
# Tables in ascending order of their keys

A table is a list of keys with their values in strictly ascending order of the keys, so that equal
tables are equal lists. `Ascending.insert` is a single pass that replaces the value of a key that is
there; its look-up lemmas need no hypothesis on the order, and `insert_sorted` keeps the order.
-/

namespace SlideDeck.Ascending

variable {ν : Type}

/-- The value of a key. -/
def find? (key : String) : List (String × ν) → Option ν
  | [] => none
  | (k, v) :: rest => if k = key then some v else find? key rest

/-- The table with `value` for `key`, whether the key was there or not. -/
def insert (key : String) (value : ν) : List (String × ν) → List (String × ν)
  | [] => [(key, value)]
  | (k, v) :: rest =>
    if key < k then (key, value) :: (k, v) :: rest
    else if k = key then (key, value) :: rest
    else (k, v) :: insert key value rest

/-- The table of a list of entries; of two entries with one key the later counts. -/
def ofList (entries : List (String × ν)) : List (String × ν) :=
  entries.foldl (fun table entry => insert entry.1 entry.2 table) []

/-- The keys are in strictly ascending order. -/
def Sorted (table : List (String × ν)) : Prop := table.Pairwise fun a b => a.1 < b.1

/-- A key is found with the value that was inserted for it. -/
@[simp] theorem find?_insert_self (key : String) (value : ν) (table : List (String × ν)) :
    find? key (insert key value table) = some value := by
  induction table with
  | nil => simp [insert, find?]
  | cons entry rest ih =>
    obtain ⟨k, v⟩ := entry
    rw [insert]
    split
    · simp [find?]
    · split
      · simp [find?]
      · simp [find?, *]

/-- Inserting changes nothing about other keys. -/
theorem find?_insert_of_ne {key other : String} (h : other ≠ key) (value : ν)
    (table : List (String × ν)) : find? other (insert key value table) = find? other table := by
  induction table with
  | nil => simp [insert, find?, Ne.symm h]
  | cons entry rest ih =>
    obtain ⟨k, v⟩ := entry
    rw [insert]
    split
    · simp [find?, Ne.symm h]
    · split
      · next hk =>
        subst hk
        simp [find?, Ne.symm h]
      · simp [find?, ih]

/-- What is in the table afterwards was inserted or was there before. -/
theorem mem_insert {key : String} {value : ν} {entry : String × ν} {table : List (String × ν)}
    (h : entry ∈ insert key value table) : entry = (key, value) ∨ entry ∈ table := by
  induction table with
  | nil => simpa [insert] using h
  | cons first rest ih =>
    obtain ⟨k, v⟩ := first
    rw [insert] at h
    split at h
    · simpa using h
    · split at h
      · rcases List.mem_cons.1 h with h | h
        · exact .inl h
        · exact .inr (List.mem_cons_of_mem _ h)
      · rcases List.mem_cons.1 h with h | h
        · exact .inr (h ▸ List.mem_cons_self)
        · exact (ih h).imp_right (List.mem_cons_of_mem _)

/-- Inserting keeps the keys in order. -/
theorem insert_sorted (key : String) (value : ν) {table : List (String × ν)} (h : Sorted table) :
    Sorted (insert key value table) := by
  induction table with
  | nil => simp [insert, Sorted]
  | cons first rest ih =>
    obtain ⟨k, v⟩ := first
    obtain ⟨hfirst, hrest⟩ := List.pairwise_cons.1 h
    rw [insert]
    split
    · next hlt =>
      refine List.pairwise_cons.2 ⟨fun entry he => ?_, h⟩
      rcases List.mem_cons.1 he with rfl | he
      · exact hlt
      · exact String.lt_trans hlt (hfirst entry he)
    · next hnlt =>
      split
      · next heq =>
        subst heq
        exact List.pairwise_cons.2 ⟨hfirst, hrest⟩
      · next hne =>
        refine List.pairwise_cons.2 ⟨fun entry he => ?_, ih hrest⟩
        rcases mem_insert he with rfl | he
        · have hle : k ≤ key := String.not_lt.1 hnlt
          rcases Decidable.em (k < key) with hlt | hnlt'
          · exact hlt
          · exact absurd (String.le_antisymm hle (String.not_lt.1 hnlt')) hne
        · exact hfirst entry he

end SlideDeck.Ascending
