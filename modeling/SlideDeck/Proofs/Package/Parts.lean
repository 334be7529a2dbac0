import Mathlib.Data.List.Basic
import SlideDeck.Package.Basic

/-!
# The parts of a package

Inserting a part changes that part alone. A package whose names could be the names of files is read back
from the entries of its archive (`ofEntries_toEntries`).
-/

namespace SlideDeck

namespace Ascending

variable {ν : Type}

/-- A key is found if it is one of the table's. -/
theorem find?_isSome_iff {key : String} {table : List (String × ν)} :
    (find? key table).isSome = true ↔ key ∈ table.map (·.1) := by
  induction table with
  | nil => simp [find?]
  | cons entry rest ih =>
    obtain ⟨k, v⟩ := entry
    by_cases hk : k = key
    · simp [find?, hk]
    · simp [find?, hk, Ne.symm hk, ih]

/-- A new key is put somewhere into the table. -/
theorem insert_perm {key : String} {table : List (String × ν)} (h : key ∉ table.map (·.1))
    (value : ν) : (insert key value table).Perm ((key, value) :: table) := by
  induction table with
  | nil => simp [insert]
  | cons entry rest ih =>
    obtain ⟨k, v⟩ := entry
    rw [List.map_cons, List.mem_cons, not_or] at h
    rw [insert]
    split
    · exact List.Perm.refl _
    · rw [if_neg (Ne.symm h.1)]
      exact ((ih h.2).cons (k, v)).trans (List.Perm.swap _ _ _)

/-- Tables in ascending order with the same entries are the same. -/
theorem Sorted.eq_of_perm {a b : List (String × ν)} (ha : Sorted a) (hb : Sorted b) (h : a.Perm b) :
    a = b :=
  h.eq_of_pairwise (fun _ _ _ _ hab hba => absurd (String.lt_trans hab hba) (String.lt_irrefl _)) ha hb

/-- Keys in ascending order are different. -/
theorem Sorted.nodup_keys {table : List (String × ν)} (h : Sorted table) :
    (table.map (·.1)).Nodup := by
  rw [List.Nodup, List.pairwise_map]
  refine h.imp fun {a b} hab heq => ?_
  rw [heq] at hab
  exact String.lt_irrefl _ hab

end Ascending

namespace Package

/-- A package is decided by its parts. -/
theorem eq_of_parts {a b : Package} (h : a.parts = b.parts) : a = b := by
  cases a
  cases b
  cases h
  rfl

/-- A package contains the parts whose names it has. -/
theorem contains_eq_true_iff {package : Package} {name : String} :
    package.contains name = true ↔ name ∈ package.names :=
  Ascending.find?_isSome_iff

/-- A part with contents is contained. -/
theorem contains_of_get? {package : Package} {name : String} {contents : File.Contents}
    (h : package.get? name = some contents) : package.contains name = true := by
  rw [contains, h, Option.isSome_some]

/-- No name is that of two parts. -/
theorem nodup_names (package : Package) : package.names.Nodup := package.sorted.nodup_keys

/-- A part of a package is found under its name. -/
theorem get?_eq_some_of_mem {package : Package} {name : String} {contents : File.Contents}
    (h : (name, contents) ∈ package.parts) : package.get? name = some contents := by
  have hnodup := package.nodup_names
  rw [names] at hnodup
  rw [get?]
  generalize package.parts = parts at h hnodup
  induction parts with
  | nil => cases h
  | cons entry parts ih =>
    obtain ⟨key, value⟩ := entry
    rw [List.map_cons, List.nodup_cons] at hnodup
    rw [Ascending.find?]
    rcases List.mem_cons.1 h with heq | h
    · obtain ⟨rfl, rfl⟩ := Prod.mk.inj heq
      exact if_pos rfl
    · have hne : key ≠ name := fun heq => hnodup.1 (heq ▸ List.mem_map.2 ⟨_, h, rfl⟩)
      rw [if_neg hne]
      exact ih h hnodup.2

/-- The names after an insertion are those before it and the new one. -/
theorem mem_names_insert {package : Package} {name other : String} {contents : File.Contents} :
    other ∈ (package.insert name contents).names ↔ other = name ∨ other ∈ package.names := by
  rw [← contains_eq_true_iff, ← contains_eq_true_iff, contains, contains]
  by_cases h : other = name
  · subst h
    simp
  · rw [get?_insert_of_ne package h]
    simp [h]

/-- A text that was inserted is found. -/
@[simp]
theorem get?_insertText_self (package : Package) (name text : String) :
    (package.insertText name text).get? name = some (.text text) :=
  package.get?_insert_self name (.text text)

/-- Inserting a text changes no other part. -/
theorem get?_insertText_of_ne (package : Package) {name other : String} (h : other ≠ name)
    (text : String) : (package.insertText name text).get? other = package.get? other :=
  package.get?_insert_of_ne h (.text text)

/-- A text brings its name along. -/
theorem mem_names_insertText {package : Package} {name other text : String} :
    other ∈ (package.insertText name text).names ↔ other = name ∨ other ∈ package.names :=
  mem_names_insert

/-- A part that is a text is read as it. -/
theorem text_eq_ok {package : Package} {name text : String}
    (h : package.get? name = some (.text text)) : package.text name = .ok text := by
  simp [Package.text, h, File.Contents.utf8?]

/-- The text of a part depends on that part alone. -/
theorem text_congr {first second : Package} {name : String} (h : first.get? name = second.get? name) :
    first.text name = second.text name := by
  rw [text, text, h]

/-- The relationships of a part depend on the part that lists them alone. -/
theorem relationships_congr {first second : Package} {part : String}
    (h : first.get? (PartName.relationshipsPart part) = second.get? (PartName.relationshipsPart part)) :
    first.relationships part = second.relationships part := by
  unfold Package.relationships contains
  dsimp only
  rw [h, text_congr h]

/-- A part with a text is there. -/
theorem mem_names_of_text_eq_ok {package : Package} {name text : String}
    (h : package.text name = .ok text) : name ∈ package.names := by
  rw [Package.text] at h
  cases hget : package.get? name with
  | none =>
    rw [hget] at h
    cases h
  | some contents => exact contains_eq_true_iff.1 (contains_of_get? hget)

/-- The relationships of a part whose listing was written by the library. -/
theorem relationships_eq_ok {package : Package} {part : String} {relationships : List Relationship}
    {xml : String} (h : package.get? (PartName.relationshipsPart part) = some (.text xml))
    (hxml : Relationship.ofXml xml = .ok relationships) :
    package.relationships part = .ok relationships := by
  rw [Package.relationships]
  simp only [contains_of_get? h, ite_true, text_eq_ok h, bind, Except.bind, hxml]

/-! ## Archives -/

/-- Whether a name could be that of a file in an archive: it neither starts nor ends like that of a
folder. -/
def IsFileName (name : String) : Prop := Archive.isFolder name = false ∧ entryName name = name

/-- Inserting entries with new names into a package adds exactly these. -/
theorem perm_foldl_insert {entries : List (String × File.Contents)} {package : Package}
    (hnodup : (entries.map (·.1)).Nodup) (hnew : ∀ entry ∈ entries, entry.1 ∉ package.names) :
    (entries.foldl (fun package entry => package.insert entry.1 entry.2) package).parts.Perm
      (entries ++ package.parts) := by
  induction entries generalizing package with
  | nil => exact List.Perm.refl _
  | cons entry rest ih =>
    rw [List.map_cons, List.nodup_cons] at hnodup
    have hinsert : (package.insert entry.1 entry.2).parts.Perm (entry :: package.parts) :=
      Ascending.insert_perm (hnew entry List.mem_cons_self) entry.2
    refine (ih hnodup.2 fun other hother => ?_).trans ?_
    · rw [mem_names_insert, not_or]
      refine ⟨fun heq => hnodup.1 (heq ▸ List.mem_map_of_mem hother), ?_⟩
      exact hnew other (List.mem_cons_of_mem entry hother)
    · exact (hinsert.append_left rest).trans List.perm_middle

/-- The entries of an archive are the parts in another order. -/
theorem toEntries_perm (package : Package) : package.toEntries.Perm package.parts := by
  rw [toEntries, List.partition_eq_filter_filter]
  exact List.filter_append_perm _ _

/-- So no two of them have the same name. -/
theorem nodup_names_toEntries (package : Package) : (package.toEntries.map (·.1)).Nodup :=
  (package.toEntries_perm.map Prod.fst).nodup_iff.2 package.nodup_names

/-- The content types come first in an archive. -/
theorem head?_toEntries {package : Package} (h : package.contains contentTypesPart = true) :
    (package.toEntries.map (·.1)).head? = some contentTypesPart := by
  obtain ⟨entry, hentry, hname⟩ := List.mem_map.1 (contains_eq_true_iff.1 h)
  have hfirst : entry ∈ package.parts.filter fun entry => entry.1 == contentTypesPart :=
    List.mem_filter.2 ⟨hentry, beq_iff_eq.2 hname⟩
  obtain ⟨first, rest, hall⟩ := List.exists_cons_of_ne_nil (List.ne_nil_of_mem hfirst)
  have hmem : first ∈ package.parts.filter fun entry => entry.1 == contentTypesPart := by
    rw [hall]
    exact List.mem_cons_self
  rw [toEntries, List.partition_eq_filter_filter, hall]
  exact congrArg some (beq_iff_eq.1 (List.mem_filter.1 hmem).2)

/-- A package is read back from the entries of its archive. -/
theorem ofEntries_toEntries {package : Package} (h : ∀ name ∈ package.names, IsFileName name) :
    ofEntries package.toEntries = package := by
  have hperm := package.toEntries_perm
  have hname : ∀ entry ∈ package.toEntries, IsFileName entry.1 := fun entry hentry =>
    h _ (List.mem_map_of_mem (hperm.mem_iff.1 hentry))
  have hfilter : package.toEntries.filter (fun entry => !Archive.isFolder entry.1)
      = package.toEntries :=
    List.filter_eq_self.2 fun entry hentry => by rw [(hname entry hentry).1, Bool.not_false]
  have hfold : ofEntries package.toEntries
      = package.toEntries.foldl (fun package entry => package.insert entry.1 entry.2) empty := by
    rw [ofEntries, hfilter]
    refine List.foldl_ext _ _ _ fun package entry hentry => ?_
    rw [(hname entry hentry).2]
  have hnodup := package.nodup_names_toEntries
  have hparts : (package.toEntries.foldl (fun package entry => package.insert entry.1 entry.2)
      empty).parts.Perm (package.toEntries ++ []) :=
    perm_foldl_insert hnodup fun _ _ => List.not_mem_nil
  rw [List.append_nil] at hparts
  have hall := hparts.trans hperm
  rw [hfold]
  exact eq_of_parts (Ascending.Sorted.eq_of_perm (Package.sorted _) package.sorted hall)

/-- A package is read back from its archive. -/
theorem ofContents_archive {package : Package} (h : ∀ name ∈ package.names, IsFileName name) :
    ofContents (.archive package.toEntries) = .ok package := by
  simp only [ofContents, File.Contents.entries, ofEntries_toEntries h]

end Package

end SlideDeck
