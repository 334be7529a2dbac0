import SlideDeck.Proofs.File.Changes

/-!
# What can be written

A file can be put beside the place of a path exactly if the folder of the path is there
(`exists_freshAddress_iff`), which is so if the path is well formed and all its names are those of folders
(`isFolder_iff`).
-/

namespace SlideDeck.File

/-- The folder of a path has a path that is not empty. -/
theorem Path.text_folder_ne (path : Path) : path.folder.text ≠ "" := by
  unfold folder
  split
  · split
    · decide
    · next hne => exact fun hempty => hne (by rw [hempty]; rfl)
  · decide

namespace Tree

variable {tree : Tree} {address : Address} {path : Path}

/-! ## Folders -/

/-- A path leads to a place exactly if it is well formed and the way to its last name is one of folders. -/
theorem exists_place_iff : (∃ found, tree.place path = .ok found) ↔
    '\x00' ∉ path.text.toList ∧ path.text ≠ "" ∧ path.text.utf8ByteSize ≤ maxPath ∧
      ∃ folder, tree.walkTo path = .ok folder ∧ tree.isFolderAt folder = true := by
  have hnone (fault : Error) : ¬ ∃ found, (Except.error fault : Except Error Place) = .ok found := by
    rintro ⟨found, h⟩
    cases h
  rw [place_eq, walkTo]
  by_cases hzero : path.text.toList.contains '\x00' = true
  · rw [if_pos hzero]
    exact iff_of_false (hnone _) fun h => h.1 (List.contains_iff_mem.1 hzero)
  by_cases hempty : path.text.isEmpty = true
  · rw [if_neg hzero, if_pos hempty]
    exact iff_of_false (hnone _) fun h => h.2.1 (String.isEmpty_iff.1 hempty)
  by_cases hlong : maxPath < path.text.utf8ByteSize
  · rw [if_neg hzero, if_neg hempty, if_pos hlong]
    exact iff_of_false (hnone _) fun h => absurd hlong (Nat.not_lt_of_le h.2.2.1)
  rw [if_neg hzero, if_neg hempty, if_neg hlong]
  have hwell : '\x00' ∉ path.text.toList ∧ path.text ≠ "" ∧ path.text.utf8ByteSize ≤ maxPath :=
    ⟨fun h => hzero (List.contains_iff_mem.2 h), fun h => hempty (String.isEmpty_iff.2 h),
      Nat.le_of_not_lt hlong⟩
  -- what is left is the walk
  split
  · next fault hwalk =>
    refine iff_of_false (hnone fault) ?_
    rintro ⟨-, -, -, folder, hfolder, -⟩
    cases hwalk.symm.trans hfolder
  · next folder hwalk =>
    constructor
    · rintro ⟨found, h⟩
      split at h
      · next hfolder => exact ⟨hwell.1, hwell.2.1, hwell.2.2, folder, hwalk, hfolder⟩
      · cases h
    · rintro ⟨-, -, -, other, hother, hfolder⟩
      obtain rfl := Except.ok.inj (hwalk.symm.trans hother)
      exact ⟨_, if_pos hfolder⟩

/-- All the names of a path lead to where its last name leads from its place. -/
theorem walk_names_of_place {found : Place} (h : tree.place path = .ok found) :
    tree.walk (if path.isAbsolute then [] else tree.current) path.names =
      match found.name with
      | none => .ok found.folder
      | some name => tree.enter found.folder name := by
  have hwalk : tree.walk (if path.isAbsolute then [] else tree.current) path.names.dropLast
      = .ok found.folder := (place_eq_ok h).1
  rw [name_of_place h]
  rcases List.eq_nil_or_concat path.names with hnames | ⟨before, name, hnames⟩
  · rw [hnames] at hwalk ⊢
    exact hwalk
  · rw [hnames, List.concat_eq_append, List.dropLast_concat] at hwalk
    rw [hnames, List.concat_eq_append, List.getLast?_concat, walk_append, hwalk]
    rfl

/-- If all the names of a path lead to a folder, all but the last do. -/
theorem exists_walkTo_of_walk (h : tree.walk (if path.isAbsolute then [] else tree.current) path.names
    = .ok address) (hfolder : tree.isFolderAt address = true) :
    ∃ folder, tree.walkTo path = .ok folder ∧ tree.isFolderAt folder = true := by
  show ∃ folder, tree.walk _ path.names.dropLast = .ok folder ∧ _
  rcases List.eq_nil_or_concat path.names with hnames | ⟨before, name, hnames⟩
  · rw [hnames] at h ⊢
    exact ⟨address, h, hfolder⟩
  · rw [hnames, List.concat_eq_append, walk_append] at h
    rw [hnames, List.concat_eq_append, List.dropLast_concat]
    obtain ⟨next, hbefore, henter⟩ := exists_of_bind_eq_ok h
    refine ⟨next, hbefore, ?_⟩
    -- a name is entered from folders only
    by_contra hnot
    rw [enter, if_pos (by simpa using hnot)] at henter
    cases henter

/-- A path names a folder if it leads to one. -/
theorem isFolder_eq_true : tree.isFolder path = true ↔ ∃ folder, tree.find path = .ok (folder, .folder) := by
  unfold isFolder
  split
  · next folder h => exact iff_of_true rfl ⟨folder, h⟩
  · next h => exact iff_of_false Bool.false_ne_true fun ⟨folder, hfolder⟩ => h folder hfolder

/-- A path leads to a folder exactly if it is well formed and all its names are those of folders. -/
theorem isFolder_iff : tree.isFolder path = true ↔
    '\x00' ∉ path.text.toList ∧ path.text ≠ "" ∧ path.text.utf8ByteSize ≤ maxPath ∧
      ∃ folder, tree.walk (if path.isAbsolute then [] else tree.current) path.names = .ok folder ∧
        tree.isFolderAt folder = true := by
  rw [isFolder_eq_true]
  constructor
  · rintro ⟨address, h⟩
    obtain ⟨found, hplace, hfolder, hlast⟩ := find_eq_folder h
    obtain ⟨hzero, hempty, hlong, -⟩ := exists_place_iff.1 ⟨found, hplace⟩
    refine ⟨hzero, hempty, hlong, address, ?_, hfolder⟩
    rw [walk_names_of_place hplace]
    rcases hlast with ⟨hname, rfl⟩ | ⟨name, hname, henter⟩
    · rw [hname]
    · rw [hname]
      exact henter
  · rintro ⟨hzero, hempty, hlong, address, hwalk, hfolder⟩
    obtain ⟨found, hplace⟩ := exists_place_iff.2
      ⟨hzero, hempty, hlong, exists_walkTo_of_walk hwalk hfolder⟩
    rw [walk_names_of_place hplace] at hwalk
    refine ⟨address, ?_⟩
    rw [find, hplace, ok_bind]
    cases hname : found.name with
    | none =>
      rw [hname] at hwalk
      obtain rfl := Except.ok.inj hwalk
      rfl
    | some name =>
      rw [hname] at hwalk
      simp only [hwalk, ok_bind, isFolderAt_eq_true.1 hfolder]
      rfl

/-- A file can be looked up in a folder exactly if the folder is there and the path not too long. -/
theorem exists_place_child_iff {folder : Path} {name : String} (hfolder : folder.text ≠ "")
    (hname : name ≠ "") (hslash : '/' ∉ name.toList) (hzero : '\x00' ∉ name.toList) :
    (∃ found, tree.place (folder.child name) = .ok found) ↔
      tree.isFolder folder = true ∧ (folder.child name).text.utf8ByteSize ≤ maxPath := by
  have hway : tree.walkTo (folder.child name)
      = tree.walk (if folder.isAbsolute then [] else tree.current) folder.names := by
    rw [walkTo, Path.isAbsolute_child _ hslash]
    show tree.walk _ (folder.child name).names.dropLast = _
    rw [Path.names_child _ hslash hname, List.dropLast_concat]
  have htext : ∃ between, (folder.child name).text = folder.text ++ between ++ name ∧
      '\x00' ∉ between.toList := by
    rw [Path.child]
    split
    · exact ⟨"", by rw [String.append_empty], by decide⟩
    · exact ⟨"/", rfl, by decide⟩
  obtain ⟨between, htext, hbetween⟩ := htext
  have hsize : folder.text.utf8ByteSize ≤ (folder.child name).text.utf8ByteSize := by
    rw [htext, String.utf8ByteSize_append, String.utf8ByteSize_append]
    omega
  rw [exists_place_iff, isFolder_iff, hway, htext, String.toList_append, String.toList_append,
    List.mem_append, List.mem_append, not_or, not_or, ← htext]
  constructor
  · rintro ⟨⟨⟨hzero', -⟩, -⟩, -, hlong, hwalk⟩
    exact ⟨⟨hzero', hfolder, Nat.le_trans hsize hlong, hwalk⟩, hlong⟩
  · rintro ⟨⟨hzero', -, -, hwalk⟩, hlong⟩
    refine ⟨⟨⟨hzero', hbetween⟩, hzero⟩, fun hempty => hname ?_, hlong, hwalk⟩
    exact (String.append_eq_empty_iff.1 (htext.symm.trans hempty)).2

/-- Whether a file of a name can be beside the place of a path. -/
def TakesBeside (tree : Tree) (path : Path) (name : String) : Prop :=
  tree.isFolder path.folder = true ∧ (path.folder.child name).text.utf8ByteSize ≤ maxPath

/-- A fresh name beside the place of a path is found exactly if there is room for a file. -/
theorem exists_freshAddress_iff {start ending : String} (hne : start ++ ending ≠ "")
    (hslash : '/' ∉ (start ++ ending).toList) (hzero : '\x00' ∉ (start ++ ending).toList) :
    (∃ temporary, tree.freshAddress path.folder start ending = .ok temporary) ↔
      tree.TakesBeside path (start ++ ending) := by
  rw [TakesBeside, ← exists_place_child_iff path.text_folder_ne hne hslash hzero]
  constructor
  · rintro ⟨temporary, h⟩
    obtain ⟨found, hplace, -⟩ := exists_of_bind_eq_ok h
    exact ⟨found, hplace⟩
  · rintro ⟨found, hplace⟩
    exact ⟨_, by rw [freshAddress, hplace]; rfl⟩

end Tree

end SlideDeck.File
