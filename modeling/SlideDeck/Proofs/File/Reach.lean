import SlideDeck.Proofs.File.Scratch
import SlideDeck.Proofs.Text.Segments

/-!
# Where paths lead

The path of a file in a folder ends in the name of the file (`exists_segments_child`), and from this its
names, its file name and its extension follow, whatever the folder is called.

The place of a path is found by its names: the last of them is the name at the place, and the others are
walked along. So a path that leads to a folder still does when there are more folders
(`find_of_stays`), and a path without the name of some folder leads where it did when that is removed
(`place_removeFolder`).
-/

namespace SlideDeck.File

namespace Path

/-- The names in a path. -/
def names (path : Path) : List String := (path.segments.filter (· ≠ [])).map String.ofList

/-- The path of a file in a folder ends in the name of the file. What is before it has the names of the
folder. -/
theorem exists_segments_child (folder : Path) {name : String} (hslash : '/' ∉ name.toList) :
    ∃ above, (folder.child name).segments = above ++ [name.toList] ∧
      above.filter (· ≠ []) = folder.segments.filter (· ≠ []) := by
  have hname : Text.splitAt '/' name.toList = [name.toList] := Text.splitAt_of_not_mem hslash
  rw [child]
  split
  · next hend =>
    rcases hend with hempty | hend
    · -- the path of the folder is empty
      have htext : folder.text.toList = [] := List.isEmpty_iff.1 hempty
      refine ⟨[], ?_, ?_⟩
      · rw [segments, String.toList_append, htext, List.nil_append, hname, List.nil_append]
      · rw [segments, htext]
        rfl
    · obtain ⟨before, hbefore⟩ := List.getLast?_eq_some_iff.1 hend
      refine ⟨Text.splitAt '/' before, ?_, ?_⟩
      · rw [segments, String.toList_append, hbefore, List.append_assoc, List.singleton_append,
          Text.splitAt_append, hname]
      · rw [segments, hbefore, Text.splitAt_append, List.filter_append]
        exact (List.append_nil _).symm
  · have htext : (folder.text ++ "/" ++ name).toList = folder.text.toList ++ '/' :: name.toList := by
      simp
    exact ⟨folder.segments, by rw [segments, htext, Text.splitAt_append, hname, segments], rfl⟩

/-- A file in a folder has the names of the folder and its own. -/
theorem names_child (folder : Path) {name : String} (hslash : '/' ∉ name.toList) (hne : name ≠ "") :
    (folder.child name).names = folder.names ++ [name] := by
  obtain ⟨above, hsegments, habove⟩ := exists_segments_child folder hslash
  have hkept : [name.toList].filter (· ≠ []) = [name.toList] := by
    rw [List.filter_cons_of_pos (by simpa using hne), List.filter_nil]
  rw [names, names, hsegments, List.filter_append, habove, hkept, List.map_append, List.map_singleton,
    String.ofList_toList]

/-- The path of a file in a folder has the name of the file as its own, unless that is of dots. -/
theorem fileName?_child (folder : Path) {name : String} (hslash : '/' ∉ name.toList) (hne : name ≠ "")
    (hdots : name ≠ "." ∧ name ≠ "..") : (folder.child name).fileName? = some name.toList := by
  obtain ⟨above, hsegments, -⟩ := exists_segments_child folder hslash
  have hchars : ∀ dots : String, name ≠ dots → name.toList ≠ dots.toList :=
    fun dots hother heq => hother (String.toList_injective heq)
  have hvoid : isVoid name.toList = false := by
    rw [isVoid, Bool.or_eq_false_iff, beq_eq_false_iff_ne, beq_eq_false_iff_ne]
    exact ⟨hchars "" hne, hchars "." hdots.1⟩
  rw [fileName?, ascending, hsegments, List.reverse_append, List.reverse_singleton,
    List.singleton_append, List.dropWhile_cons_of_neg (by rw [hvoid]; exact Bool.false_ne_true)]
  exact if_neg (hchars ".." hdots.2)

/-- The extension of a name is what follows its last dot, if something is before that. -/
theorem extensionOf_append {stem extension : List Char} (hstem : stem ≠ []) (hdot : '.' ∉ extension) :
    extensionOf (stem ++ '.' :: extension) = some extension := by
  have hlast : (stem ++ '.' :: extension).reverse.takeWhile (· != '.') = extension.reverse := by
    have hplain : ∀ c ∈ extension.reverse, (c != '.') = true := fun c hc => by
      rw [bne_iff_ne]
      rintro rfl
      exact hdot (List.mem_reverse.1 hc)
    rw [List.reverse_append, List.reverse_cons, List.append_assoc, List.takeWhile_append_of_pos hplain,
      List.singleton_append, List.takeWhile_cons_of_neg (by decide), List.append_nil]
  have hlength := List.length_pos_of_ne_nil hstem
  rw [extensionOf, hlast, List.reverse_reverse, if_neg]
  rw [List.length_append, List.length_cons]
  omega

/-- A file in a folder has a path from the root if the folder has. -/
theorem isAbsolute_child (folder : Path) {name : String} (hslash : '/' ∉ name.toList) :
    (folder.child name).isAbsolute = folder.isAbsolute := by
  have hhead : ∀ rest : String, (folder.text.toList = [] → rest.toList.head? ≠ some '/') →
      ((folder.text ++ rest).toList.head? == some '/') = (folder.text.toList.head? == some '/') := by
    intro rest hrest
    rw [String.toList_append, List.head?_append]
    cases hfolder : folder.text.toList with
    | nil => simpa using hrest hfolder
    | cons c text => rfl
  rw [child]
  split
  · refine hhead name fun _ hfirst => ?_
    exact hslash (List.mem_of_mem_head? hfirst)
  · next hend =>
    rw [not_or] at hend
    rw [isAbsolute, isAbsolute, String.append_assoc]
    exact hhead ("/" ++ name) fun hempty => absurd (List.isEmpty_iff.2 hempty) hend.1

end Path

namespace Tree

variable {tree other : Tree} {address : Address} {path : Path}

/-! ## Places -/

/-- The name at the place of a path is the last of its names. -/
theorem name_of_place {found : Place} (h : tree.place path = .ok found) :
    found.name = path.names.getLast? := by
  rw [place_eq] at h
  split at h
  · cases h
  · split at h
    · cases h
    · split at h
      · cases h
      · split at h
        · cases h
        · split at h
          · rw [← Except.ok.inj h]
            rfl
          · cases h

/-- The last name of a walk is entered from where the others lead to. -/
theorem walk_append (tree : Tree) (folder : Address) (names : List String) (name : String) :
    tree.walk folder (names ++ [name]) = (do
      let next ← tree.walk folder names
      tree.enter next name) := by
  induction names generalizing folder with
  | nil =>
    rw [List.nil_append, walk, walk, ok_bind]
    cases tree.enter folder name <;> rfl
  | cons first names ih =>
    rw [List.cons_append, walk, walk]
    cases tree.enter folder first with
    | ok next => exact ih next
    | error fault => rfl

/-- Where a name leads to from a folder, if there is anything: a dot stays in it, two dots go up, and any
other name leads to the entry of that name. -/
def stepTo (folder : Address) (name : String) : Address :=
  if name = "." then folder else if name = ".." then folder.dropLast else folder ++ [name]

/-- A name other than dots leads to the entry of that name. -/
theorem stepTo_of_name {name : String} (h : isDots name = false) (folder : Address) :
    stepTo folder name = folder ++ [name] := by
  rw [isDots, Bool.or_eq_false_iff, beq_eq_false_iff_ne, beq_eq_false_iff_ne] at h
  rw [stepTo, if_neg h.1, if_neg h.2]

/-- Dots lead to the folder itself or to the one above it. -/
theorem stepTo_of_dots {name : String} (h : isDots name = true) (folder : Address) :
    stepTo folder name = folder ∨ stepTo folder name = folder.dropLast := by
  rw [isDots, Bool.or_eq_true, beq_iff_eq, beq_iff_eq] at h
  rcases h with rfl | rfl
  · exact .inl rfl
  · exact .inr rfl

/-- A name that can be entered leads where it says. -/
theorem eq_stepTo_of_enter {folder found : Address} {name : String}
    (h : tree.enter folder name = .ok found) : found = stepTo folder name := by
  rw [enter] at h
  rw [stepTo]
  split at h
  · cases h
  · split at h
    · next hdot =>
      rw [if_pos hdot]
      exact (Except.ok.inj h).symm
    · next hdot =>
      rw [if_neg hdot]
      split at h
      · next hdots =>
        rw [if_pos hdots]
        exact (Except.ok.inj h).symm
      · next hdots =>
        rw [if_neg hdots]
        split at h
        · cases h
        · split at h
          · exact (Except.ok.inj h).symm
          · cases h

/-- If it is not of dots, it leads to the entry of that name. -/
theorem eq_of_enter {folder next : Address} {name : String} (h : tree.enter folder name = .ok next)
    (hdots : isDots name = false) : next = folder ++ [name] :=
  (eq_stepTo_of_enter h).trans (stepTo_of_name hdots folder)

/-- Names lead to the same address in every tree in which they lead anywhere. -/
theorem eq_foldl_of_walk {folder found : Address} {names : List String}
    (h : tree.walk folder names = .ok found) : found = names.foldl stepTo folder := by
  induction names generalizing folder with
  | nil => exact (Except.ok.inj h).symm
  | cons name names ih =>
    obtain ⟨first, henter, hwalk⟩ := exists_of_bind_eq_ok h
    rw [ih hwalk, eq_stepTo_of_enter henter]
    rfl

/-- Paths lead to the same places in trees with the same walks. -/
theorem place_congr (hwalk : other.walkTo path = tree.walkTo path)
    (hfolder : ∀ dest, tree.walkTo path = .ok dest → other.isFolderAt dest = tree.isFolderAt dest) :
    other.place path = tree.place path := by
  rw [walkTo, walkTo] at hwalk
  rw [walkTo] at hfolder
  rw [place_eq, place_eq, hwalk]
  cases hdest : tree.walk (if path.isAbsolute then [] else tree.current)
      ((path.segments.filter (· ≠ [])).map String.ofList).dropLast with
  | error fault => rfl
  | ok dest => simp only [hfolder dest hdest]

/-- Whether an address is where a path leads to, as far as it is not for a folder. -/
def IsPlaceOf (path : Path) (tree : Tree) (address : Address) : Prop :=
  ∃ folder name, tree.place path = .ok ⟨folder, some name, false⟩ ∧ address = folder ++ [name]

/-- The address that a path asks for from a folder, by its names alone. -/
def target? (current : Address) (path : Path) : Option Address :=
  path.names.getLast?.map fun name =>
    path.names.dropLast.foldl stepTo (if path.isAbsolute then [] else current) ++ [name]

/-- A path leads to the address that it asks for, if it leads anywhere. -/
theorem IsPlaceOf.target?_eq (h : IsPlaceOf path tree address) :
    target? tree.current path = some address := by
  obtain ⟨folder, name, hplace, rfl⟩ := h
  have hwalk : folder
      = path.names.dropLast.foldl stepTo (if path.isAbsolute then [] else tree.current) :=
    eq_foldl_of_walk (place_eq_ok hplace).1
  rw [target?, ← name_of_place hplace, Option.map_some, ← hwalk]

/-- The place of a path is the same when there are more folders. -/
theorem IsPlaceOf.mono (h : IsPlaceOf path tree address) (hstays : Stays tree other) :
    IsPlaceOf path other address := by
  obtain ⟨folder, name, hplace, haddress⟩ := h
  exact ⟨folder, name, place_of_keepsFolders hstays.keepsFolders hstays.current_eq hplace, haddress⟩

/-- The last name of a path is the name at its place. -/
theorem IsPlaceOf.name_eq {parent : Address} {name : String}
    (h : IsPlaceOf path tree (parent ++ [name])) : path.names.getLast? = some name := by
  obtain ⟨folder, found, hplace, heq⟩ := h
  rw [← name_of_place hplace, List.singleton_inj.1 (List.append_inj' heq rfl).2]

/-- What a path leads to depends only on what is at its place. -/
theorem find_congr {found : Place} {name : String} (hplace : tree.place path = .ok found)
    (hother : other.place path = .ok found) (hname : found.name = some name) (hdots : isDots name = false)
    (hnode : other.node? (found.folder ++ [name]) = tree.node? (found.folder ++ [name])) :
    other.find path = tree.find path := by
  have hfolder := (place_eq_ok hplace).2.1
  have hfolder' := (place_eq_ok hother).2.1
  have henter : other.enter found.folder name = tree.enter found.folder name := by
    rw [enter, enter, hfolder, hfolder', hnode]
  rw [find, find, hplace, hother, ok_bind, ok_bind, hname]
  dsimp only
  rw [henter]
  cases hthere : tree.enter found.folder name with
  | error cause => rfl
  | ok address =>
    obtain rfl := eq_of_enter hthere hdots
    rw [ok_bind, ok_bind, hnode]

/-! ## Paths to folders -/

/-- A path whose last name is that of a folder leads to the folder. -/
theorem find_of_place {folder : Address} {name : String} {slash : Bool}
    (hplace : tree.place path = .ok ⟨folder, some name, slash⟩) (hdots : isDots name = false)
    (hlong : ¬ maxName < name.utf8ByteSize) (hnode : tree.node? (folder ++ [name]) = some .folder) :
    tree.find path = .ok (folder ++ [name], .folder) := by
  obtain ⟨-, hfolder, -⟩ := place_eq_ok hplace
  rw [isDots, Bool.or_eq_false_iff, beq_eq_false_iff_ne, beq_eq_false_iff_ne] at hdots
  have henter : tree.enter folder name = .ok (folder ++ [name]) := by
    rw [enter, hfolder]
    simp only [Bool.not_true, Bool.false_eq_true, ite_false, if_neg hdots.1, if_neg hdots.2,
      if_neg hlong, hnode]
  rw [find, hplace]
  simp only [bind, Except.bind, henter, hnode]
  rfl

/-- What has happened when a path was found to lead to a folder. -/
theorem find_eq_folder (h : tree.find path = .ok (address, .folder)) :
    ∃ found, tree.place path = .ok found ∧ tree.isFolderAt address = true ∧
      ((found.name = none ∧ address = found.folder) ∨
        ∃ name, found.name = some name ∧ tree.enter found.folder name = .ok address) := by
  obtain ⟨found, hplace, h⟩ := exists_of_bind_eq_ok h
  refine ⟨found, hplace, ?_⟩
  cases hname : found.name with
  | none =>
    rw [hname] at h
    obtain ⟨rfl, -⟩ := Prod.mk.inj (Except.ok.inj h)
    exact ⟨(place_eq_ok hplace).2.1, .inl ⟨rfl, rfl⟩⟩
  | some name =>
    rw [hname] at h
    obtain ⟨next, henter, h⟩ := exists_of_bind_eq_ok h
    split at h
    · cases h
    · split at h
      · cases h
      · exact nomatch (Prod.mk.inj (Except.ok.inj h)).2
    · next hnode =>
      obtain ⟨rfl, -⟩ := Prod.mk.inj (Except.ok.inj h)
      exact ⟨isFolderAt_eq_true.2 hnode, .inr ⟨name, rfl, henter⟩⟩

/-- A path that leads to a folder leads there in every tree that has the folders. -/
theorem find_of_stays (h : Stays tree other) (hfind : tree.find path = .ok (address, .folder)) :
    other.find path = .ok (address, .folder) := by
  obtain ⟨found, hplace, hfolder, hlast⟩ := find_eq_folder hfind
  have hthere := h.keepsFolders _ hfolder
  rw [find, place_of_keepsFolders h.keepsFolders h.current_eq hplace, ok_bind]
  -- the path ends at its last folder, or in a name that leads to one
  rcases hlast with ⟨hname, rfl⟩ | ⟨name, hname, henter⟩
  · rw [hname]
    rfl
  · rw [hname]
    simp only [enter_of_keepsFolders h.keepsFolders henter hfolder, ok_bind,
      isFolderAt_eq_true.1 hthere]
    rfl

/-! ## Paths around a folder that goes -/

variable {folder : Address} {name : String}

/-- Another name does not lead into the folder from outside. -/
theorem not_isPrefixOf_append {start : Address} {next : String}
    (h : (folder ++ [name]).isPrefixOf start = false) (hne : name ≠ next) :
    (folder ++ [name]).isPrefixOf (start ++ [next]) = false := by
  by_contra hstarts
  rw [Bool.not_eq_false, List.isPrefixOf_iff_prefix, List.prefix_concat_iff] at hstarts
  rcases hstarts with heq | hstarts
  · exact hne (List.singleton_inj.1 (List.append_inj' heq rfl).2)
  · rw [List.isPrefixOf_iff_prefix.2 hstarts] at h
    cases h

/-- Going up does not lead into the folder either. -/
theorem not_isPrefixOf_dropLast {start : Address} (h : address.isPrefixOf start = false) :
    address.isPrefixOf start.dropLast = false := by
  by_contra hstarts
  rw [Bool.not_eq_false, List.isPrefixOf_iff_prefix] at hstarts
  rw [List.isPrefixOf_iff_prefix.2 (hstarts.trans (List.dropLast_prefix start))] at h
  cases h

/-- So no step by another name leads into the folder. -/
theorem not_isPrefixOf_stepTo {start : Address} {next : String}
    (h : (folder ++ [name]).isPrefixOf start = false) (hne : name ≠ next) :
    (folder ++ [name]).isPrefixOf (stepTo start next) = false := by
  cases hdots : isDots next with
  | false =>
    rw [stepTo_of_name hdots]
    exact not_isPrefixOf_append h hne
  | true =>
    rcases stepTo_of_dots hdots start with heq | heq
    · rw [heq]
      exact h
    · rw [heq]
      exact not_isPrefixOf_dropLast h

/-- Removing a folder takes away no folder outside of it. -/
theorem isFolderAt_removeFolder {start : Address} (h : address.isPrefixOf start = false) :
    (tree.removeFolder address).isFolderAt start = tree.isFolderAt start := by
  rw [isFolderAt, isFolderAt, node?_removeFolder h]

variable (tree) in
/-- A walk that does not take the name of the folder is the same without it. -/
theorem walk_removeFolder {start : Address} {names : List String}
    (hstart : (folder ++ [name]).isPrefixOf start = false) (hnames : name ∉ names) :
    (tree.removeFolder (folder ++ [name])).walk start names = tree.walk start names ∧
      ∀ dest, tree.walk start names = .ok dest → (folder ++ [name]).isPrefixOf dest = false := by
  induction names generalizing start with
  | nil => exact ⟨rfl, fun dest h => Except.ok.inj h ▸ hstart⟩
  | cons first names ih =>
    rw [List.mem_cons, not_or] at hnames
    have hnext := not_isPrefixOf_append hstart hnames.1
    -- one name is entered alike, and from outside the folder leads outside again
    have henter : (tree.removeFolder (folder ++ [name])).enter start first = tree.enter start first := by
      rw [enter, enter, isFolderAt_removeFolder hstart, node?_removeFolder hnext]
    have hstill : ∀ next, tree.enter start first = .ok next →
        (folder ++ [name]).isPrefixOf next = false := by
      intro next h
      rw [eq_stepTo_of_enter h]
      exact not_isPrefixOf_stepTo hstart hnames.1
    rw [walk, walk, henter]
    cases hwalk : tree.enter start first with
    | ok next => exact ih (hstill next hwalk) hnames.2
    | error fault =>
      refine ⟨rfl, fun dest h => ?_⟩
      cases h

/-- Neither the root nor the current folder is in a folder whose name the current one does not have. -/
theorem not_isPrefixOf_start (hcurrent : name ∉ tree.current) :
    (folder ++ [name]).isPrefixOf (if path.isAbsolute then [] else tree.current) = false := by
  split
  · cases folder <;> rfl
  · by_contra hstarts
    rw [Bool.not_eq_false, List.isPrefixOf_iff_prefix] at hstarts
    exact hcurrent (hstarts.subset (List.mem_append_right _ (List.mem_singleton_self _)))

/-- A path without the name of the folder leads where it did. -/
theorem place_removeFolder (hcurrent : name ∉ tree.current) (hnames : name ∉ path.names) :
    (tree.removeFolder (folder ++ [name])).place path = tree.place path := by
  have hwalked : name ∉ path.names.dropLast := fun hmem => hnames (List.dropLast_subset _ hmem)
  obtain ⟨hwalk, hdest⟩ := walk_removeFolder tree (not_isPrefixOf_start hcurrent) hwalked
  exact place_congr hwalk fun dest h => isFolderAt_removeFolder (hdest dest h)

/-- A path without the name of the folder leads to a place that is not in it. -/
theorem IsPlaceOf.not_isPrefixOf (h : IsPlaceOf path tree address) (hcurrent : name ∉ tree.current)
    (hnames : name ∉ path.names) : (folder ++ [name]).isPrefixOf address = false := by
  obtain ⟨parent, last, hplace, rfl⟩ := h
  have hwalked : name ∉ path.names.dropLast := fun hmem => hnames (List.dropLast_subset _ hmem)
  obtain ⟨-, hdest⟩ := walk_removeFolder tree (not_isPrefixOf_start hcurrent) hwalked
  refine not_isPrefixOf_append (hdest _ (place_eq_ok hplace).1) fun heq => hnames ?_
  rw [heq]
  exact List.mem_of_getLast? (name_of_place hplace).symm

end Tree

end SlideDeck.File
