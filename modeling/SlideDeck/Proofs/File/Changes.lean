import SlideDeck.Proofs.File.Reach

/-!
# What an operation changes

Trees are compared address by address (`Changes`). Publishing a file changes what is at its place and
nothing else, or nothing at all; making folders makes folders on the way to a path. Whatever was put into
a folder for temporary files is gone with it (`changes_removeFolder`). Files whose names no change takes are
read as before (`Changes.read_eq_ok`).
-/

namespace SlideDeck.File.Tree

variable {tree other last : Tree} {address : Address} {path : Path}

/-- Whether a tree has become another by changes at certain addresses, with all folders kept. -/
structure Changes (changed : Address → Prop) (tree other : Tree) : Prop where
  stays : Stays tree other
  node?_eq_or : ∀ address, other.node? address = tree.node? address ∨ changed address

namespace Changes

variable {changed more all : Address → Prop}

theorem refl (changed : Address → Prop) (tree : Tree) : Changes changed tree tree :=
  ⟨.refl tree, fun _ => .inl rfl⟩

theorem mono (h : Changes changed tree other) (himp : ∀ address, changed address → all address) :
    Changes all tree other :=
  ⟨h.stays, fun address => (h.node?_eq_or address).imp_right (himp address)⟩

/-- One change after another. The first is still to be seen wherever the second has changed nothing. -/
theorem trans (h : Changes changed tree other) (h' : Changes more other last)
    (hkept : ∀ address, changed address → last.node? address = other.node? address → all address)
    (hnew : ∀ address, more address → all address) : Changes all tree last := by
  refine ⟨h.stays.trans h'.stays, fun address => ?_⟩
  rcases h'.node?_eq_or address with hsame | hmore
  · rcases h.node?_eq_or address with hfirst | hfirst
    · exact .inl (hsame.trans hfirst)
    · exact .inr (hkept address hfirst hsame)
  · exact .inr (hnew address hmore)

/-- A file is read as before if only files and folders of other names have changed. -/
theorem read_eq_ok (h : Changes changed tree other) {name : String}
    (hname : path.names.getLast? = some name) (hdots : isDots name = false)
    (hkept : ∀ parent, ¬ changed (parent ++ [name])) {contents : Contents}
    (hread : tree.read path = .ok contents) : other.read path = .ok contents := by
  obtain ⟨_, hfind, -⟩ := exists_of_bind_eq_ok hread
  obtain ⟨found, hplace, -⟩ := exists_of_bind_eq_ok hfind
  have hlast := (name_of_place hplace).trans hname
  have hnode := (h.node?_eq_or (found.folder ++ [name])).resolve_right (hkept found.folder)
  have hsame := find_congr hplace
    (place_of_keepsFolders h.stays.keepsFolders h.stays.current_eq hplace) hlast hdots hnode
  rw [← hread, Tree.read, Tree.read, hsame]

end Changes

/-! ## Files -/

/-- There is nothing at an address that is free, nor below it. -/
theorem node?_of_isFree (h : tree.isFree address = true) (hne : address ≠ []) {found : Address}
    (hstarts : address.isPrefixOf found = true) : tree.node? found = none := by
  have hfound : found ≠ [] := by
    rintro rfl
    obtain ⟨name, rest, rfl⟩ := List.exists_cons_of_ne_nil hne
    cases hstarts
  cases hnode : tree.node? found with
  | none => rfl
  | some node =>
    rw [isFree, Bool.not_eq_true', List.any_eq_false] at h
    exact absurd hstarts (h _ (mem_nodes_of_node? hnode hfound))

/-- Whether one tree has become another by a file at the place of a path, with all else as it was. -/
def Saves (path : Path) (contents : Contents) (tree written : Tree) : Prop :=
  written.current = tree.current ∧ written.temporary = tree.temporary ∧
    ∃ address, IsPlaceOf path tree address ∧ written.node? address = some (.file contents) ∧
      ∀ found, found ≠ address → written.node? found = tree.node? found

/-- Renaming an unfinished file saves its contents where the path leads to. -/
theorem saves_of_rename {temporary : Address} {contents : Contents} {renamed : Tree}
    (h : tree.isFree temporary = true) (hne : temporary ≠ [])
    (hrename : (tree.set temporary (.file contents)).rename temporary path = .ok renamed) :
    Saves path contents tree renamed := by
  obtain ⟨folder, name, node, hplace, -, -, -, hnode, rfl⟩ := rename_eq_ok hrename
  obtain rfl : .file contents = node := Option.some.inj ((node?_set_self hne).symm.trans hnode)
  have hback : KeepsFolders (tree.set temporary (.file contents)) tree := fun found hfound =>
    (isFolderAt_set_file h hne contents found).symm.trans hfound
  refine ⟨rfl, rfl, folder ++ [name], ⟨folder, name, place_of_keepsFolders hback rfl hplace, rfl⟩,
    node?_set_self (by simp), fun found htarget => ?_⟩
  rw [node?_set_of_ne htarget]
  by_cases htemporary : found = temporary
  · -- what was beside the place is gone, and nothing was there before
    rw [htemporary, node?_unset_self hne,
      node?_of_isFree h hne (List.isPrefixOf_iff_prefix.2 (List.prefix_refl _))]
  · rw [node?_unset_of_ne htemporary, node?_set_of_ne htemporary]

/-- A file that was published is what has changed. -/
theorem changes_of_publish {written : Tree} {start ending : String} {contents : Contents}
    (h : tree.publish path start ending contents = (.ok (), written)) :
    ∃ address, IsPlaceOf path written address ∧ written.node? address = some (.file contents) ∧
      Changes (· = address) tree written := by
  have hstays := stays_publish h
  obtain ⟨temporary, hfresh, hne, hrename⟩ := rename_of_publish h
  obtain ⟨-, -, address, hplace, hnode, hothers⟩ :=
    saves_of_rename (isFree_of_freshAddress hfresh).1 hne hrename
  refine ⟨address, hplace.mono hstays, hnode, hstays, fun found => ?_⟩
  by_cases hfound : found = address
  · exact .inr hfound
  · exact .inl (hothers found hfound)

/-- A file that cannot be published has changed nothing. -/
theorem changes_of_publish_error {written : Tree} {start ending : String} {contents : Contents}
    {cause : Error} (h : tree.publish path start ending contents = (.error cause, written)) :
    Changes (fun _ => False) tree written := by
  rw [eq_of_publish_error h]
  exact .refl _ tree

/-! ## Folders on the way to a path -/

/-- Whether a folder has been made at an address that one of the paths leads to. -/
def IsNewFolder (paths : List Path) (tree other : Tree) (address : Address) : Prop :=
  tree.node? address = none ∧ ∃ path ∈ paths, other.find path = .ok (address, .folder)

/-- What has happened when a folder was made. -/
theorem makeFolder_eq_ok {made : Tree} (h : tree.makeFolder path = .ok made) :
    ∃ folder name slash, tree.place path = .ok ⟨folder, some name, slash⟩ ∧ isDots name = false ∧
      ¬ maxName < name.utf8ByteSize ∧ tree.node? (folder ++ [name]) = none ∧
      made = tree.set (folder ++ [name]) .folder := by
  obtain ⟨⟨folder, name?, slash⟩, hplace, h⟩ := exists_of_bind_eq_ok h
  cases name? with
  | none => cases h
  | some name =>
    simp only [bind, Except.bind, pure, Except.pure, throw, throwThe, MonadExceptOf.throw] at h
    split at h
    · cases h
    · next hdots =>
      split at h
      · cases h
      · next hlong =>
        split at h
        · cases h
        · next hnode =>
          exact ⟨folder, name, slash, hplace, Bool.not_eq_true _ ▸ hdots, hlong, hnode,
            (Except.ok.inj h).symm⟩

/-- A folder in the place of something takes no folder away. -/
theorem stays_set_folder (hne : address ≠ []) : Stays tree (tree.set address .folder) := by
  refine ⟨fun found hfolder => ?_, rfl⟩
  rw [isFolderAt_eq_true] at hfolder ⊢
  by_cases hfound : found = address
  · rw [hfound, node?_set_self hne]
  · rw [node?_set_of_ne hfound, hfolder]

/-- Making a folder changes nothing else. -/
theorem changes_of_makeFolder {made : Tree} (h : tree.makeFolder path = .ok made) :
    Changes (IsNewFolder [path] tree made) tree made := by
  obtain ⟨folder, name, slash, hplace, hdots, hlong, hnode, rfl⟩ := makeFolder_eq_ok h
  have hne : folder ++ [name] ≠ [] := by simp
  have hstays : Stays tree (tree.set (folder ++ [name]) .folder) := stays_set_folder hne
  refine ⟨hstays, fun found => ?_⟩
  by_cases hfound : found = folder ++ [name]
  · subst hfound
    refine .inr ⟨hnode, path, List.mem_singleton_self path, ?_⟩
    exact find_of_place (place_of_keepsFolders hstays.keepsFolders hstays.current_eq hplace) hdots hlong
      (node?_set_self hne)
  · exact .inl (node?_set_of_ne hfound)

/-- This is so as well if it is fine that the folder is there. -/
theorem changes_of_settle {made : Tree} {result : Except Error Unit}
    (h : tree.settle path (tree.makeFolder path) = (result, made)) :
    Changes (IsNewFolder [path] tree made) tree made := by
  match hmake : tree.makeFolder path with
  | .ok next =>
    rw [hmake, settle] at h
    obtain rfl := (Prod.mk.inj h).2
    exact changes_of_makeFolder hmake
  | .error cause =>
    rw [hmake, settle] at h
    obtain rfl := (Prod.mk.inj h).2
    exact .refl _ tree

/-- Folders that were made first are still new behind further ones. -/
theorem IsNewFolder.mono {paths all : List Path} (h : IsNewFolder paths tree other address)
    (hpaths : paths ⊆ all) (hstays : Stays other last) : IsNewFolder all tree last address := by
  obtain ⟨hnew, path, hpath, hfind⟩ := h
  exact ⟨hnew, path, hpaths hpath, find_of_stays hstays hfind⟩

/-- Making a folder and those above it, whether it succeeds or not, by induction on the folders. -/
theorem changes_of_makeFolderChain {paths : List Path} {result : Except Error Unit} {made : Tree}
    (h : tree.makeFolderChain paths = (result, made)) : Changes (IsNewFolder paths tree made) tree made := by
  induction paths generalizing result made with
  | nil =>
    obtain rfl := (Prod.mk.inj h).2
    exact .refl _ tree
  | cons path above ih =>
    have hhere : [path] ⊆ path :: above := List.cons_subset.2 ⟨List.mem_cons_self, List.nil_subset _⟩
    have habove : above ⊆ path :: above := List.subset_cons_self path above
    -- the path alone is made first; if a folder above is missing, those above and then the path again
    rw [makeFolderChain] at h
    split at h
    · obtain rfl := (Prod.mk.inj h).2
      exact .refl _ tree
    · split at h
      · next hmissing =>
        split at h
        · next cause between hchain =>
          obtain rfl := (Prod.mk.inj h).2
          exact (ih hchain).mono fun _ hnew => hnew.mono habove (.refl between)
        · next between hchain =>
          have hfirst := ih hchain
          have hsecond := changes_of_settle h
          refine hfirst.trans hsecond (fun found hnew _ => hnew.mono habove hsecond.stays) ?_
          rintro found ⟨hnone, hfind⟩
          refine IsNewFolder.mono ⟨?_, hfind⟩ hhere (.refl made)
          -- new to the tree between is new to the first one, or was made with those above
          rcases hfirst.node?_eq_or found with hsame | hnew
          · rw [← hsame, hnone]
          · exact hnew.1
      · exact (changes_of_settle h).mono fun _ hnew => hnew.mono hhere (.refl made)

/-- Making a folder and those above it makes at most folders on the way to it. -/
theorem changes_of_makeFolders {result : Except Error Unit} {made : Tree}
    (h : tree.makeFolders path = (result, made)) :
    Changes (IsNewFolder path.ancestors tree made) tree made :=
  changes_of_makeFolderChain h

/-! ## Folders for temporary files -/

section Scratch

variable {start : String} {made : Tree}

/-- Nothing is left of a folder that is removed, nor in it. -/
theorem node?_removeFolder_of_isPrefixOf (hne : address ≠ []) {found : Address}
    (h : address.isPrefixOf found = true) : (tree.removeFolder address).node? found = none := by
  have hfound : found ≠ [] := by
    rintro rfl
    obtain ⟨name, rest, rfl⟩ := List.exists_cons_of_ne_nil hne
    cases h
  rw [node?, if_neg hfound, removeFolder, List.lookup_eq_none_iff]
  intro entry hentry
  have hkept := (List.mem_filter.1 hentry).2
  refine bne_iff_ne.2 fun heq => ?_
  rw [← heq, h] at hkept
  cases hkept

/-- What was changed while there was a folder for temporary files is changed after it, unless it was
in that folder. -/
theorem changes_removeFolder {changed all : Address → Prop}
    (hmade : tree.makeScratch start = .ok (address, path, made)) (h : Changes changed made last)
    (himp : ∀ found, changed found → address.isPrefixOf found = true ∨ all found) :
    Changes all tree (last.removeFolder address) := by
  refine ⟨stays_removeFolder hmade h.stays, fun found => ?_⟩
  obtain ⟨hfree, hne, rfl⟩ := makeScratch_eq_ok hmade
  -- in the folder there was nothing before and is nothing after; outside of it removing changes nothing
  cases hstarts : address.isPrefixOf found with
  | true =>
    exact .inl ((node?_removeFolder_of_isPrefixOf hne hstarts).trans
      (node?_of_isFree hfree hne hstarts).symm)
  | false =>
    rw [node?_removeFolder hstarts]
    have hfound : found ≠ address := by
      rintro rfl
      rw [List.isPrefixOf_iff_prefix.2 (List.prefix_refl _)] at hstarts
      cases hstarts
    rcases h.node?_eq_or found with hsame | hchanged
    · exact .inl (hsame.trans (node?_set_of_ne hfound))
    · exact (himp found hchanged).elim (fun h => by rw [hstarts] at h; cases h) .inr

/-- A file that was published is read after a folder is removed whose name its path does not take. -/
theorem read_removeFolder_of_not_mem {before written : Tree} {ending : String} {contents : Contents}
    (hpublish : before.publish path start ending contents = (.ok (), written)) {folder : Address}
    {name : String} (hcurrent : name ∉ written.current) (hnames : name ∉ path.names) :
    (written.removeFolder (folder ++ [name])).read path = .ok contents := by
  obtain ⟨parent, last, temporary, -, hplace, hdots, hlong, hnode, -, -⟩ := publish_eq_ok hpublish
  have hthere : IsPlaceOf path written (parent ++ [last]) := ⟨parent, last, hplace, rfl⟩
  refine read_eq_ok ((place_removeFolder hcurrent hnames).trans hplace) hdots hlong ?_
  rw [node?_removeFolder (hthere.not_isPrefixOf hcurrent hnames), hnode]

/-- The folder for temporary files is at a fresh address. -/
theorem freshAddress_of_makeScratch (h : tree.makeScratch start = .ok (address, path, made)) :
    tree.freshAddress tree.temporary start "" = .ok address := by
  obtain ⟨fresh, hfresh, hmade⟩ := exists_of_bind_eq_ok h
  rw [hfresh, (Prod.mk.inj (Except.ok.inj hmade)).1]

/-- The folder for temporary files has a name of letters and digits behind its start, in the folder for
such files. -/
theorem exists_of_makeScratch (hslash : '/' ∉ start.toList) (hne : start ≠ "")
    (h : tree.makeScratch start = .ok (address, path, made)) :
    ∃ folder, ∃ drawn : String, (∀ c ∈ drawn.toList, c.isAlphanum = true) ∧
      tree.walk (if tree.temporary.isAbsolute then [] else tree.current) tree.temporary.names
        = .ok folder ∧ tree.isFolderAt folder = true ∧ address = folder ++ [start ++ drawn] ∧
      path = tree.temporary.child (start ++ drawn) := by
  obtain ⟨fresh, hfresh, hmade⟩ := exists_of_bind_eq_ok h
  obtain ⟨place, hplace, hplaced⟩ := exists_of_bind_eq_ok hfresh
  obtain ⟨hwalk, hfolder, -⟩ := place_eq_ok hplace
  obtain ⟨drawn, hdrawn, hname⟩ := exists_freshName_eq tree place.folder start ""
  rw [String.append_empty] at hname
  -- the name is found from a path with the start alone, which has the same folder
  rw [String.append_empty] at hwalk
  have hnames := Path.names_child tree.temporary hslash hne
  refine ⟨place.folder, drawn, hdrawn, ?_, hfolder, ?_⟩
  · rw [walkTo, Path.isAbsolute_child _ hslash] at hwalk
    have hdropped : (tree.temporary.child start).names.dropLast = tree.temporary.names := by
      rw [hnames, List.dropLast_concat]
    rw [← hdropped]
    exact hwalk
  · obtain rfl := Except.ok.inj hplaced
    obtain ⟨rfl, hpath⟩ := Prod.mk.inj (Except.ok.inj hmade)
    rw [hname] at hpath ⊢
    exact ⟨rfl, by simpa using (Prod.mk.inj hpath).1.symm⟩

/-- A file in the folder for temporary files is placed at the address of that. -/
theorem folder_of_place_child {c : Char} (hslash : '/' ∉ start.toList)
    (hfirst : start.toList.head? = some c) (hdot : c ≠ '.')
    (hmade : tree.makeScratch start = .ok (address, path, made)) (hstays : Stays tree other)
    {name : String} (hname : '/' ∉ name.toList ∧ name ≠ "") {found : Place}
    (hplace : other.place (path.child name) = .ok found) : found.folder = address := by
  have hne : start ≠ "" := by
    rintro rfl
    cases hfirst
  obtain ⟨folder, drawn, hdrawn, hwalk, hfolder, rfl, rfl⟩ := exists_of_makeScratch hslash hne hmade
  have hthis : '/' ∉ (start ++ drawn).toList ∧ start ++ drawn ≠ "" := by
    refine ⟨?_, fun hempty => hne (String.append_eq_empty_iff.1 hempty).1⟩
    rw [String.toList_append, List.mem_append, not_or]
    exact ⟨hslash, fun hmem => absurd (hdrawn _ hmem) (by decide)⟩
  have hdots : isDots (start ++ drawn) = false := by
    obtain ⟨rest, hrest⟩ := List.head?_eq_some_iff.1 hfirst
    rw [isDots, Bool.or_eq_false_iff, beq_eq_false_iff_ne, beq_eq_false_iff_ne]
    constructor <;>
    · intro heq
      have hchars := congrArg String.toList heq
      rw [String.toList_append, hrest, List.cons_append] at hchars
      exact hdot (List.cons.inj hchars).1
  obtain ⟨hwalked, -, -⟩ := place_eq_ok hplace
  have hthere := walk_of_keepsFolders hstays.keepsFolders hwalk hfolder
  have hnames : ((tree.temporary.child (start ++ drawn)).child name).names.dropLast
      = tree.temporary.names ++ [start ++ drawn] := by
    rw [Path.names_child _ hname.1 hname.2, List.dropLast_concat, Path.names_child _ hthis.1 hthis.2]
  have hway : other.walkTo ((tree.temporary.child (start ++ drawn)).child name)
      = other.enter folder (start ++ drawn) := by
    rw [walkTo, Path.isAbsolute_child _ hname.1, Path.isAbsolute_child _ hthis.1, hstays.current_eq]
    show other.walk _ ((tree.temporary.child (start ++ drawn)).child name).names.dropLast = _
    rw [hnames, walk_append, hthere]
    rfl
  -- the walk takes the name of the folder last, which is a name and not dots
  rw [hway] at hwalked
  exact eq_of_enter hwalked hdots

end Scratch

end SlideDeck.File.Tree
