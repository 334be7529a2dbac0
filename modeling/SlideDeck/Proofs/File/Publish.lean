import SlideDeck.File.Tree
import SlideDeck.Proofs.Outcome

/-!
# What is published can be read

Publishing a file changes what is found at two addresses, neither of which is that of a folder. Walks
pass folders only, so that the path still leads to where the file was put (`read_of_publish`).
-/

namespace SlideDeck.File.Tree

variable {tree other : Tree} {address : Address} {node : Node}

/-! ## Single changes -/

/-- Replacing what is at an address changes only what is found there. -/
theorem lookup_map_replace (nodes : List (Address × Node)) (address sought : Address) (node : Node) :
    (nodes.map fun entry => if entry.1 = address then (address, node) else entry).lookup sought
      = if sought = address then (nodes.lookup sought).map fun _ => node else nodes.lookup sought := by
  induction nodes with
  | nil => split <;> rfl
  | cons entry nodes ih =>
    obtain ⟨found, held⟩ := entry
    rw [List.map_cons, List.lookup_cons]
    by_cases hfound : found = address
    · subst hfound
      rw [if_pos rfl, List.lookup_cons]
      by_cases hsought : sought = found
      · subst hsought
        simp
      · have hne : (sought == found) = false := beq_eq_false_iff_ne.2 hsought
        simp only [hne, ih, if_neg hsought]
    · rw [if_neg hfound, List.lookup_cons]
      by_cases hsought : sought = found
      · subst hsought
        simp [hfound]
      · have hne : (sought == found) = false := beq_eq_false_iff_ne.2 hsought
        simp only [hne, ih]

/-- Something is found at an address if an entry has it. -/
theorem lookup_isSome_iff (nodes : List (Address × Node)) (address : Address) :
    (nodes.lookup address).isSome = true ↔ nodes.any (·.1 == address) = true := by
  induction nodes with
  | nil => simp
  | cons entry nodes ih =>
    obtain ⟨found, held⟩ := entry
    rw [List.lookup_cons, List.any_cons]
    by_cases hfound : address = found
    · subst hfound
      simp
    · have hne : (address == found) = false := beq_eq_false_iff_ne.2 hfound
      have hne' : (found == address) = false := beq_eq_false_iff_ne.2 (Ne.symm hfound)
      simp only [hne, hne', Bool.false_or, ih]

/-- What is put at an address is found there. -/
theorem node?_set_self (h : address ≠ []) : (tree.set address node).node? address = some node := by
  rw [node?, if_neg h, set]
  by_cases hany : tree.nodes.any (·.1 == address) = true
  · obtain ⟨held, hheld⟩ := Option.isSome_iff_exists.1 ((lookup_isSome_iff _ _).2 hany)
    simp only [if_pos hany, lookup_map_replace, ite_true, hheld, Option.map_some]
  · have hnone : tree.nodes.lookup address = none := by
      rw [← Option.not_isSome_iff_eq_none, lookup_isSome_iff]
      exact hany
    simp only [if_neg hany, List.lookup_append, hnone, Option.none_or]
    simp

/-- At other addresses all is as it was. -/
theorem node?_set_of_ne {sought : Address} (h : sought ≠ address) :
    (tree.set address node).node? sought = tree.node? sought := by
  rw [node?, node?, set]
  by_cases hany : tree.nodes.any (·.1 == address) = true
  · simp only [if_pos hany, lookup_map_replace, if_neg h]
  · have hne : (sought == address) = false := beq_eq_false_iff_ne.2 h
    simp only [if_neg hany, List.lookup_append]
    simp [List.lookup_cons, hne]

/-- Removing something changes nothing at other addresses. -/
theorem node?_unset_of_ne {sought : Address} (h : sought ≠ address) :
    (tree.unset address).node? sought = tree.node? sought := by
  rw [node?, node?, unset]
  congr 1
  induction tree.nodes with
  | nil => rfl
  | cons entry nodes ih =>
    obtain ⟨found, held⟩ := entry
    by_cases hfound : found = address
    · subst hfound
      have hne : (sought == found) = false := beq_eq_false_iff_ne.2 h
      rw [List.filter_cons_of_neg (by simp), List.lookup_cons, hne, ih]
    · rw [List.filter_cons_of_pos (by simpa using hfound), List.lookup_cons, List.lookup_cons, ih]

/-- What is removed is no longer found. -/
theorem node?_unset_self (h : address ≠ []) : (tree.unset address).node? address = none := by
  rw [node?, if_neg h, unset, List.lookup_eq_none_iff]
  intro entry hentry
  have hne := (List.mem_filter.1 hentry).2
  exact bne_iff_ne.2 (bne_iff_ne.1 hne).symm

theorem isFolderAt_eq_true : tree.isFolderAt address = true ↔ tree.node? address = some .folder := by
  rw [isFolderAt]
  split
  · next h => simp [h]
  · next h => simpa using h

/-! ## Walks -/

/-- Whether the folders of one tree are folders of another. -/
def KeepsFolders (tree other : Tree) : Prop :=
  ∀ address, tree.isFolderAt address = true → other.isFolderAt address = true

/-- A name that leads to a folder leads there in every tree with the same folders. -/
theorem enter_of_keepsFolders (h : KeepsFolders tree other) {folder next : Address} {name : String}
    (henter : tree.enter folder name = .ok next) (hnext : tree.isFolderAt next = true) :
    other.enter folder name = .ok next := by
  -- every test comes out the same, as the folder and what the name leads to are folders of both
  rw [enter] at henter ⊢
  by_cases hfolder : tree.isFolderAt folder = true
  · rw [h folder hfolder]
    rw [hfolder] at henter
    simp only [Bool.not_true, Bool.false_eq_true, ite_false] at henter ⊢
    split at henter
    · next hdot =>
      rw [if_pos hdot]
      exact henter
    · next hdot =>
      rw [if_neg hdot]
      split at henter
      · next hdots =>
        rw [if_pos hdots]
        exact henter
      · next hdots =>
        rw [if_neg hdots]
        split at henter
        · cases henter
        · next hlong =>
          rw [if_neg hlong]
          split at henter
          · obtain rfl := Except.ok.inj henter
            rw [isFolderAt_eq_true.1 (h _ hnext)]
          · cases henter
  · rw [if_pos (by simpa using hfolder)] at henter
    cases henter

/-- Every walk to a folder passes folders only. -/
theorem isFolderAt_of_walk {folder dest : Address} {names : List String}
    (hwalk : tree.walk folder names = .ok dest) (hdest : tree.isFolderAt dest = true) :
    tree.isFolderAt folder = true := by
  cases names with
  | nil =>
    obtain rfl := Except.ok.inj hwalk
    exact hdest
  | cons name names =>
    obtain ⟨next, henter, -⟩ := exists_of_bind_eq_ok hwalk
    by_contra hfolder
    rw [enter, if_pos (by simpa using hfolder)] at henter
    cases henter

/-- A walk to a folder is the same in every tree with the folders of this one, as all on its way are
folders. -/
theorem walk_of_keepsFolders (h : KeepsFolders tree other) {folder dest : Address}
    {names : List String} (hwalk : tree.walk folder names = .ok dest)
    (hdest : tree.isFolderAt dest = true) : other.walk folder names = .ok dest := by
  induction names generalizing folder with
  | nil => exact hwalk
  | cons name names ih =>
    obtain ⟨next, henter, hrest⟩ := exists_of_bind_eq_ok hwalk
    have hnext := isFolderAt_of_walk hrest hdest
    rw [walk, enter_of_keepsFolders h henter hnext]
    exact ih hrest

/-- The checks of `place` one after the other. -/
theorem place_eq (tree : Tree) (path : Path) :
    tree.place path =
      if path.text.toList.contains '\x00' then .error .zeroInName
      else if path.text.isEmpty then .error .notFound
      else if maxPath < path.text.utf8ByteSize then .error .nameTooLong
      else match tree.walk (if path.isAbsolute then [] else tree.current)
        ((path.segments.filter (· ≠ [])).map String.ofList).dropLast with
        | .error fault => .error fault
        | .ok folder =>
          if tree.isFolderAt folder then
            .ok ⟨folder, ((path.segments.filter (· ≠ [])).map String.ofList).getLast?,
              path.text.toList.getLast? = some '/'⟩
          else .error .notAFolder := by
  rw [place]
  by_cases hzero : path.text.toList.contains '\x00' = true
  · rw [if_pos hzero, if_pos hzero]
    rfl
  · rw [if_neg hzero, if_neg hzero]
    by_cases hempty : path.text.isEmpty = true
    · rw [if_pos hempty, if_pos hempty]
      rfl
    · rw [if_neg hempty, if_neg hempty]
      by_cases hlong : maxPath < path.text.utf8ByteSize
      · rw [if_pos hlong, if_pos hlong]
        rfl
      · rw [if_neg hlong, if_neg hlong]
        cases hwalk : tree.walk (if path.isAbsolute then [] else tree.current)
            ((path.segments.filter (· ≠ [])).map String.ofList).dropLast with
        | error fault =>
          simp only [bind, Except.bind, hwalk]
        | ok folder =>
          simp only [bind, Except.bind, hwalk]
          cases hfolder : tree.isFolderAt folder <;> rfl

/-- The folder and the names that a path is walked from and along, up to its last name. -/
def walkTo (tree : Tree) (path : Path) : Except Error Address :=
  tree.walk (if path.isAbsolute then [] else tree.current)
    ((path.segments.filter (· ≠ [])).map String.ofList).dropLast

/-- A place is at the end of a walk to a folder, and is the same in every tree with such a walk. -/
theorem place_eq_ok {path : Path} {found : Place} (hplace : tree.place path = .ok found) :
    tree.walkTo path = .ok found.folder ∧ tree.isFolderAt found.folder = true ∧
      ∀ other : Tree, other.walkTo path = .ok found.folder → other.isFolderAt found.folder = true →
        other.place path = .ok found := by
  -- only the last branch gives a place; it is taken again in the other tree
  rw [place_eq] at hplace
  split at hplace
  · cases hplace
  · next hzero =>
    split at hplace
    · cases hplace
    · next hempty =>
      split at hplace
      · cases hplace
      · next hlong =>
        split at hplace
        · cases hplace
        · next folder hwalk =>
          split at hplace
          · next hfolder =>
            obtain rfl := Except.ok.inj hplace
            refine ⟨hwalk, hfolder, fun other hother hthere => ?_⟩
            rw [walkTo] at hother
            rw [place_eq, if_neg hzero, if_neg hempty, if_neg hlong, hother]
            exact if_pos hthere
          · cases hplace

/-- So a path that leads to a place leads to it in all these trees. -/
theorem place_of_keepsFolders (h : KeepsFolders tree other) (hcurrent : other.current = tree.current)
    {path : Path} {found : Place} (hplace : tree.place path = .ok found) :
    other.place path = .ok found := by
  obtain ⟨hwalk, hfolder, hsame⟩ := place_eq_ok hplace
  refine hsame other ?_ (h _ hfolder)
  rw [walkTo, hcurrent]
  exact walk_of_keepsFolders h hwalk hfolder

/-! ## Files -/

/-- A path to a file whose last name is no dots is read at the address of that name. -/
theorem read_eq_ok {path : Path} {folder : Address} {name : String} {contents : Contents}
    (hplace : tree.place path = .ok ⟨folder, some name, false⟩) (hdots : isDots name = false)
    (hlong : ¬ maxName < name.utf8ByteSize)
    (hfile : tree.node? (folder ++ [name]) = some (.file contents)) :
    tree.read path = .ok contents := by
  obtain ⟨-, hfolder, -⟩ := place_eq_ok hplace
  rw [isDots, Bool.or_eq_false_iff, beq_eq_false_iff_ne, beq_eq_false_iff_ne] at hdots
  have henter : tree.enter folder name = .ok (folder ++ [name]) := by
    rw [enter, hfolder]
    simp only [Bool.not_true, Bool.false_eq_true, ite_false, if_neg hdots.1, if_neg hdots.2,
      if_neg hlong, hfile]
  have hfind : tree.find path = .ok (folder ++ [name], .file contents) := by
    rw [find, hplace]
    simp only [bind, Except.bind, henter, hfile]
    rfl
  rw [read, hfind]
  rfl

/-- What a rename that succeeds does: it leads to a place that is no folder, and moves the file. -/
theorem rename_eq_ok {source : Address} {target : Path} (h : tree.rename source target = .ok other) :
    ∃ folder name node, tree.place target = .ok ⟨folder, some name, false⟩ ∧ isDots name = false ∧
      ¬ maxName < name.utf8ByteSize ∧ tree.node? (folder ++ [name]) ≠ some .folder ∧
      tree.node? source = some node ∧ other = (tree.unset source).set (folder ++ [name]) node := by
  rw [rename] at h
  split at h
  · cases h
  · -- each test that is passed is one of the facts to show
    obtain ⟨⟨folder, name?, slash⟩, hplace, h⟩ := exists_of_bind_eq_ok h
    cases name? with
    | none => cases h
    | some name =>
      simp only [bind, Except.bind, pure, Except.pure, throw, throwThe, MonadExceptOf.throw] at h
      split at h
      · cases h
      · next hdots =>
        split at h
        · cases h
        · next hlong =>
          split at h
          · cases h
          · next hslash =>
            split at h
            · cases h
            · next node hnode hfree =>
              obtain rfl := Except.ok.inj h
              rw [Bool.not_eq_true] at hslash
              rw [Bool.not_eq_true] at hdots
              subst hslash
              exact ⟨folder, name, node, hplace, hdots, hlong, hfree, hnode, rfl⟩
            · cases h

/-- Moving a file to a place that is no folder keeps all folders. -/
theorem keepsFolders_move {source : Address} {contents : Contents}
    (hnode : tree.node? source = some (.file contents)) (hfree : tree.node? address ≠ some .folder) :
    KeepsFolders tree ((tree.unset source).set address (.file contents)) := by
  intro found hfolder
  rw [isFolderAt_eq_true] at hfolder ⊢
  have hfirst : found ≠ address := fun heq => hfree (heq ▸ hfolder)
  have hsecond : found ≠ source := by
    intro heq
    rw [heq, hnode] at hfolder
    cases hfolder
  rw [node?_set_of_ne hfirst, node?_unset_of_ne hsecond, hfolder]

/-- Publishing a file fails with no change if no file can be beside the place. -/
theorem publish_of_freshAddress_error {path : Path} {start ending : String} {contents : Contents}
    {cause : Error} (h : tree.freshAddress path.folder start ending = .error cause) :
    tree.publish path start ending contents = (.error cause, tree) := by
  unfold publish
  rw [h]

/-- Publishing a file is moving it, once it is beside its place and has not failed before. -/
theorem publish_of_freshAddress {path : Path} {start ending : String} {contents : Contents}
    {temporary : Address} (h : tree.freshAddress path.folder start ending = .ok temporary) :
    tree.publish path start ending contents =
      match tree.circumstances.mishap? path contents with
      | some mishap =>
        (.error (.other mishap.wording),
          (tree.set temporary (.file mishap.contents)).unset temporary)
      | none =>
        match (tree.set temporary (.file contents)).rename temporary path with
        | .ok renamed => (.ok (), renamed)
        | .error cause => (.error cause, (tree.set temporary (.file contents)).unset temporary) := by
  unfold publish
  generalize tree.freshAddress path.folder start ending = found at h ⊢
  subst h
  rfl

/-- Publishing a file is putting it beside its place and renaming it. -/
theorem rename_of_publish {written : Tree} {path : Path} {start ending : String} {contents : Contents}
    (h : tree.publish path start ending contents = (.ok (), written)) :
    ∃ temporary, tree.freshAddress path.folder start ending = .ok temporary ∧ temporary ≠ [] ∧
      (tree.set temporary (.file contents)).rename temporary path = .ok written := by
  cases hfresh : tree.freshAddress path.folder start ending with
  | error cause =>
    rw [publish_of_freshAddress_error hfresh] at h
    exact nomatch (Prod.mk.inj h).1
  | ok temporary =>
    rw [publish_of_freshAddress hfresh] at h
    split at h
    · exact nomatch (Prod.mk.inj h).1
    · split at h
      · next renamed hrename =>
        obtain rfl : renamed = written := (Prod.mk.inj h).2
        obtain ⟨place, -, hplaced⟩ := exists_of_bind_eq_ok hfresh
        have htemporary : temporary ≠ [] := by
          rw [← Except.ok.inj hplaced]
          simp
        exact ⟨temporary, rfl, htemporary, hrename⟩
      · exact nomatch (Prod.mk.inj h).1

/-- Where a file was published, and that it is there. -/
theorem publish_eq_ok {tree written : Tree} {path : Path} {start ending : String} {contents : Contents}
    (h : tree.publish path start ending contents = (.ok (), written)) :
    ∃ folder name temporary, tree.freshAddress path.folder start ending = .ok temporary ∧
      written.place path = .ok ⟨folder, some name, false⟩ ∧ isDots name = false ∧
      ¬ maxName < name.utf8ByteSize ∧ written.node? (folder ++ [name]) = some (.file contents) ∧
      KeepsFolders (tree.set temporary (.file contents)) written ∧ written.current = tree.current := by
  obtain ⟨temporary, hfresh, htemporary, hrename⟩ := rename_of_publish h
  obtain ⟨folder, name, node, hplace, hdots, hlong, hfree, hnode, rfl⟩ := rename_eq_ok hrename
  obtain rfl : .file contents = node :=
    Option.some.inj ((node?_set_self htemporary).symm.trans hnode)
  have htarget : folder ++ [name] ≠ [] := by simp
  have hkeeps := keepsFolders_move hnode hfree
  exact ⟨folder, name, temporary, hfresh, place_of_keepsFolders hkeeps rfl hplace, hdots, hlong,
    node?_set_self htarget, hkeeps, rfl⟩

/-- A file that was published is read at its path. -/
theorem read_of_publish {tree written : Tree} {path : Path} {start ending : String}
    {contents : Contents} (h : tree.publish path start ending contents = (.ok (), written)) :
    written.read path = .ok contents := by
  obtain ⟨folder, name, temporary, -, hplace, hdots, hlong, hnode, -, -⟩ := publish_eq_ok h
  exact read_eq_ok hplace hdots hlong hnode

end SlideDeck.File.Tree
