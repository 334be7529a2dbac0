import SlideDeck.Proofs.File.Publish
import SlideDeck.Proofs.Number.Digits
import SlideDeck.Proofs.Number.Vacancy

/-!
# Temporary files and folders

Temporary files and folders get names that nothing has, so that writing a file keeps all folders
(`stays_publish`) and leaves all as it was if it fails (`eq_of_publish_error`). A file that is written
while there is a folder for temporary files is still there once that folder is removed
(`read_removeFolder`), unless it was put into it.
-/

namespace SlideDeck.File.Tree

variable {tree : Tree} {address : Address}

/-! ## Fresh names -/

/-- Names that differ in nothing but their numbers are different. -/
theorem numbered_injective {start ending : String} {m n : Nat}
    (h : start ++ toString m ++ ending = start ++ toString n ++ ending) : m = n := by
  have hlists := congrArg String.toList h
  rw [String.toList_append, String.toList_append, String.toList_append, String.toList_append,
    List.append_cancel_right_eq, List.append_cancel_left_eq] at hlists
  exact Number.toString_injective (String.toList_injective hlists)

/-- What is at an address or below it has the last name of the address in its place. -/
theorem getElem?_of_isPrefixOf {folder found : Address} {name : String}
    (h : (folder ++ [name]).isPrefixOf found = true) : found[folder.length]? = some name := by
  obtain ⟨rest, rfl⟩ := List.isPrefixOf_iff_prefix.1 h
  rw [List.append_assoc, List.getElem?_append_right (Nat.le_refl _), Nat.sub_self]
  rfl

/-- Nothing is at a fresh name or below it, be it the name that was drawn or one with a number. -/
theorem isFree_freshName (tree : Tree) (folder : Address) (start ending : String) :
    tree.isFree (folder ++ [tree.freshName folder start ending]) = true := by
  have hunique : ∀ entry ∈ tree.nodes, ∀ m n : Nat,
      (folder ++ [start ++ toString m ++ ending]).isPrefixOf entry.1 = true →
      (folder ++ [start ++ toString n ++ ending]).isPrefixOf entry.1 = true → m = n := by
    intro entry _ m n hm hn
    have hname := (getElem?_of_isPrefixOf hm).symm.trans (getElem?_of_isPrefixOf hn)
    exact numbered_injective (Option.some.inj hname)
  obtain ⟨k, hk, hvacant⟩ := Number.exists_vacancy tree.nodes hunique 0
  rw [Nat.zero_add] at hvacant
  have hfree : tree.isFree (folder ++ [start ++ toString k ++ ending]) = true := by
    rw [isFree, Bool.not_eq_true', List.any_eq_false]
    exact hvacant
  rw [freshName]
  split
  · next hdrawn => exact hdrawn
  · match hfind : (List.range (tree.nodes.length + 1)).find? fun n =>
        tree.isFree (folder ++ [start ++ toString n ++ ending]) with
    | some number =>
      have hfound := List.find?_some hfind
      exact hfound
    | none => exact absurd hfree (List.find?_eq_none.1 hfind k (List.mem_range.2 hk))

/-- A fresh name has letters and digits between its start and its ending. -/
theorem exists_freshName_eq (tree : Tree) (folder : Address) (start ending : String) :
    ∃ middle : String, (∀ c ∈ middle.toList, c.isAlphanum = true) ∧
      tree.freshName folder start ending = start ++ middle ++ ending := by
  rw [freshName]
  split
  · exact ⟨_, tree.circumstances.letters.isAlphanum, rfl⟩
  · refine ⟨_, fun c hc => ?_, rfl⟩
    rw [Char.isAlphanum, Number.isDigit_of_mem_toString hc, Bool.or_true]

/-- The same files and folders, with these letters drawn for names. -/
def drawing (tree : Tree) (letters : Letters) : Tree :=
  { tree with circumstances := { tree.circumstances with letters } }

/-- A name with the letters that are drawn is fresh if nothing is called so anywhere. -/
theorem freshName_drawing {letters : Letters} {start ending : String}
    (h : ∀ entry ∈ tree.nodes, start ++ letters.text ++ ending ∉ entry.1) (folder : Address) :
    (tree.drawing letters).freshName folder start ending = start ++ letters.text ++ ending := by
  have hfree : (tree.drawing letters).isFree (folder ++ [start ++ letters.text ++ ending]) = true := by
    rw [isFree, Bool.not_eq_true', List.any_eq_false]
    intro entry hentry hstarts
    exact h entry hentry (List.mem_of_getElem? (getElem?_of_isPrefixOf hstarts))
  rw [freshName]
  exact if_pos hfree

/-- There is nothing at a fresh address or below it. -/
theorem isFree_of_freshAddress {folder : Path} {start ending : String}
    (h : tree.freshAddress folder start ending = .ok address) :
    tree.isFree address = true ∧ address ≠ [] := by
  obtain ⟨place, -, hplaced⟩ := exists_of_bind_eq_ok h
  obtain rfl := Except.ok.inj hplaced
  exact ⟨isFree_freshName tree place.folder start ending, by simp⟩

/-- A file that is put at a free address and removed again leaves nothing behind. -/
theorem unset_set (h : tree.isFree address = true) (node : Node) :
    (tree.set address node).unset address = tree := by
  have hnone : ∀ entry ∈ tree.nodes, entry.1 ≠ address := by
    rw [isFree, Bool.not_eq_true', List.any_eq_false] at h
    rintro entry hentry rfl
    exact h entry hentry (List.isPrefixOf_iff_prefix.2 (List.prefix_refl _))
  have hany : ¬ tree.nodes.any (·.1 == address) = true := by
    rw [List.any_eq_true]
    rintro ⟨entry, hentry, heq⟩
    exact hnone entry hentry (beq_iff_eq.1 heq)
  have hkept : tree.nodes.filter (·.1 != address) = tree.nodes :=
    List.filter_eq_self.2 fun entry hentry => bne_iff_ne.2 (hnone entry hentry)
  rw [unset, set, if_neg hany]
  simp only [List.filter_append, hkept, List.filter_cons, bne_self_eq_false, Bool.false_eq_true, ite_false,
    List.filter_nil, List.append_nil]

/-- If a file cannot be published, all is as it was: the file beside its place is removed again. -/
theorem eq_of_publish_error {written : Tree} {path : Path} {start ending : String} {contents : Contents}
    {cause : Error} (h : tree.publish path start ending contents = (.error cause, written)) :
    written = tree := by
  cases hfresh : tree.freshAddress path.folder start ending with
  | error fault =>
    rw [publish_of_freshAddress_error hfresh] at h
    exact (Prod.mk.inj h).2.symm
  | ok temporary =>
    have hremoved := unset_set (isFree_of_freshAddress hfresh).1
    simp only [publish_of_freshAddress hfresh, hremoved] at h
    split at h
    · exact (Prod.mk.inj h).2.symm
    · split at h
      · exact nomatch (Prod.mk.inj h).1
      · exact (Prod.mk.inj h).2.symm

/-- What is found at an address other than the root is an entry. -/
theorem mem_nodes_of_node? {found : Address} {node : Node} (h : tree.node? found = some node)
    (hne : found ≠ []) : (found, node) ∈ tree.nodes := by
  rw [node?, if_neg hne] at h
  obtain ⟨before, after, hnodes, -⟩ := List.lookup_eq_some_iff.1 h
  rw [hnodes]
  exact List.mem_append_right _ List.mem_cons_self

/-- No folder is at a free address or below it. -/
theorem not_isPrefixOf_of_isFolderAt (h : tree.isFree address = true) (hne : address ≠ [])
    {folder : Address} (hfolder : tree.isFolderAt folder = true) : address.isPrefixOf folder = false := by
  by_cases hempty : folder = []
  · subst hempty
    obtain ⟨name, rest, rfl⟩ := List.exists_cons_of_ne_nil hne
    rfl
  · have hmem := mem_nodes_of_node? (isFolderAt_eq_true.1 hfolder) hempty
    rw [isFree, Bool.not_eq_true', List.any_eq_false] at h
    exact Bool.not_eq_true _ ▸ h _ hmem

/-! ## Folders that stay -/

/-- Whether the folders of one tree are folders of another, and paths count from the same one. -/
structure Stays (tree other : Tree) : Prop where
  keepsFolders : KeepsFolders tree other
  current_eq : other.current = tree.current

namespace Stays

variable {other last : Tree}

theorem refl (tree : Tree) : Stays tree tree := ⟨fun _ h => h, rfl⟩

theorem trans (h : Stays tree other) (h' : Stays other last) : Stays tree last :=
  ⟨fun _ hfolder => h'.keepsFolders _ (h.keepsFolders _ hfolder), h'.current_eq.trans h.current_eq⟩

/-- Something new at a free address changes no folder. -/
theorem set (h : tree.isFree address = true) (hne : address ≠ []) (node : Node) :
    Stays tree (tree.set address node) := by
  refine ⟨fun folder hfolder => ?_, rfl⟩
  have hprefix := not_isPrefixOf_of_isFolderAt h hne hfolder
  have hother : folder ≠ address := by
    rintro rfl
    rw [List.isPrefixOf_iff_prefix.2 (List.prefix_refl _)] at hprefix
    cases hprefix
  rw [isFolderAt_eq_true] at hfolder ⊢
  rw [node?_set_of_ne hother, hfolder]

end Stays

/-- Writing a file keeps all folders, whether it succeeds or not. -/
theorem stays_publish {written : Tree} {path : Path} {start ending : String} {contents : Contents}
    {result : Except Error Unit} (h : tree.publish path start ending contents = (result, written)) :
    Stays tree written := by
  match result, h with
  | .ok (), h =>
    -- the folders stay for the file beside the place and for the move
    obtain ⟨folder, name, temporary, hfresh, -, -, -, -, hkeeps, hcurrent⟩ := publish_eq_ok h
    obtain ⟨hfree, hne⟩ := isFree_of_freshAddress hfresh
    exact (Stays.set hfree hne _).trans ⟨hkeeps, hcurrent⟩
  | .error cause, h =>
    rw [eq_of_publish_error h]
    exact .refl tree

/-! ## Files that are moved -/

/-- Whether a path leads to where a file can be: to a name in a folder that no folder has. -/
def TakesFile (tree : Tree) (path : Path) : Prop :=
  ∃ folder name, tree.place path = .ok ⟨folder, some name, false⟩ ∧ isDots name = false ∧
    name.utf8ByteSize ≤ maxName ∧ tree.node? (folder ++ [name]) ≠ some .folder

/-- A file at a free address makes no folder and takes none away. -/
theorem isFolderAt_set_file (h : tree.isFree address = true) (hne : address ≠ []) (contents : Contents)
    (found : Address) : (tree.set address (.file contents)).isFolderAt found = tree.isFolderAt found := by
  by_cases hfound : found = address
  · subst hfound
    have hbefore : tree.isFolderAt found = false := by
      by_contra hfolder
      have hprefix := not_isPrefixOf_of_isFolderAt h hne (Bool.not_eq_false _ ▸ hfolder)
      rw [List.isPrefixOf_iff_prefix.2 (List.prefix_refl _)] at hprefix
      cases hprefix
    rw [hbefore, isFolderAt, node?_set_self hne]
  · rw [isFolderAt, isFolderAt, node?_set_of_ne hfound]

/-- A file at a free address can be moved to where a path leads exactly if a file can be there. -/
theorem exists_rename_iff {path : Path} {temporary : Address} (h : tree.isFree temporary = true)
    (hne : temporary ≠ []) (contents : Contents) :
    (∃ renamed, (tree.set temporary (.file contents)).rename temporary path = .ok renamed) ↔
      tree.TakesFile path := by
  have hfolders := isFolderAt_set_file h hne contents
  constructor
  · rintro ⟨renamed, hrename⟩
    obtain ⟨folder, name, -, hplace, hdots, hlong, hfree, -⟩ := rename_eq_ok hrename
    have hback : KeepsFolders (tree.set temporary (.file contents)) tree := fun found hfound =>
      (hfolders found).symm.trans hfound
    refine ⟨folder, name, place_of_keepsFolders hback rfl hplace, hdots, Nat.le_of_not_lt hlong, ?_⟩
    rwa [Ne, ← isFolderAt_eq_true, ← hfolders, isFolderAt_eq_true]
  · rintro ⟨folder, name, hplace, hdots, hlong, hfree⟩
    have hthere := place_of_keepsFolders (fun found hfound => (hfolders found).trans hfound) rfl hplace
    have hnode : (tree.set temporary (.file contents)).node? (folder ++ [name]) ≠ some .folder := by
      rwa [Ne, ← isFolderAt_eq_true, hfolders, isFolderAt_eq_true]
    have hzero : ¬ path.text.toList.contains '\x00' = true := fun hmem => by
      rw [place_eq, if_pos hmem] at hplace
      cases hplace
    rw [rename, if_neg hzero, hthere]
    simp only [bind, Except.bind, pure, Except.pure, hdots, Bool.false_eq_true, ite_false,
      if_neg (Nat.not_lt_of_le hlong), node?_set_self hne]
    exact ⟨_, rfl⟩

/-- A file is published wherever a path leads to a name that no folder has, if nothing goes wrong. -/
theorem exists_publish_eq {path : Path} {start ending : String} {beside : Place} {folder : Address}
    {name : String} (hbeside : tree.place (path.folder.child (start ++ ending)) = .ok beside)
    (hplace : tree.place path = .ok ⟨folder, some name, false⟩) (hdots : isDots name = false)
    (hlong : ¬ maxName < name.utf8ByteSize) (hfolder : tree.node? (folder ++ [name]) ≠ some .folder)
    (hmishap : ∀ contents, tree.circumstances.mishap? path contents = none) (contents : Contents) :
    ∃ written, tree.publish path start ending contents = (.ok (), written) := by
  have hfresh : tree.freshAddress path.folder start ending
      = .ok (beside.folder ++ [tree.freshName beside.folder start ending]) := by
    rw [freshAddress, hbeside]
    rfl
  obtain ⟨hfree, hne⟩ := isFree_of_freshAddress hfresh
  obtain ⟨renamed, hrename⟩ := (exists_rename_iff hfree hne contents).2
    ⟨folder, name, hplace, hdots, Nat.le_of_not_lt hlong, hfolder⟩
  refine ⟨renamed, ?_⟩
  rw [publish_of_freshAddress hfresh, hmishap contents, hrename]

/-! ## Folders that go -/

/-- Leaving out what is in a folder changes nothing outside of it. -/
theorem lookup_filter_isPrefixOf {found : Address} (h : address.isPrefixOf found = false)
    (nodes : List (Address × Node)) :
    (nodes.filter fun entry => !address.isPrefixOf entry.1).lookup found = nodes.lookup found := by
  induction nodes with
  | nil => rfl
  | cons entry nodes ih =>
    obtain ⟨there, held⟩ := entry
    cases hthere : address.isPrefixOf there with
    | true =>
      have hne : (found == there) = false := by
        rw [beq_eq_false_iff_ne]
        rintro rfl
        rw [h] at hthere
        cases hthere
      rw [List.filter_cons_of_neg (by simp only [hthere]; decide), List.lookup_cons, hne, ih]
    | false =>
      rw [List.filter_cons_of_pos (by simp only [hthere]; decide), List.lookup_cons, List.lookup_cons,
        ih]

/-- Outside of the folder all is as it was. -/
theorem node?_removeFolder {found : Address} (h : address.isPrefixOf found = false) :
    (tree.removeFolder address).node? found = tree.node? found := by
  rw [node?, node?, removeFolder, lookup_filter_isPrefixOf h]

/-- The folder for temporary files is at an address where nothing was. -/
theorem makeScratch_eq_ok {start : String} {path : Path} {made : Tree}
    (h : tree.makeScratch start = .ok (address, path, made)) :
    tree.isFree address = true ∧ address ≠ [] ∧ made = tree.set address .folder := by
  obtain ⟨fresh, hfresh, hmade⟩ := exists_of_bind_eq_ok h
  obtain ⟨hfree, hne⟩ := isFree_of_freshAddress hfresh
  obtain ⟨rfl, heq⟩ := Prod.mk.inj (Except.ok.inj hmade)
  exact ⟨hfree, hne, (Prod.mk.inj heq).2.symm⟩

/-- It takes no other folder away. -/
theorem stays_makeScratch {scratch : String} {path : Path} {made : Tree}
    (h : tree.makeScratch scratch = .ok (address, path, made)) : Stays tree made := by
  obtain ⟨hfree, hne, rfl⟩ := makeScratch_eq_ok h
  exact Stays.set hfree hne .folder

/-- Folders that are not for temporary files stay when the folder for these is removed. -/
theorem stays_removeFolder {scratch : String} {path : Path} {made last : Tree}
    (hmade : tree.makeScratch scratch = .ok (address, path, made)) (hstays : Stays made last) :
    Stays tree (last.removeFolder address) := by
  have hkept := (stays_makeScratch hmade).trans hstays
  obtain ⟨hfree, hne, -⟩ := makeScratch_eq_ok hmade
  refine ⟨fun folder hfolder => ?_, hkept.current_eq⟩
  have hthere := hkept.keepsFolders folder hfolder
  rw [isFolderAt_eq_true] at hthere ⊢
  rw [node?_removeFolder (not_isPrefixOf_of_isFolderAt hfree hne hfolder), hthere]

/-- A file whose folder was there before a folder for temporary files is read once that is removed. -/
theorem read_removeFolder {scratch : String} {path output : Path} {made before written : Tree}
    (hmade : tree.makeScratch scratch = .ok (address, path, made)) (hstays : Stays made before)
    {start ending : String} {contents : Contents}
    (hpublish : before.publish output start ending contents = (.ok (), written))
    {found : Place} (hplace : tree.place output = .ok found) :
    (written.removeFolder address).read output = .ok contents := by
  have hleft := stays_removeFolder hmade (hstays.trans (stays_publish hpublish))
  obtain ⟨hfree, hne, rfl⟩ := makeScratch_eq_ok hmade
  have hscratch : written.isFolderAt address = true := by
    have hthere : (tree.set address .folder).isFolderAt address = true :=
      isFolderAt_eq_true.2 (node?_set_self hne)
    exact (hstays.trans (stays_publish hpublish)).keepsFolders _ hthere
  have hkept : Stays tree written :=
    ((Stays.set hfree hne .folder).trans hstays).trans (stays_publish hpublish)
  obtain ⟨folder, name, temporary, -, hwritten, hdots, hlong, hnode, -, -⟩ := publish_eq_ok hpublish
  have hsame := place_of_keepsFolders hkept.keepsFolders hkept.current_eq hplace
  obtain rfl := Except.ok.inj (hsame.symm.trans hwritten)
  have hfolder := (place_eq_ok hplace).2.1
  refine read_eq_ok (place_of_keepsFolders hleft.keepsFolders hleft.current_eq hplace) hdots hlong ?_
  rw [node?_removeFolder, hnode]
  -- the folder that is removed is no part of the way to the file, nor the file
  by_contra hprefix
  rw [Bool.not_eq_false, List.isPrefixOf_iff_prefix, List.prefix_concat_iff] at hprefix
  rcases hprefix with heq | hprefix
  · rw [isFolderAt_eq_true, heq, hnode] at hscratch
    cases hscratch
  · have habove := not_isPrefixOf_of_isFolderAt hfree hne hfolder
    rw [List.isPrefixOf_iff_prefix.2 hprefix] at habove
    cases habove

end SlideDeck.File.Tree
