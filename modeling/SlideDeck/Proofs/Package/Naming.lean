import SlideDeck.Package.Basic
import SlideDeck.Proofs.Number.Digits
import SlideDeck.Proofs.Number.Vacancy
import SlideDeck.Proofs.Package.Target

/-!
# Names given out

The part that `next` names is not among the names it was given, and no two parts have their
relationships in one part.
-/

namespace SlideDeck.PartName

/-! ## Numbered names -/

/-- A name takes at most one number of a stem. -/
theorem number_unique {stem name : String} {m n : Nat}
    (hm : (stem ++ toString m ++ ".").toList.isPrefixOf name.toList = true)
    (hn : (stem ++ toString n ++ ".").toList.isPrefixOf name.toList = true) : m = n := by
  rw [List.isPrefixOf_iff_prefix] at hm hn
  obtain ⟨left, hleft⟩ := hm
  obtain ⟨right, hright⟩ := hn
  have heq := hleft.trans hright.symm
  simp only [String.toList_append, List.append_assoc, List.append_cancel_left_eq] at heq
  -- both numbers are the digits in front of the dot
  have hdigits : ∀ (n : Nat) (rest : List Char),
      ((toString n).toList ++ ('.' :: rest)).takeWhile Char.isDigit = (toString n).toList := by
    intro n rest
    rw [List.takeWhile_append_of_pos fun c hc => Number.isDigit_of_mem_toString hc,
      List.takeWhile_cons_of_neg (by decide), List.append_nil]
  have htake := congrArg (List.takeWhile Char.isDigit) heq
  change ((toString m).toList ++ ('.' :: left)).takeWhile Char.isDigit
    = ((toString n).toList ++ ('.' :: right)).takeWhile Char.isDigit at htake
  rw [hdigits, hdigits] at htake
  exact Number.toString_injective (String.toList_injective htake)

/-- The number that is given out is taken by no part. -/
theorem isTaken_freeNumber (names : List String) (stem : String) :
    isTaken names stem (freeNumber names stem) = false := by
  have hunique : ∀ name ∈ names, ∀ m n : Nat,
      (stem ++ toString m ++ ".").toList.isPrefixOf name.toList = true →
      (stem ++ toString n ++ ".").toList.isPrefixOf name.toList = true → m = n :=
    fun _ _ _ _ => number_unique
  obtain ⟨k, hk, hfree⟩ := Number.exists_vacancy names hunique 1
  have hmem : 1 + k ∈ List.range' 1 (names.length + 1) := by
    rw [List.mem_range'_1]
    omega
  have hnot : (!isTaken names stem (1 + k)) = true := by
    rw [Bool.not_eq_true', isTaken, List.any_eq_false]
    exact hfree
  rw [freeNumber]
  match hfind : (List.range' 1 (names.length + 1)).find? (!isTaken names stem ·) with
  | some number => simpa using List.find?_some hfind
  | none => exact absurd hnot (List.find?_eq_none.1 hfind _ hmem)

/-- The name that is given out is new. -/
theorem next_not_mem (names : List String) (stem extension : String) :
    next names stem extension ∉ names := by
  intro hmem
  have hfree := isTaken_freeNumber names stem
  rw [isTaken, List.any_eq_false] at hfree
  refine hfree _ hmem ?_
  rw [List.isPrefixOf_iff_prefix, next]
  exact ⟨extension.toList, String.toList_append.symm⟩

/-! ## Names within a folder -/

/-- What is behind a name in a folder belongs to the name. -/
theorem inFolderOf_append (part name suffix : String) :
    inFolderOf part name ++ suffix = inFolderOf part (name ++ suffix) := by
  apply String.toList_injective
  rw [inFolderOf, inFolderOf]
  split <;> simp

/-- The segments of a name in the folder of a part are those of the folder and of the name. -/
theorem splitAt_inFolderOf (part name : String) :
    Text.splitAt '/' (inFolderOf part name).toList
      = folderSegments part.toList ++ Text.splitAt '/' name.toList := by
  rw [inFolderOf, folderSegments]
  split
  · rw [String.toList_ofList, Text.splitAt_append]
  · rfl

/-- How many names there are on the path of a part. -/
def depth (part : String) : Nat := (Text.splitAt '/' part.toList).length

theorem depth_pos (part : String) : 0 < depth part :=
  List.length_pos_iff.2 (Text.splitWhere_ne_nil _ _)

/-- A path within the folder of a part leads further down than the part. -/
theorem depth_lt_inFolderOf (part : String) {name : String} (h : '/' ∈ name.toList) :
    depth part < depth (inFolderOf part name) := by
  have hname : 1 < depth name := by
    by_contra hdepth
    obtain ⟨piece, hpiece⟩ := List.length_eq_one_iff.1
      (Nat.le_antisymm (Nat.le_of_not_lt hdepth) (depth_pos name))
    have hjoin : piece = name.toList := by
      rw [← Text.join_splitAt '/' name.toList, hpiece, Text.join]
    exact Text.not_mem_of_mem_splitAt (hpiece ▸ List.mem_singleton_self piece) (hjoin ▸ h)
  have hpart := depth_pos part
  rw [depth, depth, splitAt_inFolderOf, List.length_append, folderSegments_eq, List.length_dropLast]
  rw [depth] at hname hpart
  omega

/-- A list has all of itself in common with its continuations. -/
theorem commonLength_append (a b : List (List Char)) : commonLength a (a ++ b) = a.length := by
  induction a with
  | nil => cases b <;> rfl
  | cons segment a ih => rw [List.cons_append, commonLength, if_pos rfl, ih, List.length_cons]

/-- From a part to a name in its folder no other folder is passed. -/
theorem relative_inFolderOf (part name : String) : relative part (inFolderOf part name) = name := by
  have hrest : 0 < (Text.splitAt '/' name.toList).length :=
    List.length_pos_iff.2 (Text.splitWhere_ne_nil _ _)
  have hsegments : relativeSegments part (inFolderOf part name) = Text.splitAt '/' name.toList := by
    rw [relativeSegments, splitAt_inFolderOf]
    generalize folderSegments part.toList = folder
    -- the whole folder is common to both
    have hcommon : min folder.length ((folder ++ Text.splitAt '/' name.toList).length - 1)
        = folder.length := by
      rw [List.length_append]
      omega
    simp only [commonLength_append, hcommon, Nat.sub_self, List.replicate_zero, List.nil_append,
      List.drop_left]
  rw [relative_eq, hsegments, Text.join_splitAt, String.ofList_toList]

/-- A proper path within the folder of a normal part is a normal part. -/
theorem isNormal_inFolderOf {part name : String} (h : IsNormal part)
    (hname : ∀ segment ∈ Text.splitAt '/' name.toList, IsProper segment) :
    IsNormal (inFolderOf part name) := by
  intro segment hsegment
  by_cases hempty : inFolderOf part name = ""
  · rw [hempty] at hsegment
    cases hsegment
  · rw [segments_of_ne hempty, splitAt_inFolderOf] at hsegment
    rcases List.mem_append.1 hsegment with hfolder | hrest
    · exact isProper_of_mem_folderSegments h hfolder
    · exact hname segment hrest

/-- What stands in front of the extension of a numbered name. -/
theorem next_eq (names : List String) (part stem extension : String) :
    next names (inFolderOf part stem) extension
      = inFolderOf part (stem ++ toString (freeNumber names (inFolderOf part stem)) ++ "." ++ extension) := by
  rw [next, inFolderOf_append, inFolderOf_append, inFolderOf_append]

/-- No slash stands in a numbered name if there is none around the number. -/
theorem slash_not_mem_numbered {stem ending : String} (n : Nat) (hstem : '/' ∉ stem.toList)
    (hending : '/' ∉ ending.toList) : '/' ∉ (stem ++ toString n ++ ending).toList := by
  have hdigits : '/' ∉ (toString n).toList := fun hmem =>
    absurd (Number.isDigit_of_mem_toString hmem) (by decide)
  rw [String.toList_append, String.toList_append, List.mem_append, List.mem_append]
  exact not_or.2 ⟨not_or.2 ⟨hstem, hdigits⟩, hending⟩

/-- A folder and a numbered file in it make a proper path. -/
theorem isProper_numbered {folder stem extension : String} (n : Nat)
    (hfolder : IsProper folder.toList) (hstem : stem ≠ "")
    (hslash : '/' ∉ folder.toList ∧ '/' ∉ stem.toList ∧ '/' ∉ extension.toList)
    (hdot : '.' ∉ stem.toList) :
    ∀ segment ∈ Text.splitAt '/'
      (folder ++ "/" ++ stem ++ toString n ++ "." ++ extension).toList, IsProper segment := by
  obtain ⟨hfolder', hstem', hextension'⟩ := hslash
  have hfile : '/' ∉ (stem ++ toString n ++ "." ++ extension).toList := by
    rw [String.append_assoc]
    refine slash_not_mem_numbered n hstem' ?_
    rw [String.toList_append, List.mem_append]
    exact not_or.2 ⟨by decide, hextension'⟩
  have htext : (folder ++ "/" ++ stem ++ toString n ++ "." ++ extension).toList
      = folder.toList ++ '/' :: (stem ++ toString n ++ "." ++ extension).toList := by
    simp
  rw [htext, Text.splitAt_append, Text.splitAt_of_not_mem hfolder', Text.splitAt_of_not_mem hfile]
  intro segment hsegment
  rcases List.mem_append.1 hsegment with h | h
  · rwa [List.mem_singleton.1 h]
  · -- the name starts with a character of the stem, which is no dot
    rw [List.mem_singleton.1 h]
    have hne : stem.toList ≠ [] := fun hnil => hstem (String.toList_injective (hnil.trans rfl))
    obtain ⟨c, rest, hc⟩ := List.exists_cons_of_ne_nil hne
    have hcdot : c ≠ '.' := fun heq => hdot (by rw [hc, heq]; exact List.mem_cons_self)
    rw [String.toList_append, String.toList_append, String.toList_append, hc]
    refine ⟨?_, ?_, ?_⟩ <;> simp [hcdot]

/-- The extension comes last. -/
theorem getLast?_next (names : List String) (stem : String) {extension : String} {c : Char}
    (h : extension.toList.getLast? = some c) :
    (next names stem extension).toList.getLast? = some c := by
  rw [next, String.toList_append, List.getLast?_append, h]
  rfl

/-! ## Parts of relationships -/

/-- The folder of a part and its last segment, and those of the part with its relationships. -/
theorem exists_splitAt_relationshipsPart (part : String) : ∃ folder name,
    Text.splitAt '/' part.toList = folder ++ [name] ∧
    Text.splitAt '/' (relationshipsPart part).toList
      = folder ++ ["_rels".toList, name ++ ".rels".toList] := by
  have hends : '/' ∉ ".rels".toList := by decide
  rw [relationshipsPart, split]
  -- a part at the root has no folder, and the relationships of any other are in its folder
  cases hcut : Text.cutLast ['/'] part.toList with
  | none =>
    have hname := Text.not_mem_of_cutLast_eq_none hcut
    refine ⟨[], part.toList, Text.splitAt_of_not_mem hname, ?_⟩
    have hfile : '/' ∉ part.toList ++ ".rels".toList := by
      rw [List.mem_append, not_or]
      exact ⟨hname, hends⟩
    have htext : [] ++ "_rels/".toList ++ part.toList ++ ".rels".toList
        = "_rels".toList ++ '/' :: (part.toList ++ ".rels".toList) := by simp
    simp only [String.toList_ofList]
    rw [htext, Text.splitAt_append, Text.splitAt_of_not_mem (by decide), Text.splitAt_of_not_mem hfile]
    rfl
  | some cut =>
    obtain ⟨folder, name⟩ := cut
    have hcuts := Text.splitAt_of_cutLast hcut
    refine ⟨Text.splitAt '/' folder, name, hcuts, ?_⟩
    have hname : '/' ∉ name :=
      Text.not_mem_of_mem_splitAt (hcuts ▸ List.mem_append_right _ (List.mem_singleton_self name))
    have hfile : '/' ∉ name ++ ".rels".toList := by
      rw [List.mem_append, not_or]
      exact ⟨hname, hends⟩
    have htext : folder ++ ['/'] ++ "_rels/".toList ++ name ++ ".rels".toList
        = folder ++ '/' :: ("_rels".toList ++ '/' :: (name ++ ".rels".toList)) := by simp
    simp only [String.toList_ofList]
    have hrels : '/' ∉ "_rels".toList := by decide
    rw [htext, Text.splitAt_append, Text.splitAt_append, Text.splitAt_of_not_mem hrels,
      Text.splitAt_of_not_mem hfile]
    rfl

/-- The relationships of a file in a folder stand in a folder of their own there. -/
theorem relationshipsPart_append {folder name : String} (h : '/' ∉ name.toList) :
    relationshipsPart (folder ++ "/" ++ name) = folder ++ "/_rels/" ++ name ++ ".rels" := by
  have htext : (folder ++ "/" ++ name).toList = folder.toList ++ '/' :: name.toList := by simp
  apply String.toList_injective
  rw [relationshipsPart, split, htext, Text.cutLast_of_not_mem _ h]
  simp

/-- Relationships are one folder below their part. -/
theorem depth_relationshipsPart (part : String) : depth (relationshipsPart part) = depth part + 1 := by
  obtain ⟨folder, name, hpart, hrels⟩ := exists_splitAt_relationshipsPart part
  rw [depth, depth, hpart, hrels]
  simp

/-- No two parts have their relationships in one part. -/
theorem relationshipsPart_injective {a b : String} (h : relationshipsPart a = relationshipsPart b) :
    a = b := by
  obtain ⟨folder, name, ha, harels⟩ := exists_splitAt_relationshipsPart a
  obtain ⟨folder', name', hb, hbrels⟩ := exists_splitAt_relationshipsPart b
  rw [h, hbrels] at harels
  obtain ⟨hfolder, hfile⟩ := List.append_inj' harels rfl
  have hname : name' = name := List.append_cancel_right (List.cons.inj (List.cons.inj hfile).2).1
  rw [hfolder, hname, ← ha] at hb
  exact (String.toList_injective (Text.splitAt_injective hb)).symm

/-- Whether a part is named as one that lists relationships. -/
def IsListing (name : String) : Prop := ".rels".toList.isSuffixOf name.toList = true

instance (name : String) : Decidable (IsListing name) :=
  inferInstanceAs (Decidable (_ = true))

/-- The part with the relationships of a part is one that lists relationships. -/
theorem isListing_relationshipsPart (part : String) : IsListing (relationshipsPart part) := by
  refine List.isSuffixOf_iff_suffix.2 ?_
  unfold relationshipsPart
  simp only [String.toList_ofList]
  exact List.suffix_append _ _

/-- The name of a part that lists relationships ends in an s, as their extension does. -/
theorem getLast?_of_isListing {name : String} (h : IsListing name) :
    name.toList.getLast? = some 's' := by
  have hlast : ".rels".toList.getLast? = some 's' := by decide
  rw [IsListing, List.isSuffixOf_iff_suffix] at h
  obtain ⟨before, hname⟩ := h
  rw [← hname, List.getLast?_append, hlast, Option.some_or]

/-- So does the name of the part with the relationships of another. -/
theorem getLast?_relationshipsPart (part : String) :
    (relationshipsPart part).toList.getLast? = some 's' := by
  rw [relationshipsPart, String.toList_ofList, List.getLast?_append]
  rfl

end SlideDeck.PartName
