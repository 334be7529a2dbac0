import SlideDeck.Package.PartName
import SlideDeck.Proofs.Text.Segments

/-!
# Targets lead where they were made for

A part name is normal if none of its segments is empty, a dot or two dots. A target resolves to a normal
name, and the target that `relative` makes for a normal name resolves to that name, whatever folders the
two parts are in (`resolve_relative`). Normal names are those that stay as they are when their segments are
followed from the root (`normalize_eq_self_iff`).
-/

namespace SlideDeck.PartName

/-! ## Normal names -/

/-- A segment that goes down: neither empty nor a dot nor two dots. -/
def IsProper (segment : List Char) : Prop := segment ≠ [] ∧ segment ≠ ['.'] ∧ segment ≠ ['.', '.']

/-- The segments of a part name, none of the empty name, which stands for the package itself. -/
def segments (part : String) : List (List Char) :=
  if part = "" then [] else Text.splitAt '/' part.toList

/-- A name is normal if all its segments go down. -/
def IsNormal (part : String) : Prop := ∀ segment ∈ segments part, IsProper segment

instance (segment : List Char) : Decidable (IsProper segment) :=
  inferInstanceAs (Decidable (_ ∧ _))

instance (part : String) : Decidable (IsNormal part) :=
  inferInstanceAs (Decidable (∀ segment ∈ segments part, IsProper segment))

theorem segments_of_ne {part : String} (h : part ≠ "") :
    segments part = Text.splitAt '/' part.toList := if_neg h

/-- A name is its segments with slashes between them. -/
theorem join_segments (part : String) : Text.join ['/'] (segments part) = part.toList := by
  rw [segments]
  split
  · next h => rw [h]; rfl
  · exact Text.join_splitAt '/' part.toList

/-- So a name is decided by its segments. -/
theorem segments_injective {a b : String} (h : segments a = segments b) : a = b := by
  apply String.toList_injective
  rw [← join_segments a, h, join_segments]

/-- The name with proper segments. -/
theorem segments_join {path : List (List Char)} (hproper : ∀ segment ∈ path, IsProper segment)
    (hslash : ∀ segment ∈ path, '/' ∉ segment) :
    segments (String.ofList (Text.join ['/'] path)) = path := by
  rcases List.eq_nil_or_concat path with rfl | hpath
  · rfl
  · have hne : path ≠ [] := by
      obtain ⟨first, last, rfl⟩ := hpath
      simp
    have hcut := Text.splitAt_join hne hslash
    rw [segments_of_ne, String.toList_ofList, hcut]
    -- the empty text is cut into a single segment, which is not proper
    intro hempty
    have hjoin : Text.join ['/'] path = [] := by
      rw [← String.toList_ofList (l := Text.join ['/'] path), hempty]
      rfl
    rw [hjoin] at hcut
    exact (hproper [] (hcut ▸ List.mem_singleton_self [])).1 rfl

/-- The folder of a part has all segments but the last. -/
theorem folderSegments_eq (part : String) :
    folderSegments part.toList = (Text.splitAt '/' part.toList).dropLast := by
  rw [folderSegments, split]
  split
  · next folder name hcut => rw [Text.splitAt_of_cutLast hcut, List.dropLast_concat]
  · next hcut =>
    rw [Text.splitAt_of_not_mem (Text.not_mem_of_cutLast_eq_none hcut)]
    rfl

/-- This is so of the empty name as well, which has none. -/
theorem folderSegments_eq_dropLast (part : String) :
    folderSegments part.toList = (segments part).dropLast := by
  rw [folderSegments_eq, segments]
  split
  · next h => rw [h]; rfl
  · rfl

/-- The folder of a normal name has proper segments. -/
theorem isProper_of_mem_folderSegments {part : String} (h : IsNormal part) {segment : List Char}
    (hsegment : segment ∈ folderSegments part.toList) : IsProper segment := by
  rw [folderSegments_eq_dropLast] at hsegment
  exact h segment (List.dropLast_subset _ hsegment)

/-! ## Following segments -/

/-- A proper segment goes one folder down. -/
theorem step_of_isProper {segment : List Char} (h : IsProper segment) (path : List (List Char)) :
    step path segment = segment :: path := by
  obtain ⟨hempty, hdot, hdots⟩ := h
  rw [step, if_neg (by rw [not_or]; exact ⟨hempty, hdot⟩), if_neg hdots]

/-- Proper segments go down one after the other. -/
theorem foldl_step_proper {down : List (List Char)} (h : ∀ segment ∈ down, IsProper segment)
    (path : List (List Char)) : down.foldl step path = down.reverse ++ path := by
  induction down generalizing path with
  | nil => rfl
  | cons segment down ih =>
    rw [List.foldl_cons, step_of_isProper (h segment List.mem_cons_self),
      ih fun other hother => h other (List.mem_cons_of_mem segment hother)]
    simp

/-- Each two dots leave one segment. -/
theorem foldl_step_up (n : Nat) (path : List (List Char)) :
    (List.replicate n ['.', '.']).foldl step path = path.drop n := by
  induction n generalizing path with
  | zero => rfl
  | succ n ih =>
    have hup : step path ['.', '.'] = path.tail := by
      rw [step, if_neg (by decide), if_pos rfl]
    rw [List.replicate_succ, List.foldl_cons, hup, ih, List.drop_tail]

/-- Wherever segments lead, the path there is made of proper ones among them. -/
theorem mem_foldl_step {down path : List (List Char)} {segment : List Char}
    (h : segment ∈ down.foldl step path) :
    segment ∈ path ∨ segment ∈ down ∧ IsProper segment := by
  induction down generalizing path with
  | nil => exact .inl h
  | cons first down ih =>
    rw [List.foldl_cons] at h
    rcases ih h with hpath | ⟨hdown, hproper⟩
    · rw [step] at hpath
      split at hpath
      · exact .inl hpath
      · next hstay =>
        rw [not_or] at hstay
        split at hpath
        · exact .inl (List.mem_of_mem_tail hpath)
        · next hup =>
          rcases List.mem_cons.1 hpath with rfl | hpath
          · exact .inr ⟨List.mem_cons_self, hstay.1, hstay.2, hup⟩
          · exact .inl hpath
    · exact .inr ⟨List.mem_cons_of_mem first hdown, hproper⟩

/-- Only proper segments of those followed are left. -/
theorem mem_follow {down : List (List Char)} {segment : List Char} (h : segment ∈ follow down) :
    segment ∈ down ∧ IsProper segment := by
  rw [follow, List.mem_reverse] at h
  exact (mem_foldl_step h).resolve_left List.not_mem_nil

/-! ## Resolving -/

/-- The segments that a target is followed along, from the root. -/
def targetSegments (source target : String) : List (List Char) :=
  match target.toList with
  | '/' :: rest => Text.splitAt '/' rest
  | target => folderSegments source.toList ++ Text.splitAt '/' target

/-- Resolving is following the segments of the target from the folder of the source. -/
theorem resolve_eq (source target : String) :
    resolve source target = String.ofList (Text.join ['/'] (follow (targetSegments source target))) :=
  rfl

/-- No segment that is followed holds a slash. -/
theorem not_mem_of_mem_targetSegments {source target : String} {segment : List Char}
    (h : segment ∈ targetSegments source target) : '/' ∉ segment := by
  rw [targetSegments] at h
  split at h
  · exact Text.not_mem_of_mem_splitAt h
  · rcases List.mem_append.1 h with h | h
    · rw [folderSegments_eq] at h
      exact Text.not_mem_of_mem_splitAt (List.dropLast_subset _ h)
    · exact Text.not_mem_of_mem_splitAt h

/-- So the segments of what a target resolves to are those left. -/
theorem segments_resolve (source target : String) :
    segments (resolve source target) = follow (targetSegments source target) := by
  rw [resolve_eq]
  apply segments_join
  · exact fun segment h => (mem_follow h).2
  · exact fun segment h => not_mem_of_mem_targetSegments (mem_follow h).1

/-- Every target resolves to a normal name. -/
theorem isNormal_resolve (source target : String) : IsNormal (resolve source target) := by
  intro segment h
  rw [segments_resolve] at h
  exact (mem_follow h).2

/-! ## Relative targets -/

/-- Both lists start with what they have in common. -/
theorem take_commonLength (a b : List (List Char)) :
    a.take (commonLength a b) = b.take (commonLength a b) := by
  induction a generalizing b with
  | nil => rfl
  | cons x a ih =>
    cases b with
    | nil => rfl
    | cons y b =>
      rw [commonLength]
      split
      · next h => rw [List.take_succ_cons, List.take_succ_cons, ih, h]
      · rfl

/-- They have no more in common than is in the first. -/
theorem commonLength_le (a b : List (List Char)) : commonLength a b ≤ a.length := by
  induction a generalizing b with
  | nil => exact Nat.le_refl 0
  | cons x a ih =>
    cases b with
    | nil => exact Nat.zero_le _
    | cons y b =>
      rw [commonLength]
      split
      · exact Nat.succ_le_succ (ih b)
      · exact Nat.zero_le _

/-- Going up from a folder to one of the folders it is in, then down. -/
theorem follow_up {folder down : List (List Char)} {common : Nat}
    (hfolder : ∀ segment ∈ folder, IsProper segment) (hcommon : common ≤ folder.length) :
    follow (folder ++ (List.replicate (folder.length - common) ['.', '.'] ++ down))
      = (down.foldl step (folder.take common).reverse).reverse := by
  have hup : folder.reverse.drop (folder.length - common) = (folder.take common).reverse := by
    rw [List.drop_reverse]
    congr 2
    omega
  rw [follow, List.foldl_append, List.foldl_append, foldl_step_proper hfolder, List.append_nil,
    foldl_step_up, hup]

/-- The segments of the target that leads from one part to another. -/
def relativeSegments (source target : String) : List (List Char) :=
  let folder := folderSegments source.toList
  let path := Text.splitAt '/' target.toList
  let common := min (commonLength folder path) (path.length - 1)
  List.replicate (folder.length - common) ['.', '.'] ++ path.drop common

theorem relative_eq (source target : String) :
    relative source target = String.ofList (Text.join ['/'] (relativeSegments source target)) := rfl

/-- A relative target has a segment at least. -/
theorem relativeSegments_ne_nil (source target : String) : relativeSegments source target ≠ [] := by
  have hpath : Text.splitAt '/' target.toList ≠ [] := Text.splitWhere_ne_nil _ _
  have hlength := List.length_pos_iff.2 hpath
  intro h
  have hdrop := congrArg List.length (List.append_eq_nil_iff.1 h).2
  rw [List.length_drop, List.length_nil] at hdrop
  omega

/-- None of its segments holds a slash. -/
theorem not_mem_of_mem_relativeSegments {source target : String} {segment : List Char}
    (h : segment ∈ relativeSegments source target) : '/' ∉ segment := by
  rcases List.mem_append.1 h with h | h
  · obtain ⟨-, rfl⟩ := List.mem_replicate.1 h
    decide
  · exact Text.not_mem_of_mem_splitAt (List.mem_of_mem_drop h)

/-- So the relative target is cut into these segments again. -/
theorem splitAt_relative (source target : String) :
    Text.splitAt '/' (relative source target).toList = relativeSegments source target := by
  rw [relative_eq, String.toList_ofList]
  exact Text.splitAt_join (relativeSegments_ne_nil source target)
    fun _ => not_mem_of_mem_relativeSegments

/-- The target that leads to a normal name does not start at the root. -/
theorem relative_ne_slash {source target : String} (h : IsNormal target) (rest : List Char) :
    (relative source target).toList ≠ '/' :: rest := by
  intro hslash
  have hcut := splitAt_relative source target
  -- a text with a slash at its start is cut into an empty segment and at least one other
  rw [hslash, show '/' :: rest = [] ++ '/' :: rest from rfl, Text.splitAt_append,
    Text.splitAt_of_not_mem List.not_mem_nil, List.singleton_append, relativeSegments] at hcut
  have hrest : 0 < (Text.splitAt '/' rest).length :=
    List.length_pos_iff.2 (Text.splitWhere_ne_nil _ rest)
  generalize min (commonLength _ _) _ = common at hcut
  generalize (folderSegments source.toList).length - common = n at hcut
  match n with
  | n + 1 =>
    rw [List.replicate_succ, List.cons_append] at hcut
    exact absurd (List.cons.inj hcut).1 (by decide)
  | 0 =>
    rw [List.replicate_zero, List.nil_append] at hcut
    by_cases htarget : target = ""
    · -- the empty name has no other segment
      have hlength := congrArg List.length hcut
      have hone : (Text.splitAt '/' target.toList).length = 1 := by rw [htarget]; rfl
      rw [List.length_drop, List.length_cons, hone] at hlength
      omega
    · have hempty : [] ∈ Text.splitAt '/' target.toList :=
        List.mem_of_mem_drop (hcut ▸ List.mem_cons_self)
      exact (h [] (by rwa [segments_of_ne htarget])).1 rfl

/-- The target that leads to a normal name from a part in a normal folder resolves to it. -/
theorem resolve_relative_of_folder {source target : String}
    (hfolder : ∀ segment ∈ folderSegments source.toList, IsProper segment)
    (htarget : IsNormal target) : resolve source (relative source target) = target := by
  apply segments_injective
  have htargets : targetSegments source (relative source target)
      = folderSegments source.toList ++ relativeSegments source target := by
    rw [targetSegments]
    split
    · next rest h => exact absurd h (relative_ne_slash htarget rest)
    · rw [splitAt_relative]
  rw [segments_resolve, htargets, relativeSegments]
  have hcommon := commonLength_le (folderSegments source.toList) (Text.splitAt '/' target.toList)
  have htake := take_commonLength (folderSegments source.toList) (Text.splitAt '/' target.toList)
  generalize folderSegments source.toList = folder at *
  -- the empty name has one empty segment and no proper one
  by_cases hempty : target = ""
  · subst hempty
    have hnone : min (commonLength folder (Text.splitAt '/' "".toList))
        ((Text.splitAt '/' "".toList).length - 1) = 0 := Nat.min_zero _
    simp only [hnone]
    rw [follow_up hfolder (Nat.zero_le _)]
    rfl
  · have hdown : ∀ segment ∈ Text.splitAt '/' target.toList, IsProper segment := by
      intro segment h
      exact htarget segment (by rwa [segments_of_ne hempty])
    rw [segments_of_ne hempty]
    generalize Text.splitAt '/' target.toList = path at *
    have hmin := Nat.min_le_left (commonLength folder path) (path.length - 1)
    have hprefix : folder.take (min (commonLength folder path) (path.length - 1))
        = path.take (min (commonLength folder path) (path.length - 1)) := by
      have htake' := congrArg (List.take (min (commonLength folder path) (path.length - 1))) htake
      rwa [List.take_take, List.take_take, Nat.min_eq_left hmin] at htake'
    rw [follow_up hfolder (Nat.le_trans hmin hcommon),
      foldl_step_proper fun segment h => hdown segment (List.mem_of_mem_drop h)]
    rw [List.reverse_append, List.reverse_reverse, List.reverse_reverse, hprefix,
      List.take_append_drop]

/-- Between normal names, a relative target resolves to what it was made for. -/
theorem resolve_relative {source target : String} (hsource : IsNormal source)
    (htarget : IsNormal target) : resolve source (relative source target) = target :=
  resolve_relative_of_folder (fun _ => isProper_of_mem_folderSegments hsource) htarget

/-! ## Normalization -/

/-- The name that the segments of a text lead to from the root. -/
def normalize (name : String) : String :=
  String.ofList (Text.join ['/'] (follow (Text.splitAt '/' name.toList)))

/-- Normalizing a name is following its segments from the root. -/
theorem segments_normalize (name : String) :
    segments (normalize name) = follow (Text.splitAt '/' name.toList) := by
  apply segments_join
  · intro segment h
    exact (mem_follow h).2
  · intro segment h
    exact Text.not_mem_of_mem_splitAt (mem_follow h).1

/-- Proper segments are all left. -/
theorem follow_of_isProper {down : List (List Char)} (h : ∀ segment ∈ down, IsProper segment) :
    follow down = down := by
  rw [follow, foldl_step_proper h, List.append_nil, List.reverse_reverse]

/-- The names that normalization leaves as they are. -/
theorem normalize_eq_self_iff {name : String} : normalize name = name ↔ IsNormal name := by
  constructor
  · intro h segment hsegment
    rw [← h, segments_normalize] at hsegment
    exact (mem_follow hsegment).2
  · intro h
    by_cases hempty : name = ""
    · rw [hempty]
      rfl
    · apply segments_injective
      rw [segments_normalize, segments_of_ne hempty]
      refine follow_of_isProper fun segment hsegment => h segment ?_
      rwa [segments_of_ne hempty]

/-- Targets resolve back to the names they were made for, from wherever they were made, and what any target
resolves to has no segment that normalization would take away. -/
theorem resolve_relative_and_isNormal :
    (∀ source target : String, (∀ segment ∈ folderSegments source.toList, IsProper segment) →
      IsNormal target → resolve source (relative source target) = target) ∧
    ∀ source target : String, IsNormal (resolve source target) ∧
      normalize (resolve source target) = resolve source target := by
  constructor
  · intro source target hsource htarget
    exact resolve_relative_of_folder hsource htarget
  · intro source target
    have hnormal := isNormal_resolve source target
    exact ⟨hnormal, normalize_eq_self_iff.2 hnormal⟩

/-- A part that has the name of a folder of the other one. The last segment of the other one does not count,
although it is two dots. -/
theorem resolve_relative_folder_above :
    let source := "ppt/slides/media/.."
    (∀ segment ∈ folderSegments source.toList, IsProper segment) ∧ IsNormal "ppt/slides" ∧
      relative source "ppt/slides" = "../../slides" ∧
      resolve source (relative source "ppt/slides") = "ppt/slides" := by
  intro source
  have hsource : ∀ segment ∈ folderSegments source.toList, IsProper segment := by decide
  have htarget : IsNormal "ppt/slides" := by decide
  exact ⟨hsource, htarget, by decide, resolve_relative_and_isNormal.1 source "ppt/slides" hsource htarget⟩

end SlideDeck.PartName
