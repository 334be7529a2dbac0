import SlideDeck.Chart.Plot
import SlideDeck.Proofs.File.Attempt
import SlideDeck.Proofs.Text.Lowercase

/-!
# Charts are written completely or not at all

A chart is drawn into a file beside its place, which is then moved there. Drawing may fail and may leave
anything in that file (`plotWith`). However an attempt ends, the file is at its place or all is as it was
(`ends_plotWith`), and the reasons for each end exclude each other.
-/

namespace SlideDeck.Chart

/-! ## Formats -/

namespace Format

/-- Whether the extension of a path is that of a format, in any case. -/
def IsNamedBy (format : Format) (path : File.Path) : Prop :=
  ∃ extension, path.extension? = some extension ∧
    extension.map Char.toLower = format.extension.toList

/-- No extension of a chart holds a letter that more than one character has as its lowercase. -/
theorem isOutside_extension (format : Format) :
    ∀ c ∈ format.extension.toList, Text.isOutside c = false :=
  Text.isOutside_eq_false_of_all (by cases format <;> decide)

/-- A format is found by its extension and by nothing else. -/
theorem ofLowercase?_eq_some_iff {name : List Char} {format : Format} :
    ofLowercase? name = some format ↔ name = format.extension.toList := by
  constructor
  · intro h
    rw [ofLowercase?] at h
    split at h
    · next hsvg => rw [hsvg, ← Option.some.inj h]; rfl
    · split at h
      · next hpng => rw [hpng, ← Option.some.inj h]; rfl
      · cases h
  · rintro rfl
    exact ofLowercase?_extension format

/-- The format of a chart is the one that the path names. -/
theorem ofPath?_eq_some_iff {path : File.Path} {format : Format} :
    ofPath? path = some format ↔ format.IsNamedBy path := by
  simp only [ofPath?, IsNamedBy, Option.bind_eq_some_iff, ofLowercase?_eq_some_iff,
    Text.lowercase_eq_iff format.isOutside_extension]

/-- A path names at most one format. -/
theorem IsNamedBy.unique {path : File.Path} {format other : Format} (h : format.IsNamedBy path)
    (h' : other.IsNamedBy path) : format = other :=
  Option.some.inj ((ofPath?_eq_some_iff.2 h).symm.trans (ofPath?_eq_some_iff.2 h'))

/-- What the names of files for unfinished images of a format consist of, but for a number. -/
def unfinishedName (format : Format) : String := ".slidegen-chart-" ++ ("." ++ format.extension)

end Format

/-! ## Renderers that may fail -/

/-- What an attempt to draw leaves in the file, and the wording of its failure, if it has failed. -/
structure Drawn where
  contents : File.Contents
  failure : Option String

/-- The file system with the image of a line chart, as a renderer draws it. -/
def plotWith (render : Drawing → Drawn) (size : Size) (xs ys : List Float) (legend : Legend)
    (output : File.Path) (files : File.Tree) : Except Error Unit × File.Tree :=
  match image size xs ys legend output with
  | .error error => (.error error, files)
  | .ok drawing =>
    match files.freshAddress output.folder ".slidegen-chart-" ("." ++ drawing.format.extension) with
    | .error cause => (.error (.artifactWrite output (.file cause)), files)
    | .ok temporary =>
      let written := files.set temporary (.file (render drawing).contents)
      match (render drawing).failure with
      | some text => (.error (.artifactWrite output (.file (.other text))), written.unset temporary)
      | none =>
        match written.rename temporary output with
        | .error cause => (.error (.artifactWrite output (.file cause)), written.unset temporary)
        | .ok renamed => (.ok (), renamed)

/-- What comes of an attempt to draw for a path: the image, unless there is a mishap. -/
def Drawn.ofFiles (files : File.Tree) (output : File.Path) (drawing : Drawing) : Drawn :=
  match files.circumstances.mishap? output (.chart drawing) with
  | some mishap => ⟨mishap.contents, some mishap.wording⟩
  | none => ⟨.chart drawing, none⟩

variable (render : Drawing → Drawn) (size : Size) (xs ys : List Float) (legend : Legend)
  (output : File.Path) (files : File.Tree)

/-- A chart is plotted by a renderer that fails if there is a mishap. -/
theorem plot_eq_plotWith : plot size xs ys legend output files
    = plotWith (.ofFiles files output) size xs ys legend output files := by
  unfold plot plotWith
  cases image size xs ys legend output with
  | error error => rfl
  | ok drawing =>
    dsimp only
    cases hfresh : files.freshAddress output.folder ".slidegen-chart-" ("." ++ drawing.format.extension)
    with
    | error cause => rw [File.Tree.publish_of_freshAddress_error hfresh]
    | ok temporary =>
      rw [File.Tree.publish_of_freshAddress hfresh, Drawn.ofFiles]
      cases files.circumstances.mishap? output (.chart drawing) with
      | some mishap => rfl
      | none =>
        dsimp only
        cases (files.set temporary (.file (.chart drawing))).rename temporary output <;> rfl

/-- Why the image of a chart cannot be written, though there are points to draw. -/
inductive Fails : Prop
  /-- The extension of the path names no format. -/
  | noFormat (h : ∀ format : Format, ¬ format.IsNamedBy output)
  /-- There is no folder for the file, or its path would be too long. -/
  | noFolder {format : Format} (hformat : format.IsNamedBy output)
      (h : ¬ files.TakesBeside output format.unfinishedName)
  /-- The renderer fails. -/
  | notDrawn {format : Format} (hformat : format.IsNamedBy output)
      (h : (render (draw format size legend xs ys)).failure ≠ none)
  /-- No file can be where the path leads. -/
  | notMoved {format : Format} (hformat : format.IsNamedBy output) (h : ¬ files.TakesFile output)

/-- How an attempt to write the image of a chart ends. -/
inductive Ends : Except Error Unit × File.Tree → Prop
  | refused (fault : ArgumentFault) (h : xs.length ≠ ys.length ∨ xs = []) :
      Ends (.error (.invalidArgument fault), files)
  | failed (fault : WriteFault) (hpoints : ¬ (xs.length ≠ ys.length ∨ xs = []))
      (h : Fails render size xs ys legend output files) :
      Ends (.error (.artifactWrite output fault), files)
  | written {format : Format} {last : File.Tree} (hpoints : ¬ (xs.length ≠ ys.length ∨ xs = []))
      (h : ¬ Fails render size xs ys legend output files) (hformat : format.IsNamedBy output)
      (hsaves : files.Saves output (render (draw format size legend xs ys)).contents last) :
      Ends (.ok (), last)

variable {render size xs ys legend output files}

/-- Without points there is no image, and with points there is one if the path names a format. -/
theorem image_cases :
    ((∃ fault, image size xs ys legend output = .error (.invalidArgument fault)) ∧
        (xs.length ≠ ys.length ∨ xs = [])) ∨
      ¬ (xs.length ≠ ys.length ∨ xs = []) ∧
        ((image size xs ys legend output = .error (.artifactWrite output .chartFormat) ∧
            ∀ format : Format, ¬ format.IsNamedBy output) ∨
          ∃ format : Format, format.IsNamedBy output ∧
            image size xs ys legend output = .ok (draw format size legend xs ys)) := by
  by_cases hlengths : xs.length ≠ ys.length
  · exact .inl ⟨⟨_, if_pos hlengths⟩, .inl hlengths⟩
  by_cases hempty : xs = []
  · refine .inl ⟨⟨.noPoints, ?_⟩, .inr hempty⟩
    rw [image, if_neg hlengths, if_pos (List.isEmpty_iff.2 hempty)]
  refine .inr ⟨not_or.2 ⟨hlengths, hempty⟩, ?_⟩
  rw [image, if_neg hlengths, if_neg (mt List.isEmpty_iff.1 hempty)]
  cases hformat : Format.ofPath? output with
  | none =>
    refine .inl ⟨rfl, fun format h => ?_⟩
    rw [Format.ofPath?_eq_some_iff.2 h] at hformat
    cases hformat
  | some format => exact .inr ⟨format, Format.ofPath?_eq_some_iff.1 hformat, rfl⟩

/-- A chart that is written has been published, in the format that its path names. -/
theorem plot_eq_ok {written : File.Tree}
    (h : plot size xs ys legend output files = (.ok (), written)) :
    ∃ format : Format, format.IsNamedBy output ∧
      files.publish output ".slidegen-chart-" ("." ++ format.extension)
        (.chart (draw format size legend xs ys)) = (.ok (), written) := by
  rw [plot] at h
  rcases @image_cases size xs ys legend output with
    ⟨⟨fault, himage⟩, -⟩ | ⟨-, ⟨himage, -⟩ | ⟨format, hformat, himage⟩⟩
  · rw [himage] at h
    exact nomatch (Prod.mk.inj h).1
  · rw [himage] at h
    exact nomatch (Prod.mk.inj h).1
  · rw [himage] at h
    dsimp only at h
    split at h
    · next last hpublish =>
      obtain rfl := (Prod.mk.inj h).2
      exact ⟨format, hformat, hpublish⟩
    · exact nomatch (Prod.mk.inj h).1

/-- There is a name for the unfinished chart if the folder takes it. -/
theorem exists_unfinished_iff (format : Format) :
    (∃ temporary, files.freshAddress output.folder ".slidegen-chart-" ("." ++ format.extension)
      = .ok temporary) ↔ files.TakesBeside output format.unfinishedName :=
  File.Tree.exists_freshAddress_iff (by cases format <;> decide) (by cases format <;> decide)
    (by cases format <;> decide)

/-- Every attempt to plot ends in one of these ways. -/
theorem ends_plotWith : Ends render size xs ys legend output files
    (plotWith render size xs ys legend output files) := by
  rw [plotWith]
  rcases @image_cases size xs ys legend output with
    ⟨⟨fault, himage⟩, hpoints⟩ | ⟨hpoints, ⟨himage, hnone⟩ | ⟨format, hformat, himage⟩⟩
  · rw [himage]
    exact .refused fault hpoints
  · rw [himage]
    exact .failed .chartFormat hpoints (.noFormat hnone)
  rw [himage]
  dsimp only
  split
  · next cause hfresh =>
    refine .failed _ hpoints (.noFolder hformat fun htakes => ?_)
    obtain ⟨temporary, h⟩ := (exists_unfinished_iff format).2 htakes
    cases hfresh.symm.trans h
  · next temporary hfresh =>
    obtain ⟨hfree, hne⟩ := File.Tree.isFree_of_freshAddress hfresh
    have hmoved : _ ↔ files.TakesFile output := File.Tree.exists_rename_iff hfree hne
      (render (draw format size legend xs ys)).contents
    -- whatever fails from here on, the file beside the place is removed
    rw [File.Tree.unset_set hfree]
    split
    · next text hfailure => exact .failed _ hpoints (.notDrawn hformat (hfailure ▸ by simp))
    · next hdrawn =>
      split
      · next cause hrename =>
        refine .failed _ hpoints (.notMoved hformat fun htakes => ?_)
        obtain ⟨renamed, h⟩ := hmoved.2 htakes
        cases hrename.symm.trans h
      · next renamed hrename =>
        refine .written hpoints ?_ hformat (File.Tree.saves_of_rename hfree hne hrename)
        rintro (hnone | ⟨hother, hfolder⟩ | ⟨hother, hfailure⟩ | ⟨-, hplace⟩)
        · exact hnone format hformat
        · obtain rfl := hformat.unique hother
          exact hfolder ((exists_unfinished_iff format).1 ⟨temporary, hfresh⟩)
        · obtain rfl := hformat.unique hother
          exact hfailure hdrawn
        · exact hplace (hmoved.1 ⟨renamed, hrename⟩)

variable (render size xs ys legend output files)

/-- An attempt to write the image of a chart fails for exactly the reasons that it should, and a failure
leaves all as it was. What is written is at the place of the path, and nothing else has changed. -/
theorem plot_atomic :
    plot size xs ys legend output files
        = plotWith (.ofFiles files output) size xs ys legend output files ∧
      ((∃ fault, (plotWith render size xs ys legend output files).1 = .error (.invalidArgument fault)) ↔
        xs.length ≠ ys.length ∨ xs = []) ∧
      ((∃ fault, (plotWith render size xs ys legend output files).1
          = .error (.artifactWrite output fault)) ↔
        ¬ (xs.length ≠ ys.length ∨ xs = []) ∧ Fails render size xs ys legend output files) ∧
      (((plotWith render size xs ys legend output files).1 = .ok () ∧
          ∃ format : Format, format.IsNamedBy output ∧
            files.Saves output (render (draw format size legend xs ys)).contents
              (plotWith render size xs ys legend output files).2) ∨
        (((∃ fault, (plotWith render size xs ys legend output files).1
              = .error (.invalidArgument fault)) ∨
            ∃ fault, (plotWith render size xs ys legend output files).1
              = .error (.artifactWrite output fault)) ∧
          (plotWith render size xs ys legend output files).2 = files)) := by
  refine ⟨plot_eq_plotWith .., ?_⟩
  generalize hrun : plotWith render size xs ys legend output files = run
  have hends : Ends render size xs ys legend output files run := hrun ▸ ends_plotWith
  cases hends with
  | refused fault hpoints =>
    exact ⟨iff_of_true ⟨fault, rfl⟩ hpoints, iff_of_false (by simp) (·.1 hpoints),
      .inr ⟨.inl ⟨fault, rfl⟩, rfl⟩⟩
  | failed fault hpoints hfails =>
    exact ⟨iff_of_false (by simp) hpoints, iff_of_true ⟨fault, rfl⟩ ⟨hpoints, hfails⟩,
      .inr ⟨.inr ⟨fault, rfl⟩, rfl⟩⟩
  | written hpoints hfails hformat hsaves =>
    exact ⟨iff_of_false (by simp) hpoints, iff_of_false (by simp) (hfails ·.2),
      .inl ⟨rfl, _, hformat, hsaves⟩⟩

end SlideDeck.Chart
