import SlideDeck.Proofs.Render.Confined

/-!
# The images of plots

The image of a plot is named by the index of its slide, with zeros before it up to three digits. Names of
different indices differ, whatever their widths (`imageName_injective`), and the extension names a format
for every stage that reads it. So a run draws each plot into a file of its own, and what was drawn there
is there as long as the folder is (`imagePath_injective_and_kept`).
-/

namespace SlideDeck

/-- The format in which a deck embeds images of a format. -/
def Chart.Format.embedded : Chart.Format → Picture.Format
  | .svg => .svg
  | .png => .png

namespace Render

open File.Tree (Changes IsPlaceOf)

variable {format : Chart.Format} {folder : File.Path}

/-! ## Names -/

/-- The name of the image of the plot with an index. -/
def imageName (format : Chart.Format) (index : Nat) : String :=
  "plot-" ++ threeDigits index ++ "." ++ format.extension

/-- Zeros before digits do not count. -/
theorem ofDigitChars_replicate_append (k : Nat) (digits : List Char) :
    Nat.ofDigitChars 10 (List.replicate k '0' ++ digits) 0 = Nat.ofDigitChars 10 digits 0 := by
  induction k with
  | zero => rfl
  | succ k ih =>
    rw [List.replicate_succ, List.cons_append, Nat.ofDigitChars_cons]
    exact ih

/-- The zeros in front of a number change nothing about its value. -/
theorem ofDigitChars_threeDigits (n : Nat) : Nat.ofDigitChars 10 (threeDigits n).toList 0 = n := by
  rw [threeDigits, String.toList_ofList, ofDigitChars_replicate_append, Nat.toString_eq_repr,
    Nat.toList_repr, Nat.ofDigitChars_ten_toDigits]

/-- So different numbers have different digits. -/
theorem threeDigits_injective {m n : Nat} (h : threeDigits m = threeDigits n) : m = n := by
  rw [← ofDigitChars_threeDigits m, h, ofDigitChars_threeDigits]

/-- The number in the name of an image stands between a fixed start and a fixed end. -/
theorem imageName_injective {i j : Nat} (h : imageName format i = imageName format j) : i = j := by
  have hchars := congrArg String.toList h
  simp only [imageName, String.toList_append, List.append_assoc] at hchars
  exact threeDigits_injective
    (String.toList_injective (List.append_cancel_right (List.append_cancel_left hchars)))

/-- The name of an image is not one of dots. -/
theorem imageName_not_dots (format : Chart.Format) (index : Nat) :
    imageName format index ≠ "." ∧ imageName format index ≠ ".." := by
  have hlast := getLast?_imageName format index
  constructor <;>
  · intro hdots
    rw [imageName] at hdots
    rw [hdots] at hlast
    exact absurd hlast (by decide)

/-- The path of an image ends in its name. -/
theorem getLast?_names_imagePath (folder : File.Path) (format : Chart.Format) (index : Nat) :
    (imagePath folder format index).names.getLast? = some (imageName format index) := by
  obtain ⟨hslash, hne⟩ := not_mem_imageName format index
  rw [imagePath, File.Path.names_child _ hslash hne, List.getLast?_concat, imageName]

/-- Its name is that of the file. -/
theorem fileName?_imagePath (folder : File.Path) (format : Chart.Format) (index : Nat) :
    (imagePath folder format index).fileName? = some (imageName format index).toList := by
  obtain ⟨hslash, hne⟩ := not_mem_imageName format index
  exact File.Path.fileName?_child folder hslash hne (imageName_not_dots format index)

/-- Plots with different indices go into files with different names. -/
theorem fileName?_imagePath_injective (folder : File.Path) (format : Chart.Format) :
    Function.Injective fun index => (imagePath folder format index).fileName? := by
  intro i j h
  simp only [fileName?_imagePath, Option.some.injEq] at h
  exact imageName_injective (String.toList_injective h)

/-! ## Formats -/

/-- The extension of an image is that of its format. -/
theorem extension?_imagePath (folder : File.Path) (format : Chart.Format) (index : Nat) :
    (imagePath folder format index).extension? = some format.extension.toList := by
  have hdot : '.' ∉ format.extension.toList := by cases format <;> decide
  have hname : (imageName format index).toList
      = ("plot-" ++ threeDigits index).toList ++ '.' :: format.extension.toList := by
    simp [imageName]
  rw [File.Path.extension?, fileName?_imagePath, Option.bind_some, hname]
  exact File.Path.extensionOf_append (by simp) hdot

/-- So the path names the format. -/
theorem isNamedBy_imagePath (folder : File.Path) (format : Chart.Format) (index : Nat) :
    format.IsNamedBy (imagePath folder format index) :=
  ⟨_, extension?_imagePath folder format index, by cases format <;> decide⟩

/-- Whether the stages behind take a path for that of an image in a format: charts are drawn there in
this format, the deck embeds files with this extension, and it loads whatever chart was drawn. -/
structure IsAccepted (format : Chart.Format) (path : File.Path) : Prop where
  drawn : Chart.Format.ofPath? path = some format
  embedded : path.extension?.bind Picture.Format.ofExtension? = some format.embedded
  loads : ∀ (files : File.Tree) (drawing : Chart.Drawing), drawing.format = format →
    files.read path = .ok (.chart drawing) →
    ∃ picture, Picture.load files path = .ok picture ∧ picture.contents = .chart drawing

/-- The stages behind accept the path of an image. -/
theorem isAccepted_imagePath (folder : File.Path) (format : Chart.Format) (index : Nat) :
    IsAccepted format (imagePath folder format index) := by
  have hembedded : (imagePath folder format index).extension?.bind Picture.Format.ofExtension?
      = some format.embedded := by
    rw [extension?_imagePath]
    cases format <;> decide
  refine ⟨Chart.Format.ofPath?_eq_some_iff.2 (isNamedBy_imagePath folder format index), hembedded,
    fun files drawing hformat hread => ?_⟩
  rw [Picture.load, hembedded, hread]
  -- a chart in PNG has a size, and one in SVG needs none
  subst hformat
  cases hkind : drawing.format with
  | svg => exact ⟨_, rfl, rfl⟩
  | png => exact ⟨⟨.png, .chart drawing, some ⟨drawing.width, drawing.height⟩⟩,
      by simp [Chart.Format.embedded, Picture.ofContents, Picture.rasterSize?, hkind], rfl⟩

/-! ## Where plots are drawn -/

section Calls

variable {σ : Type} {backend : Backend σ} {options : Options} {image : File.Path} {slide : Slide}
  {slides : List Slide} {before after : Session σ} {calls : List Call} {result : Except Error Unit}

/-- The file that a call draws a plot into. -/
def Call.plotted? : Call → Option File.Path
  | .plot _ _ _ output => some output
  | _ => none

/-- The files that calls draw plots into, in the order of the calls. -/
def plotted (calls : List Call) : List File.Path := calls.filterMap Call.plotted?

/-- The images of calls in turn are those of both, in turn. -/
theorem plotted_append (calls more : List Call) : plotted (calls ++ more) = plotted calls ++ plotted more :=
  List.filterMap_append

/-- The image of a plot is among those plotted. -/
theorem mem_plotted {xs ys : List Float} {legend : Chart.Legend}
    (h : .plot xs ys legend image ∈ calls) : image ∈ plotted calls :=
  List.mem_filterMap.2 ⟨_, h, rfl⟩

/-- The call of another slide plots nothing. -/
theorem plotted?_of_call? {call : Call} (h : call? slide = some call) : call.plotted? = none := by
  unfold call? at h
  split at h <;> cases h <;> rfl

/-- A slide that takes one call is no plot. -/
theorem isPlot_of_call? {call : Call} (h : call? slide = some call) : isPlot slide = false := by
  rw [call?] at h
  rw [isPlot, Slide.kind]
  cases hcontent : slide.content with
  | plot source labels =>
    rw [hcontent] at h
    cases h
  | title | text | list | picture => rfl

/-- The image of a slide, if it is a plot. -/
def ownImage (image : File.Path) (slide : Slide) : List File.Path := if isPlot slide then [image] else []

/-- A slide has its image or none. -/
theorem ownImage_sublist (image : File.Path) (slide : Slide) : (ownImage image slide).Sublist [image] := by
  rw [ownImage]
  split
  · exact List.Sublist.refl _
  · exact List.nil_sublist _

/-- The images of the plots among slides, the first of which has the given index. -/
def plotImages (image : Nat → File.Path) (index : Nat) : List Slide → List File.Path
  | [] => []
  | slide :: rest => ownImage (image index) slide ++ plotImages image (index + 1) rest

/-- The images of slides in turn are those of both, with the indices going on. -/
theorem plotImages_append (image : Nat → File.Path) (index : Nat) (slides more : List Slide) :
    plotImages image index (slides ++ more)
      = plotImages image index slides ++ plotImages image (index + slides.length) more := by
  induction slides generalizing index with
  | nil => rfl
  | cons slide rest ih =>
    rw [List.cons_append, plotImages, plotImages, ih, List.append_assoc, List.length_cons,
      Nat.add_assoc, Nat.add_comm 1]

/-- They are among the images of all indices, in order. -/
theorem plotImages_sublist (image : Nat → File.Path) (index : Nat) (slides : List Slide) :
    (plotImages image index slides).Sublist ((List.range' index slides.length).map image) := by
  induction slides generalizing index with
  | nil => exact List.nil_sublist _
  | cons slide rest ih =>
    rw [plotImages, List.length_cons, List.range'_succ, List.map_cons]
    exact (ownImage_sublist (image index) slide).append (ih (index + 1))

/-- A plot draws into its own image or, if it fails, maybe nowhere. Other slides draw nothing. -/
theorem SlideRun.plotted_isStart (h : SlideRun backend image slide before calls result after) :
    plotted calls <+: ownImage image slide ∧ (result = .ok () → plotted calls = ownImage image slide) := by
  have hown : ∀ {source labels}, slide.content = .plot source labels → ownImage image slide = [image] :=
    fun hcontent => if_pos (beq_iff_eq.2 (kind_of_content hcontent))
  cases h with
  | @single call _ _ hcall hanswer =>
    have hnone : plotted [call] = ownImage image slide := by
      rw [plotted, List.filterMap_cons, plotted?_of_call? hcall, ownImage, isPlot_of_call? hcall]
      rfl
    exact ⟨hnone ▸ List.prefix_refl _, fun _ => hnone⟩
  | blankX | blankY | unread => exact ⟨List.nil_prefix, fun herror => nomatch herror⟩
  | undrawn hcontent hlabels hload hplot =>
    exact ⟨hown hcontent ▸ List.prefix_refl _, fun herror => nomatch herror⟩
  | drawn hcontent hlabels hload hplot himage =>
    exact ⟨hown hcontent ▸ List.prefix_refl _, fun _ => (hown hcontent).symm⟩

/-- Slides that succeed draw the images of all plots, in the order of the slides. -/
theorem Completed.plotted_eq {image : Nat → File.Path} {index : Nat}
    (h : Completed backend image index slides before calls after) :
    plotted calls = plotImages image index slides := by
  induction h with
  | nil => rfl
  | cons hslide hrest ih => rw [plotted_append, plotImages, hslide.plotted_isStart.2 rfl, ih]

/-- A run draws the images of plots in the order of the slides, up to a slide that fails. -/
theorem Prescribed.exists_plotted_isStart
    (h : Prescribed backend options slides before calls result after) :
    ∃ folder, plotted calls <+: plotImages (imagePath folder options.chartFormat) 0 slides ∧
      (result = .ok () → plotted calls = plotImages (imagePath folder options.chartFormat) 0 slides) := by
  cases h with
  | @noWorkplace path => exact ⟨path, List.nil_prefix, fun herror => nomatch herror⟩
  | @slideFails folder _ _ _ _ _ _ _ _ _ _ hplace hslides hearlier hslide =>
    refine ⟨folder, ?_, fun herror => nomatch herror⟩
    rw [hslides, plotted_append, plotImages_append, hearlier.plotted_eq, Nat.zero_add, plotImages,
      List.prefix_append_right_inj]
    exact hslide.plotted_isStart.1.trans (List.prefix_append _ _)
  | @finalized folder _ _ _ _ _ _ _ hplace hslides hfinal hresult =>
    have hlast : plotted [.finalize options.output] = [] := rfl
    rw [plotted_append, hlast, List.append_nil, hslides.plotted_eq]
    exact ⟨folder, List.prefix_refl _, fun _ => rfl⟩

end Calls

/-! ## What is there of the plots -/

section Contents

variable {size : Chart.Size} {index : Nat} {slide : Slide} {slides : List Slide}
  {before after : Session Deck} {files last : File.Tree} {calls : List Call}
  {result : Except Error Unit}

/-- Whether every plot that calls have drawn is in its file, as it was drawn by that call. -/
def KeepsPlots (size : Chart.Size) (format : Chart.Format) (calls : List Call) (files : File.Tree) : Prop :=
  ∀ xs ys legend image, .plot xs ys legend image ∈ calls →
    files.read image = .ok (.chart (Chart.draw format size legend xs ys))

/-- Plots are kept of calls in turn if they are of both. -/
theorem KeepsPlots.append {more : List Call} (h : KeepsPlots size format calls files)
    (h' : KeepsPlots size format more files) : KeepsPlots size format (calls ++ more) files :=
  fun xs ys legend image hmem =>
    (List.mem_append.1 hmem).elim (h xs ys legend image) (h' xs ys legend image)

/-- Plots stay as they are if only files of other names are changed than those of their images. -/
theorem KeepsPlots.mono {changed : File.Address → Prop} {indices : List Nat}
    (h : KeepsPlots size format calls files)
    (hplotted : (plotted calls).Sublist (indices.map (imagePath folder format)))
    (hchanges : Changes changed files last)
    (hkept : ∀ i ∈ indices, ∀ parent, ¬ changed (parent ++ [imageName format i])) :
    KeepsPlots size format calls last := by
  intro xs ys legend image hmem
  obtain ⟨i, hi, rfl⟩ := List.mem_map.1 (hplotted.subset (mem_plotted hmem))
  have hdots : File.Tree.isDots (imageName format i) = false := by
    obtain ⟨hdot, hdots⟩ := imageName_not_dots format i
    rw [File.Tree.isDots, Bool.or_eq_false_iff, beq_eq_false_iff_ne, beq_eq_false_iff_ne]
    exact ⟨hdot, hdots⟩
  exact hchanges.read_eq_ok (getLast?_names_imagePath folder format i) hdots (hkept i hi)
    (h xs ys legend _ hmem)

/-- Where the image of one index has been drawn is not the place of another. -/
theorem not_isDrawn {i j : Nat} (hne : i ≠ j) (parent : File.Address) :
    ¬ IsDrawn (imagePath folder format j) files (parent ++ [imageName format i]) := by
  intro hdrawn
  have hname := hdrawn.place.name_eq
  rw [getLast?_names_imagePath, Option.some.injEq] at hname
  exact hne (imageName_injective hname).symm

/-- A slide leaves its plot in the file: all that its calls but the last have drawn, and all of it if the
slide succeeds. -/
theorem SlideRun.keepsPlots
    (h : SlideRun (presentationBackend size) (imagePath folder format index) slide before calls result
      after) :
    KeepsPlots size format calls.dropLast after.files ∧
      (result = .ok () → KeepsPlots size format calls after.files) := by
  have hnone : KeepsPlots size format [] after.files := fun _ _ _ _ hmem => nomatch hmem
  cases h with
  | single hcall hanswer =>
    refine ⟨hnone, fun _ xs ys legend image hmem => ?_⟩
    have hplotted := plotted?_of_call? hcall
    rw [← List.mem_singleton.1 hmem] at hplotted
    cases hplotted
  | blankX | blankY | unread => exact ⟨hnone, fun herror => nomatch herror⟩
  | undrawn => exact ⟨hnone, fun herror => nomatch herror⟩
  | @drawn source labels series middle _ _ hcontent hlabels hload hplot himage =>
    have hthere : KeepsPlots size format
        [.plot series.x series.y ⟨labels, slide.title⟩ (imagePath folder format index)] after.files := by
      intro xs ys legend image hmem
      obtain ⟨rfl, rfl, rfl, rfl⟩ := Call.plot.inj (List.mem_singleton.1 hmem)
      obtain ⟨found, hfound, hpublish⟩ := Chart.plot_eq_ok (plot_of_answer hplot).1
      obtain rfl := hfound.unique (isNamedBy_imagePath folder format index)
      rw [files_of_answer rfl himage]
      exact File.Tree.read_of_publish hpublish
    refine ⟨hthere, fun _ => hthere.append fun xs ys legend image hmem => ?_⟩
    cases List.mem_singleton.1 hmem

/-- Slides that succeed draw images of their own indices, in order. -/
theorem Completed.plotted_sublist {image : Nat → File.Path}
    (h : Completed (presentationBackend size) image index slides before calls after) :
    (plotted calls).Sublist ((List.range' index slides.length).map image) :=
  h.plotted_eq ▸ plotImages_sublist image index slides

/-- Slides that succeed leave all their plots in their files, by induction on the slides. -/
theorem Completed.keepsPlots
    (h : Completed (presentationBackend size) (imagePath folder format) index slides before calls after) :
    KeepsPlots size format calls after.files := by
  induction h with
  | nil => exact fun _ _ _ _ hmem => nomatch hmem
  | @cons index slide rest before middle after calls more hslide hrest ih =>
    -- the plot of the first slide is not drawn over, as the indices of the rest are greater
    have hfirst : (plotted calls).Sublist ([index].map (imagePath folder format)) :=
      hslide.plotted_isStart.1.sublist.trans (ownImage_sublist _ slide)
    refine ((hslide.keepsPlots.2 rfl).mono hfirst hrest.changes fun i hi parent => ?_).append ih
    obtain rfl := List.mem_singleton.1 hi
    rintro ⟨k, later, -, -, hdrawn⟩
    exact not_isDrawn (by omega) parent hdrawn

theorem dropLast_append_subset {α : Type} (a b : List α) : (a ++ b).dropLast ⊆ a ++ b.dropLast := by
  cases b with
  | nil =>
    rw [List.append_nil]
    exact fun _ hmem => List.mem_append_left _ (List.dropLast_subset a hmem)
  | cons x b =>
    rw [List.dropLast_append_of_ne_nil (List.cons_ne_nil x b)]
    exact List.Subset.refl _

/-- The last call leaves all plots in their files, as the name of a deck is not that of an image. -/
theorem KeepsPlots.finalize {output : File.Path} {answer : Except Error Unit} {indices : List Nat}
    (h : KeepsPlots size format calls before.files)
    (hplotted : (plotted calls).Sublist (indices.map (imagePath folder format)))
    (hfinal : presentationBackend size (.finalize output) before = (answer, after)) :
    KeepsPlots size format calls after.files := by
  refine h.mono hplotted (changes_of_finalize hfinal) ?_
  rintro i - parent ⟨rfl, hplace⟩
  have hpptx := Deck.isPptx_of_finalize (finalize_of_answer hfinal)
  exact getLast?_of_isPptx hpptx hplace.name_eq (getLast?_imageName format i)

/-- A run in a folder leaves all plots in their files that its calls but the last have drawn: the last call
is the one that has failed, or finishes the deck. -/
theorem keepsPlots_renderAll (size : Chart.Size) (folder : File.Path) (options : Options)
    (slides : List Slide) (before : Session Deck) :
    ∃ calls result after, Makes (renderAll (presentationBackend size) options folder slides)
        (renderAll (presentationBackend size).traced options folder slides) before calls result after ∧
      KeepsPlots size options.chartFormat calls.dropLast after.files := by
  obtain ⟨calls, result, middle, hrun, hmakes⟩ :=
    exists_slidesRun (presentationBackend size) (imagePath folder options.chartFormat) 0 slides before
  cases hrun with
  | completed hslides =>
    have hfinal : Makes (presentationBackend size (.finalize options.output))
        ((presentationBackend size).traced (.finalize options.output)) middle [.finalize options.output]
        _ _ := .call (presentationBackend size) rfl
    refine ⟨_, _, _, hmakes.andThen (hfinal.mapError (writeError options.output)), ?_⟩
    rw [List.dropLast_concat]
    exact hslides.keepsPlots.finalize hslides.plotted_sublist hfinal.1
  | @failed earlier rest slide calls last between _ error hslides hearlier hslide =>
    rw [Nat.zero_add] at hslide hmakes
    refine ⟨_, _, _, hmakes.stop, ?_⟩
    have hkept : KeepsPlots size options.chartFormat calls middle.files :=
      hearlier.keepsPlots.mono hearlier.plotted_sublist hslide.changes fun i hi parent hdrawn => by
        have hlt := (List.mem_range'_1.1 hi).2
        exact not_isDrawn (by omega) parent hdrawn.2
    exact fun xs ys legend image hmem =>
      hkept.append hslide.keepsPlots.1 xs ys legend image (dropLast_append_subset calls last hmem)

end Contents

/-! ## All images -/

/-- In every folder, the images of plots with different indices have different paths, which differ even in
the name of the file, and the stages behind accept each of them. So a run, whatever its back end, draws the
images of its plots in the order of the slides, up to a slide that fails, and none of them twice. The back
end that builds presentations finds each plot in its file when the run is over, just as the call for that
plot has drawn it, whether the deck is finished or a slide fails. A call that has drawn a plot is followed
by one that shows it, so only the last call can be one that has not drawn it. -/
theorem imagePath_injective_and_kept (folder : File.Path) (format : Chart.Format) :
    Function.Injective (imagePath folder format) ∧
      (Function.Injective fun index => (imagePath folder format index).fileName?) ∧
      (∀ index, IsAccepted format (imagePath folder format index)) ∧
      (∀ (σ : Type) (backend : Backend σ) (options : Options) (slides : List Slide) (before : Session σ),
        let run := render backend.traced options slides (before.traced [])
        let images := plotted run.2.backend.1
        (∃ place, images <+: plotImages (imagePath place options.chartFormat) 0 slides ∧
          (run.1 = .ok () → images = plotImages (imagePath place options.chartFormat) 0 slides)) ∧
          images.Pairwise fun first second => first.fileName? ≠ second.fileName?) ∧
      ∀ (size : Chart.Size) (options : Options) (slides : List Slide) (before : Session Deck),
        let after := (renderAll (presentationBackend size).traced options folder slides
          (before.traced [])).2
        KeepsPlots size options.chartFormat after.backend.1.dropLast after.files := by
  have hnames := fileName?_imagePath_injective folder format
  refine ⟨fun i j h => hnames (congrArg File.Path.fileName? h), hnames, isAccepted_imagePath folder format,
    fun σ backend options slides before => ?_, fun size options slides before => ?_⟩
  · obtain ⟨calls, result, after, hprescribed, -, -, hmakes⟩ :=
      makes_prescribed backend options slides before
    obtain ⟨place, hstart, hall⟩ := hprescribed.exists_plotted_isStart
    have hdifferent : ((List.range' 0 slides.length).map
        (imagePath place options.chartFormat)).Pairwise
        fun first second => first.fileName? ≠ second.fileName? :=
      List.pairwise_map.2 ((List.nodup_range' 1).imp fun hne h =>
        hne (fileName?_imagePath_injective place options.chartFormat h))
    rw [hmakes []]
    exact ⟨⟨place, hstart, hall⟩,
      hdifferent.sublist (hstart.sublist.trans (plotImages_sublist _ 0 slides))⟩
  · obtain ⟨calls, result, after, hmakes, hkept⟩ :=
      keepsPlots_renderAll size folder options slides before
    rw [hmakes.2 []]
    exact hkept

example : [7, 999, 1000, 123456].map (imagePath ⟨"charts/."⟩ .png) = [⟨"charts/./plot-007.png"⟩,
    ⟨"charts/./plot-999.png"⟩, ⟨"charts/./plot-1000.png"⟩, ⟨"charts/./plot-123456.png"⟩] := by decide

end Render

end SlideDeck
