import SlideDeck.Proofs.Render.Trace

/-!
# What is prescribed is what happens

A run has the result and leaves the session that are prescribed for it, so that these are determined:
`SlideRun.renderContent_eq` for a slide, `Completed.renderFrom_append` for slides that succeed and
`Prescribed.render_eq` for all of a run.
-/

namespace SlideDeck.Render

variable {σ : Type} {backend : Backend σ} {options : Options} {slides : List Slide}
  {before after : Session σ} {calls : List Call} {result : Except Error Unit}

/-! ## Slides -/

/-- A slide leads to what is prescribed for it. -/
theorem SlideRun.renderContent_eq {image : File.Path} {slide : Slide}
    (h : SlideRun backend image slide before calls result after) :
    renderContent backend image slide before = (result, after) := by
  cases h with
  | single hcall hanswer =>
    rw [renderContent_of_call? backend hcall]
    exact hanswer
  | blankX hcontent hx =>
    simp only [renderContent, hcontent]
    exact bind_of_error (makes_plotSource_of_blank backend (checkLabels_of_blankX hx)).1
  | blankY hcontent hx hy =>
    simp only [renderContent, hcontent]
    exact bind_of_error (makes_plotSource_of_blank backend (checkLabels_of_blankY hx hy)).1
  | unread hcontent hlabels hload =>
    simp only [renderContent, hcontent]
    exact bind_of_error (makes_plotSource_of_unread backend (checkLabels_eq_ok hlabels) hload).1
  | undrawn hcontent hlabels hload hplot =>
    simp only [renderContent, hcontent]
    exact bind_of_error (makes_plotSource backend (checkLabels_eq_ok hlabels) hload hplot).1
  | drawn hcontent hlabels hload hplot himage =>
    simp only [renderContent, hcontent]
    rw [bind_of_ok (makes_plotSource backend (checkLabels_eq_ok hlabels) hload hplot).1]
    exact himage

/-- Behind slides that succeed, a run goes on with the others from the session that these leave. -/
theorem Completed.renderFrom_append {image : Nat → File.Path} {index : Nat} {earlier : List Slide}
    (h : Completed backend image index earlier before calls after) (rest : List Slide) :
    renderFrom backend image index (earlier ++ rest) before
      = renderFrom backend image (index + earlier.length) rest after := by
  induction h with
  | nil => rfl
  | @cons index slide earlier before middle after calls more hslide _ ih =>
    have hrendered : mapError (.render index slide.kind.name)
        (renderContent backend (image index) slide) before = (.ok (), middle) := by
      rw [mapError, hslide.renderContent_eq]
    have hindex : index + 1 + earlier.length = index + (slide :: earlier).length := by
      rw [List.length_cons]
      omega
    rw [List.cons_append, renderFrom, bind_of_ok hrendered, ih, hindex]

/-- The first slide that fails ends the run. -/
theorem renderFrom_of_slideRun {image : Nat → File.Path} {index : Nat} {slide : Slide}
    {rest : List Slide} {error : Error}
    (h : SlideRun backend (image index) slide before calls (.error error) after) :
    renderFrom backend image index (slide :: rest) before
      = (.error (.render index slide.kind.name error), after) := by
  have hrendered : mapError (.render index slide.kind.name)
      (renderContent backend (image index) slide) before
      = (.error (.render index slide.kind.name error), after) := by
    rw [mapError, h.renderContent_eq]
  rw [renderFrom, bind_of_error hrendered]

/-! ## Runs -/

/-- A plot among the slides is found. -/
theorem any_isPlot_of_mem {plot : Slide} (h : plot ∈ slides ∧ plot.kind = .plot) :
    slides.any isPlot = true := List.any_eq_true.2 ⟨plot, h.1, beq_iff_eq.2 h.2⟩

/-- Without plots, none is found. -/
theorem any_isPlot_eq_false (h : ∀ slide ∈ slides, slide.kind ≠ .plot) :
    slides.any isPlot = false :=
  List.any_eq_false.2 fun slide hmem hplot => h slide hmem (beq_iff_eq.1 hplot)

/-- With a place for images, all slides are rendered there. -/
theorem Workplace.render_eq {folder : File.Path} {files : File.Tree} {leave : File.Tree → File.Tree}
    (hplace : Workplace options slides before.files folder files leave)
    (hall : renderAll backend options folder slides { before with files } = (result, after)) :
    render backend options slides before = (result, { after with files := leave after.files }) := by
  cases hplace with
  | chosen hfolder hmade =>
    have hfolders : (onFiles (makeChartFolder folder) : Act σ Unit) before
        = (.ok (), { before with files }) := by
      rw [onFiles, makeChartFolder, hmade]
    simp only [render, hfolder]
    rw [bind_of_ok hfolders]
    exact hall
  | unneeded hfolder hplots =>
    simp only [render, hfolder, any_isPlot_eq_false hplots, Bool.false_eq_true, ite_false]
    exact hall
  | scratch hfolder hplot hmade =>
    simp only [render, hfolder, any_isPlot_of_mem hplot, ite_true]
    rw [withScratch, hmade]
    simp only [hall]

/-- Without a place for images, nothing is rendered. -/
theorem NoWorkplace.render_eq {path : File.Path} {cause : File.Error} {files : File.Tree}
    (hplace : NoWorkplace options slides before.files path cause files) :
    render backend options slides before
      = (.error (.artifactWrite path (.file cause)), { before with files }) := by
  cases hplace with
  | chosen hfolder hmade =>
    have hfolders : (onFiles (makeChartFolder path) : Act σ Unit) before
        = (.error (.artifactWrite path (.file cause)), { before with files }) := by
      rw [onFiles, makeChartFolder, hmade]
    simp only [render, hfolder]
    rw [bind_of_error hfolders]
  | scratch hfolder hplot hmade =>
    simp only [render, hfolder, any_isPlot_of_mem hplot, ite_true]
    rw [withScratch, hmade]

/-- What a run makes of the last answer is determined by it. -/
theorem Finished.eq_mapError {output : File.Path} {answer : Except Error Unit}
    (h : Finished output answer result) : answer.mapError (writeError output) = result := by
  cases h with
  | written | own => rfl
  | @wrapped error hother =>
    cases error with
    | artifactWrite path fault => exact absurd rfl (hother path fault)
    | _ => rfl

/-- A run leads to what is prescribed for it. -/
theorem Prescribed.render_eq (h : Prescribed backend options slides before calls result after) :
    render backend options slides before = (result, after) := by
  cases h with
  | noWorkplace hplace => exact hplace.render_eq
  | @slideFails folder files leave earlier rest slide _ _ middle last _ hplace hslides hearlier hslide =>
    refine hplace.render_eq (bind_of_error ?_)
    rw [hslides, hearlier.renderFrom_append, Nat.zero_add]
    exact renderFrom_of_slideRun hslide
  | @finalized folder files leave _ middle last answer _ hplace hslides hfinal hresult =>
    have hrendered : renderFrom backend (imagePath folder options.chartFormat) 0 slides
        { before with files } = (.ok (), middle) := by
      have happend := hslides.renderFrom_append []
      rw [List.append_nil] at happend
      exact happend
    have hfinished : mapError (writeError options.output) (backend (.finalize options.output)) middle
        = (result, last) := by
      rw [mapError, hfinal, ← hresult.eq_mapError]
      cases answer <;> rfl
    exact hplace.render_eq ((bind_of_ok hrendered).trans hfinished)

/-! ## Configurations -/

variable {configuration : File.Path}

/-- A configuration that can be loaded is rendered. -/
theorem generate_of_load_eq_ok (before : Session σ)
    (h : Configuration.load before.files configuration = .ok slides) :
    generate backend options configuration before = render backend options slides before := by
  have hread : (fromFiles (Configuration.load · configuration) : Act σ (List Slide)) before
      = (.ok slides, before) := by
    rw [fromFiles, h]
  exact bind_of_ok hread

/-- A configuration that cannot be loaded changes nothing. -/
theorem generate_of_load_eq_error (before : Session σ) {error : Error}
    (h : Configuration.load before.files configuration = .error error) :
    generate backend options configuration before = (.error error, before) := by
  have hread : (fromFiles (Configuration.load · configuration) : Act σ (List Slide)) before
      = (.error error, before) := by
    rw [fromFiles, h]
  exact bind_of_error hread

end SlideDeck.Render
