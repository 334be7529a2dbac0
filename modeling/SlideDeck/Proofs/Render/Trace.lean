import SlideDeck.Proofs.File.Text
import SlideDeck.Render

/-!
# The calls of a run

`Prescribed` says which calls of a back end a list of slides takes, how each of them may end the run, and
what the run then results in. Whatever the back end answers, a run makes these calls and no others
(`makes_prescribed`).
-/

namespace SlideDeck.Render

variable {σ : Type}

/-! ## Actions and their calls -/

/-- The session of a back end that keeps the list of the calls made. -/
def Session.traced (session : Session σ) (calls : List Call) : Session (List Call × σ) :=
  ⟨(calls, session.backend), session.files⟩

/-- Whether an action makes these calls, with this result and leaving this session. `noted` is the same
action on the back end that keeps the list of calls. -/
def Makes (action : Act σ Unit) (noted : Act (List Call × σ) Unit) (before : Session σ)
    (calls : List Call) (result : Except Error Unit) (after : Session σ) : Prop :=
  action before = (result, after) ∧
    ∀ earlier, noted (before.traced earlier) = (result, after.traced (earlier ++ calls))

/-- An action that succeeds is followed by the next. -/
theorem bind_of_ok {α β : Type} {action : Act σ α} {next : α → Act σ β} {before middle : Session σ}
    {value : α} (h : action before = (.ok value, middle)) :
    (action >>= next) before = next value middle := by
  show (do let result ← action; ExceptT.bindCont next result : StateM (Session σ) _) before = _
  simp only [bind, StateT.bind, h]
  rfl

/-- One that fails is not. -/
theorem bind_of_error {α β : Type} {action : Act σ α} {next : α → Act σ β} {before after : Session σ}
    {error : Error} (h : action before = (.error error, after)) :
    (action >>= next) before = (.error error, after) := by
  show (do let result ← action; ExceptT.bindCont next result : StateM (Session σ) _) before = _
  simp only [bind, StateT.bind, h]
  rfl

namespace Makes

variable {action next : Act σ Unit} {noted notedNext : Act (List Call × σ) Unit}
  {before middle after : Session σ} {calls more : List Call} {result : Except Error Unit}

/-- A call of the back end is that call. -/
theorem call (backend : Backend σ) {call : Call} (h : backend call before = (result, after)) :
    Makes (backend call) (backend.traced call) before [call] result after := by
  refine ⟨h, fun earlier => ?_⟩
  show ((backend call before).1, (backend call before).2.traced (earlier ++ [call])) = _
  rw [h]

/-- Doing nothing makes no calls. -/
theorem nothing : Makes (pure ()) (pure ()) before [] (.ok ()) before :=
  ⟨rfl, fun earlier => by rw [List.append_nil]; rfl⟩

/-- Behind a success, the calls of the next action follow. -/
theorem andThen (hfirst : Makes action noted before calls (.ok ()) middle)
    (hnext : Makes next notedNext middle more result after) :
    Makes (do action; next) (do noted; notedNext) before (calls ++ more) result after := by
  refine ⟨(bind_of_ok hfirst.1).trans hnext.1, fun earlier => ?_⟩
  rw [← List.append_assoc]
  exact (bind_of_ok (hfirst.2 earlier)).trans (hnext.2 (earlier ++ calls))

/-- Where the first action fails, the calls are its calls and the rest is not reached. -/
theorem stop {error : Error} (h : Makes action noted before calls (.error error) after) :
    Makes (do action; next) (do noted; notedNext) before calls (.error error) after :=
  ⟨bind_of_error h.1, fun earlier => bind_of_error (h.2 earlier)⟩

/-- An action that goes on with a value that the files have. -/
theorem fromFiles {α : Type} {value : File.Tree → Except Error α} {found : α}
    {next : α → Act σ Unit} {notedNext : α → Act (List Call × σ) Unit}
    (hvalue : value before.files = .ok found)
    (hnext : Makes (next found) (notedNext found) before calls result after) :
    Makes (Render.fromFiles value >>= next) (Render.fromFiles value >>= notedNext) before calls result
      after := by
  have hplain : (Render.fromFiles value : Act σ α) before = (.ok found, before) := by
    rw [Render.fromFiles, hvalue]
  have htraced : ∀ earlier, (Render.fromFiles value : Act (List Call × σ) α) (before.traced earlier)
      = (.ok found, before.traced earlier) := by
    intro earlier
    show (value before.files, _) = _
    rw [hvalue]
  exact ⟨(bind_of_ok hplain).trans hnext.1,
    fun earlier => (bind_of_ok (htraced earlier)).trans (hnext.2 earlier)⟩

/-- Reading the files makes no call and, when it fails, ends there. -/
theorem fromFiles_error {α : Type} {value : File.Tree → Except Error α} {error : Error}
    {next : α → Act σ Unit} {notedNext : α → Act (List Call × σ) Unit}
    (hvalue : value before.files = .error error) :
    Makes (Render.fromFiles value >>= next) (Render.fromFiles value >>= notedNext) before []
      (.error error) before := by
  have hplain : (Render.fromFiles value : Act σ α) before = (.error error, before) := by
    rw [Render.fromFiles, hvalue]
  have htraced : ∀ earlier, (Render.fromFiles value : Act (List Call × σ) α) (before.traced earlier)
      = (.error error, before.traced earlier) := by
    intro earlier
    show (value before.files, _) = _
    rw [hvalue]
  refine ⟨bind_of_error hplain, fun earlier => ?_⟩
  rw [List.append_nil]
  exact bind_of_error (htraced earlier)

/-- Rewording a failure changes no call. -/
theorem mapError (f : Error → Error) (h : Makes action noted before calls result after) :
    Makes (Render.mapError f action) (Render.mapError f noted) before calls (result.mapError f) after := by
  refine ⟨?_, fun earlier => ?_⟩
  · rw [Render.mapError, h.1]
    cases result <;> rfl
  · rw [Render.mapError, h.2]
    cases result <;> rfl

/-- An action on the files alone makes no calls. -/
theorem onFiles {change : File.Tree → Except Error Unit × File.Tree} {files : File.Tree}
    (h : change before.files = (result, files)) :
    Makes (Render.onFiles change) (Render.onFiles change) before [] result { before with files } := by
  refine ⟨?_, fun earlier => ?_⟩
  · rw [Render.onFiles, h]
  · show ((change before.files).1, _) = _
    rw [List.append_nil, h]
    show (result, (⟨(earlier, before.backend), (change before.files).2⟩ : Session _)) = _
    rw [h]
    rfl

end Makes

/-! ## What is prescribed -/

/-- The one call that a slide other than a plot takes. -/
def call? (slide : Slide) : Option Call :=
  match slide.content with
  | .title subtitle => some (.addTitle slide.kind.layout slide.title subtitle)
  | .text body => some (.addText slide.kind.layout slide.title body)
  | .list items =>
    some (.addList slide.kind.layout slide.title (items.map (·.level)) (items.map (·.text)))
  | .picture path => some (.addImage slide.kind.layout slide.title path)
  | .plot _ _ => none

/-- Whether something is left of both labels when blanks are trimmed off. -/
def HasLabels (labels : AxisLabels) : Prop :=
  Text.trim labels.x.toList ≠ [] ∧ Text.trim labels.y.toList ≠ []

/-- The call that draws a series into an image. -/
def plotCall (series : Series) (labels : AxisLabels) (title : String) (image : File.Path) : Call :=
  .plot (series.points.map (·.1)) (series.points.map (·.2)) ⟨labels, title⟩ image

section Prescription

variable (backend : Backend σ)

/-- The calls that a slide takes, with the result and the session that they lead to. -/
inductive SlideRun (image : File.Path) (slide : Slide) (before : Session σ) :
    List Call → Except Error Unit → Session σ → Prop
  | single {call : Call} {result : Except Error Unit} {after : Session σ}
      (hcall : call? slide = some call) (hanswer : backend call before = (result, after)) :
      SlideRun image slide before [call] result after
  | blankX {source : File.Path} {labels : AxisLabels} (hcontent : slide.content = .plot source labels)
      (hx : Text.trim labels.x.toList = []) :
      SlideRun image slide before [] (.error (.invalidArgument .emptyXLabel)) before
  | blankY {source : File.Path} {labels : AxisLabels} (hcontent : slide.content = .plot source labels)
      (hx : Text.trim labels.x.toList ≠ []) (hy : Text.trim labels.y.toList = []) :
      SlideRun image slide before [] (.error (.invalidArgument .emptyYLabel)) before
  | unread {source : File.Path} {labels : AxisLabels} {error : Error}
      (hcontent : slide.content = .plot source labels) (hlabels : HasLabels labels)
      (hload : Series.Loads before.files source (.error error)) :
      SlideRun image slide before [] (.error error) before
  | undrawn {source : File.Path} {labels : AxisLabels} {series : Series} {error : Error}
      {after : Session σ} (hcontent : slide.content = .plot source labels) (hlabels : HasLabels labels)
      (hload : Series.Loads before.files source (.ok series))
      (hplot : backend (plotCall series labels slide.title image) before = (.error error, after)) :
      SlideRun image slide before [plotCall series labels slide.title image] (.error error) after
  | drawn {source : File.Path} {labels : AxisLabels} {series : Series} {middle after : Session σ}
      {result : Except Error Unit} (hcontent : slide.content = .plot source labels)
      (hlabels : HasLabels labels) (hload : Series.Loads before.files source (.ok series))
      (hplot : backend (plotCall series labels slide.title image) before = (.ok (), middle))
      (himage : backend (.addImage slide.kind.layout slide.title image) middle = (result, after)) :
      SlideRun image slide before [plotCall series labels slide.title image,
        .addImage slide.kind.layout slide.title image] result after

/-- The calls of slides all of which succeed, the first of which has the given index. -/
inductive Completed (image : Nat → File.Path) :
    Nat → List Slide → Session σ → List Call → Session σ → Prop
  | nil {index : Nat} {session : Session σ} : Completed image index [] session [] session
  | cons {index : Nat} {slide : Slide} {rest : List Slide} {before middle after : Session σ}
      {calls more : List Call} (hslide : SlideRun backend (image index) slide before calls (.ok ()) middle)
      (hrest : Completed image (index + 1) rest middle more after) :
      Completed image index (slide :: rest) before (calls ++ more) after

end Prescription

/-- Where the images of plots go in a run: the folder, the files with that folder, and what becomes of
the files after the run. -/
inductive Workplace (options : Options) (slides : List Slide) (files : File.Tree) :
    File.Path → File.Tree → (File.Tree → File.Tree) → Prop
  | chosen {folder : File.Path} {made : File.Tree} (hfolder : options.chartFolder = some folder)
      (hmade : files.makeFolders folder = (.ok (), made)) : Workplace options slides files folder made id
  | unneeded (hfolder : options.chartFolder = none) (hplots : ∀ slide ∈ slides, slide.kind ≠ .plot) :
      Workplace options slides files ⟨""⟩ files id
  | scratch {address : File.Address} {path : File.Path} {made : File.Tree} {plot : Slide}
      (hfolder : options.chartFolder = none) (hplot : plot ∈ slides ∧ plot.kind = .plot)
      (hmade : files.makeScratch "slidegen-charts-" = .ok (address, path, made)) :
      Workplace options slides files path made (·.removeFolder address)

/-- Why there is no folder for the images of plots, the path that this is about, and the files that are
left. -/
inductive NoWorkplace (options : Options) (slides : List Slide) (files : File.Tree) :
    File.Path → File.Error → File.Tree → Prop
  | chosen {folder : File.Path} {cause : File.Error} {made : File.Tree}
      (hfolder : options.chartFolder = some folder)
      (hmade : files.makeFolders folder = (.error cause, made)) :
      NoWorkplace options slides files folder cause made
  | scratch {cause : File.Error} {plot : Slide} (hfolder : options.chartFolder = none)
      (hplot : plot ∈ slides ∧ plot.kind = .plot)
      (hmade : files.makeScratch "slidegen-charts-" = .error cause) :
      NoWorkplace options slides files files.temporary cause files

/-- What a run makes of the answer to the last call. -/
inductive Finished (output : File.Path) : Except Error Unit → Except Error Unit → Prop
  | written : Finished output (.ok ()) (.ok ())
  | own {path : File.Path} {fault : WriteFault} :
      Finished output (.error (.artifactWrite path fault)) (.error (.artifactWrite path fault))
  | wrapped {error : Error} (hother : ∀ path fault, error ≠ .artifactWrite path fault) :
      Finished output (.error error) (.error (.artifactWrite output (.reported error.message)))

/-- The calls of a run, with the result and the session that they lead to. -/
inductive Prescribed (backend : Backend σ) (options : Options) (slides : List Slide)
    (before : Session σ) : List Call → Except Error Unit → Session σ → Prop
  | noWorkplace {path : File.Path} {cause : File.Error} {files : File.Tree}
      (hplace : NoWorkplace options slides before.files path cause files) :
      Prescribed backend options slides before [] (.error (.artifactWrite path (.file cause)))
        { before with files }
  | slideFails {folder : File.Path} {files : File.Tree} {leave : File.Tree → File.Tree}
      {earlier rest : List Slide} {slide : Slide} {calls last : List Call} {middle after : Session σ}
      {error : Error} (hplace : Workplace options slides before.files folder files leave)
      (hslides : slides = earlier ++ slide :: rest)
      (hearlier : Completed backend (imagePath folder options.chartFormat) 0 earlier
        { before with files } calls middle)
      (hslide : SlideRun backend (imagePath folder options.chartFormat earlier.length) slide middle last
        (.error error) after) :
      Prescribed backend options slides before (calls ++ last)
        (.error (.render earlier.length slide.kind.name error))
        { after with files := leave after.files }
  | finalized {folder : File.Path} {files : File.Tree} {leave : File.Tree → File.Tree}
      {calls : List Call} {middle after : Session σ} {answer result : Except Error Unit}
      (hplace : Workplace options slides before.files folder files leave)
      (hslides : Completed backend (imagePath folder options.chartFormat) 0 slides
        { before with files } calls middle)
      (hfinal : backend (.finalize options.output) middle = (answer, after))
      (hresult : Finished options.output answer result) :
      Prescribed backend options slides before (calls ++ [.finalize options.output]) result
        { after with files := leave after.files }

/-! ## Slides -/

variable (backend : Backend σ)

/-- A slide other than a plot is rendered by its one call. -/
theorem renderContent_of_call? {slide : Slide} {call : Call} (h : call? slide = some call)
    (image : File.Path) : renderContent backend image slide = backend call := by
  unfold call? at h
  split at h
  · next hcontent => simp only [renderContent, hcontent, ← Option.some.inj h]
  · next hcontent => simp only [renderContent, hcontent, ← Option.some.inj h]
  · next hcontent => simp only [renderContent, hcontent, ← Option.some.inj h]
  · next hcontent => simp only [renderContent, hcontent, ← Option.some.inj h]
  · cases h

/-- A slide with no call of its own is a plot. -/
theorem exists_plot_of_call?_eq_none {slide : Slide} (h : call? slide = none) :
    ∃ source labels, slide.content = .plot source labels := by
  unfold call? at h
  split at h
  · cases h
  · cases h
  · cases h
  · cases h
  · next source labels hcontent => exact ⟨source, labels, hcontent⟩

section Labels

variable {labels : AxisLabels}

/-- A blank label of the x axis is reported. -/
theorem checkLabels_of_blankX (hx : Text.trim labels.x.toList = []) :
    checkLabels labels = .error (.invalidArgument .emptyXLabel) := by
  rw [checkLabels, if_pos (Text.trim_eq_nil_iff.1 hx)]

/-- A blank label of the y axis is reported when that of the x axis is not blank. -/
theorem checkLabels_of_blankY (hx : Text.trim labels.x.toList ≠ [])
    (hy : Text.trim labels.y.toList = []) :
    checkLabels labels = .error (.invalidArgument .emptyYLabel) := by
  rw [checkLabels, if_neg fun hblank => hx (Text.trim_eq_nil_iff.2 hblank),
    if_pos (Text.trim_eq_nil_iff.1 hy)]

/-- Labels that are not blank pass. -/
theorem checkLabels_eq_ok (h : HasLabels labels) : checkLabels labels = .ok () := by
  rw [checkLabels, if_neg fun hblank => h.1 (Text.trim_eq_nil_iff.2 hblank),
    if_neg fun hblank => h.2 (Text.trim_eq_nil_iff.2 hblank)]

end Labels

variable {before : Session σ} {source image : File.Path} {labels : AxisLabels} {title : String}

/-- The check of the labels comes before everything else. -/
theorem makes_plotSource_of_blank {error : Error} (h : checkLabels labels = .error error) :
    Makes (plotSource backend source ⟨labels, title⟩ image)
      (plotSource backend.traced source ⟨labels, title⟩ image) before [] (.error error) before :=
  .fromFiles_error h

/-- Without a series, there is nothing to draw. -/
theorem makes_plotSource_of_unread {error : Error} (h : checkLabels labels = .ok ())
    (hload : Series.Loads before.files source (.error error)) :
    Makes (plotSource backend source ⟨labels, title⟩ image)
      (plotSource backend.traced source ⟨labels, title⟩ image) before [] (.error error) before :=
  .fromFiles h (.fromFiles_error (Series.loads_iff.1 hload))

/-- With labels and a series, a chart is drawn. -/
theorem makes_plotSource {series : Series} {result : Except Error Unit} {after : Session σ}
    (h : checkLabels labels = .ok ()) (hload : Series.Loads before.files source (.ok series))
    (hplot : backend (plotCall series labels title image) before = (result, after)) :
    Makes (plotSource backend source ⟨labels, title⟩ image)
      (plotSource backend.traced source ⟨labels, title⟩ image) before [plotCall series labels title image]
      result after :=
  .fromFiles h (.fromFiles (Series.loads_iff.1 hload) (.call backend hplot))

/-- A plot makes the calls prescribed for it. -/
theorem exists_slideRun_plot (image : File.Path) {slide : Slide} (before : Session σ)
    (hcontent : slide.content = .plot source labels) :
    ∃ calls result after, SlideRun backend image slide before calls result after ∧
      Makes (do plotSource backend source ⟨labels, slide.title⟩ image
                backend (.addImage slide.kind.layout slide.title image))
        (do plotSource backend.traced source ⟨labels, slide.title⟩ image
            backend.traced (.addImage slide.kind.layout slide.title image)) before calls result after := by
  -- one case for each step at which a plot can stop, in the order of the steps
  by_cases hx : Text.trim labels.x.toList = []
  · exact ⟨_, _, _, .blankX hcontent hx,
      .stop (makes_plotSource_of_blank backend (checkLabels_of_blankX hx))⟩
  by_cases hy : Text.trim labels.y.toList = []
  · exact ⟨_, _, _, .blankY hcontent hx hy,
      .stop (makes_plotSource_of_blank backend (checkLabels_of_blankY hx hy))⟩
  have hlabels : HasLabels labels := ⟨hx, hy⟩
  have hcheck := checkLabels_eq_ok hlabels
  match Series.load before.files source, Series.loads_load before.files source with
  | .error error, hload =>
    exact ⟨_, _, _, .unread hcontent hlabels hload,
      .stop (makes_plotSource_of_unread backend hcheck hload)⟩
  | .ok series, hload =>
    match hplot : backend (plotCall series labels slide.title image) before with
    | (.error error, after) =>
      exact ⟨_, _, _, .undrawn hcontent hlabels hload hplot,
        .stop (makes_plotSource backend hcheck hload hplot)⟩
    | (.ok (), middle) =>
      exact ⟨_, _, _, .drawn hcontent hlabels hload hplot rfl,
        .andThen (makes_plotSource backend hcheck hload hplot) (.call backend rfl)⟩

/-- A slide makes the calls prescribed for it. -/
theorem exists_slideRun (image : File.Path) (slide : Slide) (before : Session σ) :
    ∃ calls result after, SlideRun backend image slide before calls result after ∧
      Makes (renderContent backend image slide) (renderContent backend.traced image slide) before calls
        result after := by
  match hcall : call? slide with
  | some call =>
    rw [renderContent_of_call? backend hcall, renderContent_of_call? backend.traced hcall]
    exact ⟨_, _, _, .single hcall rfl, .call backend rfl⟩
  | none =>
    obtain ⟨source, labels, hcontent⟩ := exists_plot_of_call?_eq_none hcall
    have hrun := exists_slideRun_plot backend image before hcontent
    simp only [renderContent, hcontent]
    exact hrun

/-! ## Runs -/

/-- What slides lead to: all of them succeed, or one fails behind those that do. -/
inductive SlidesRun (image : Nat → File.Path) (index : Nat) (slides : List Slide) (before : Session σ) :
    List Call → Except Error Unit → Session σ → Prop
  | completed {calls : List Call} {after : Session σ}
      (h : Completed backend image index slides before calls after) :
      SlidesRun image index slides before calls (.ok ()) after
  | failed {earlier rest : List Slide} {slide : Slide} {calls last : List Call}
      {middle after : Session σ} {error : Error} (hslides : slides = earlier ++ slide :: rest)
      (hearlier : Completed backend image index earlier before calls middle)
      (hslide : SlideRun backend (image (index + earlier.length)) slide middle last (.error error) after) :
      SlidesRun image index slides before (calls ++ last)
        (.error (.render (index + earlier.length) slide.kind.name error)) after

/-- Slides make the calls prescribed for them, by induction on the slides. -/
theorem exists_slidesRun (image : Nat → File.Path) (index : Nat) (slides : List Slide)
    (before : Session σ) :
    ∃ calls result after, SlidesRun backend image index slides before calls result after ∧
      Makes (renderFrom backend image index slides) (renderFrom backend.traced image index slides) before
        calls result after := by
  -- the session is generalized because each slide goes on with what the one before it left
  induction slides generalizing index before with
  | nil => exact ⟨_, _, _, .completed .nil, .nothing⟩
  | cons slide rest ih =>
    obtain ⟨calls, result, middle, hrun, hmakes⟩ := exists_slideRun backend (image index) slide before
    have hmapped := hmakes.mapError (.render index slide.kind.name)
    match result, hrun, hmapped with
    | .error error, hrun, hmapped =>
      exact ⟨_, _, _, .failed rfl .nil hrun, .stop hmapped⟩
    | .ok (), hrun, hmapped =>
      obtain ⟨more, result, after, hrest, hnext⟩ := ih (index + 1) middle
      refine ⟨_, _, _, ?_, hmapped.andThen hnext⟩
      -- the failing slide of the rest is one further back in all slides
      cases hrest with
      | completed h => exact .completed (.cons hrun h)
      | @failed earlier later failing calls' last _ _ error hslides hearlier hfails =>
        have hindex : index + 1 + earlier.length = index + (slide :: earlier).length := by
          rw [List.length_cons]
          omega
        rw [hindex] at hfails ⊢
        rw [← List.append_assoc]
        exact .failed (by rw [hslides, List.cons_append]) (.cons hrun hearlier) hfails

/-- Writing the deck ends as the back end answers, with its failure reworded. -/
theorem finished_mapError (output : File.Path) (answer : Except Error Unit) :
    Finished output answer (answer.mapError (writeError output)) := by
  match answer with
  | .ok () => exact .written
  | .error (.artifactWrite path fault) => exact .own
  | .error (.notFound ..) | .error (.dataFormat ..) | .error (.validation ..) | .error (.unknownKind _)
  | .error (.invalidArgument _) | .error (.render ..) | .error (.backend _) =>
    exact .wrapped fun path fault heq => by cases heq

/-- In a folder for the images of plots, the calls of a run are made. -/
theorem exists_prescribed {options : Options} {slides : List Slide} {before : Session σ}
    {folder : File.Path} {files : File.Tree} {leave : File.Tree → File.Tree}
    (hplace : Workplace options slides before.files folder files leave) :
    ∃ calls result after, Prescribed backend options slides before calls result
        { after with files := leave after.files } ∧
      Makes (renderAll backend options folder slides) (renderAll backend.traced options folder slides)
        { before with files } calls result after := by
  obtain ⟨calls, result, middle, hrun, hmakes⟩ :=
    exists_slidesRun backend (imagePath folder options.chartFormat) 0 slides { before with files }
  -- the deck is finished only if no slide has failed
  cases hrun with
  | completed hslides =>
    have hfinal : Makes (backend (.finalize options.output)) (backend.traced (.finalize options.output))
        middle [.finalize options.output] (backend (.finalize options.output) middle).1
        (backend (.finalize options.output) middle).2 := .call backend rfl
    exact ⟨_, _, _, .finalized hplace hslides rfl (finished_mapError _ _),
      hmakes.andThen (hfinal.mapError (writeError options.output))⟩
  | failed hslides hearlier hslide =>
    rw [Nat.zero_add] at hslide hmakes
    exact ⟨_, _, _, .slideFails hplace hslides hearlier hslide, .stop hmakes⟩

/-- A folder for temporary files is there only as long as it is needed. -/
theorem Makes.withScratch {action : File.Path → Act σ Unit}
    {noted : File.Path → Act (List Call × σ) Unit} {before after : Session σ} {calls : List Call}
    {result : Except Error Unit} {address : File.Address} {path : File.Path} {files : File.Tree}
    (hmade : before.files.makeScratch "slidegen-charts-" = .ok (address, path, files))
    (h : Makes (action path) (noted path) { before with files } calls result after) :
    Makes (Render.withScratch action) (Render.withScratch noted) before calls result
      { after with files := after.files.removeFolder address } := by
  refine ⟨?_, fun earlier => ?_⟩
  · have hplain := h.1
    rw [Render.withScratch, hmade]
    simp only [hplain]
  · -- the folder depends on the files only, so that it is the same with the calls kept
    have hnoted : noted path { before.traced earlier with files }
        = (result, after.traced (earlier ++ calls)) := h.2 earlier
    have hstart : (before.traced earlier).files.makeScratch "slidegen-charts-"
        = .ok (address, path, files) := hmade
    rw [Render.withScratch, hstart]
    simp only [hnoted]
    rfl

/-- When no scratch folder can be made, no call is made. -/
theorem Makes.withScratch_error {action : File.Path → Act σ Unit}
    {noted : File.Path → Act (List Call × σ) Unit} {before : Session σ} {cause : File.Error}
    (hmade : before.files.makeScratch "slidegen-charts-" = .error cause) :
    Makes (Render.withScratch action) (Render.withScratch noted) before []
      (.error (.artifactWrite before.files.temporary (.file cause))) before := by
  refine ⟨by rw [Render.withScratch, hmade], fun earlier => ?_⟩
  have hstart : (before.traced earlier).files.makeScratch "slidegen-charts-" = .error cause := hmade
  rw [Render.withScratch, hstart, List.append_nil]
  rfl

/-! ## The last call -/

/-- No slide's own call finalizes the deck. -/
theorem call?_ne_finalize {slide : Slide} {call : Call} (h : call? slide = some call)
    (path : File.Path) : call ≠ .finalize path := by
  rintro rfl
  unfold call? at h
  split at h <;> cases h

/-- No call made for a slide finalizes the deck. -/
theorem SlideRun.ne_finalize {backend : Backend σ} {image : File.Path} {slide : Slide}
    {before after : Session σ} {calls : List Call} {result : Except Error Unit}
    (h : SlideRun backend image slide before calls result after) :
    ∀ call ∈ calls, ∀ path, call ≠ .finalize path := by
  cases h with
  | single hcall hanswer =>
    intro call hmem
    rw [List.mem_singleton.1 hmem]
    exact call?_ne_finalize hcall
  | blankX | blankY | unread => exact fun _ hmem => absurd hmem List.not_mem_nil
  | undrawn =>
    intro call hmem path
    rw [List.mem_singleton.1 hmem]
    exact Call.noConfusion
  | drawn =>
    intro call hmem path
    rcases List.mem_cons.1 hmem with rfl | hmem
    · exact Call.noConfusion
    · rw [List.mem_singleton.1 hmem]
      exact Call.noConfusion

/-- No call made for slides that all succeed finalizes the deck. -/
theorem Completed.ne_finalize {backend : Backend σ} {image : Nat → File.Path} {index : Nat}
    {slides : List Slide} {before after : Session σ} {calls : List Call}
    (h : Completed backend image index slides before calls after) :
    ∀ call ∈ calls, ∀ path, call ≠ .finalize path := by
  induction h with
  | nil => exact fun _ hmem => absurd hmem List.not_mem_nil
  | cons hslide hrest ih =>
    intro call hmem
    exact (List.mem_append.1 hmem).elim (hslide.ne_finalize call) (ih call)

/-- The deck is not finished before the last call. -/
theorem Prescribed.ne_finalize {backend : Backend σ} {options : Options} {slides : List Slide}
    {before after : Session σ} {calls : List Call} {result : Except Error Unit}
    (h : Prescribed backend options slides before calls result after) :
    ∀ call ∈ calls.dropLast, ∀ path, call ≠ .finalize path := by
  cases h with
  | noWorkplace => exact fun _ hmem => absurd hmem List.not_mem_nil
  | slideFails hplace hslides hearlier hslide =>
    intro call hmem
    rcases List.mem_append.1 (List.dropLast_subset _ hmem) with hmem | hmem
    · exact hearlier.ne_finalize call hmem
    · exact hslide.ne_finalize call hmem
  | finalized hplace hslides hfinal hresult =>
    rw [List.dropLast_concat]
    exact hslides.ne_finalize

/-- With a folder for charts, a run makes the calls prescribed for it. -/
theorem exists_prescribed_chosen {options : Options} (slides : List Slide) (before : Session σ)
    {folder : File.Path} (hfolder : options.chartFolder = some folder) :
    ∃ calls result after, Prescribed backend options slides before calls result after ∧
      Makes (do onFiles (makeChartFolder folder); renderAll backend options folder slides)
        (do onFiles (makeChartFolder folder); renderAll backend.traced options folder slides) before calls
        result after := by
  match hmade : before.files.makeFolders folder with
  | (.error cause, made) =>
    have hchange : makeChartFolder folder before.files
        = (.error (.artifactWrite folder (.file cause)), made) := by rw [makeChartFolder, hmade]
    exact ⟨_, _, _, .noWorkplace (.chosen hfolder hmade), .stop (.onFiles hchange)⟩
  | (.ok (), made) =>
    have hchange : makeChartFolder folder before.files = (.ok (), made) := by
      rw [makeChartFolder, hmade]
    have hplace : Workplace options slides before.files folder made id := .chosen hfolder hmade
    obtain ⟨calls, result, after, hprescribed, hmakes⟩ := exists_prescribed backend hplace
    exact ⟨calls, result, after, hprescribed, .andThen (.onFiles hchange) hmakes⟩

/-- With a plot and no folder for charts, so does a run in a scratch folder. -/
theorem exists_prescribed_scratch {options : Options} {slides : List Slide} (before : Session σ)
    (hfolder : options.chartFolder = none) {plot : Slide} (hplot : plot ∈ slides ∧ plot.kind = .plot) :
    ∃ calls result after, Prescribed backend options slides before calls result after ∧
      Makes (withScratch fun folder => renderAll backend options folder slides)
        (withScratch fun folder => renderAll backend.traced options folder slides) before calls result
        after := by
  match hmade : before.files.makeScratch "slidegen-charts-" with
  | .error cause =>
    exact ⟨_, _, _, .noWorkplace (.scratch hfolder hplot hmade), .withScratch_error hmade⟩
  | .ok (address, path, made) =>
    obtain ⟨calls, result, after, hprescribed, hmakes⟩ :=
      exists_prescribed backend (.scratch hfolder hplot hmade)
    exact ⟨calls, result, _, hprescribed, .withScratch hmade hmakes⟩

/-- Whatever the back end answers, a run makes the calls that are prescribed and no others, and finishes
the deck by the last of them or not at all. -/
theorem makes_prescribed (options : Options) (slides : List Slide) (before : Session σ) :
    ∃ calls result after, Prescribed backend options slides before calls result after ∧
      (∀ call ∈ calls.dropLast, ∀ path, call ≠ .finalize path) ∧
      Makes (render backend options slides) (render backend.traced options slides) before calls result
        after := by
  have hrun : ∃ calls result after, Prescribed backend options slides before calls result after ∧
      Makes (render backend options slides) (render backend.traced options slides) before calls result
        after := by
    -- images go into the given folder, into a temporary one, or nowhere without plots
    match hfolder : options.chartFolder with
    | some folder =>
      simp only [render, hfolder]
      exact exists_prescribed_chosen backend slides before hfolder
    | none =>
      cases hplots : slides.any isPlot with
      | true =>
        obtain ⟨plot, hmem, hplot⟩ := List.any_eq_true.1 hplots
        simp only [render, hfolder, hplots, ite_true]
        exact exists_prescribed_scratch backend before hfolder ⟨hmem, beq_iff_eq.1 hplot⟩
      | false =>
        have hnone : ∀ slide ∈ slides, slide.kind ≠ .plot := fun slide hmem hplot =>
          List.any_eq_false.1 hplots slide hmem (beq_iff_eq.2 hplot)
        simp only [render, hfolder, hplots, Bool.false_eq_true, ite_false]
        obtain ⟨calls, result, after, hprescribed, hmakes⟩ :=
          exists_prescribed backend (.unneeded hfolder hnone)
        exact ⟨calls, result, after, hprescribed, hmakes⟩
  obtain ⟨calls, result, after, hprescribed, hmakes⟩ := hrun
  exact ⟨calls, result, after, hprescribed, hprescribed.ne_finalize, hmakes⟩

end SlideDeck.Render
