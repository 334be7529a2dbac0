import SlideDeck.CommandLine.Run
import SlideDeck.Proofs.Presentation.Finalize
import SlideDeck.Proofs.Render.Determined
import SlideDeck.Proofs.Render.Presented

/-!
# The deck that a command line writes

A command line that succeeds without a template has written a package that presents the slides of its
configuration (`presents_of_run`).
-/

namespace SlideDeck

namespace Render

variable {σ : Type} {backend : Backend σ} {options : Options} {slides : List Slide}
  {before after : Session σ}

/-- A run that succeeds has had a folder for the images of plots. -/
theorem render_eq_ok (h : render backend options slides before = (.ok (), after)) :
    ∃ folder files leave last, Workplace options slides before.files folder files leave ∧
      renderAll backend options folder slides { before with files } = (.ok (), last) ∧
      after.files = leave last.files := by
  cases hfolder : options.chartFolder with
  | some folder =>
    simp only [render, hfolder] at h
    obtain ⟨_, middle, hmake, hall⟩ := exists_of_bind_act h
    cases hmade : before.files.makeFolders folder with
    | mk result made =>
      rw [onFiles, makeChartFolder, hmade] at hmake
      cases result with
      | error cause => cases (Prod.mk.inj hmake).1
      | ok =>
        obtain rfl := (Prod.mk.inj hmake).2
        exact ⟨folder, made, id, after, .chosen hfolder hmade, hall, rfl⟩
  | none =>
    cases hplots : slides.any isPlot with
    | true =>
      obtain ⟨plot, hmem, hplot⟩ := List.any_eq_true.1 hplots
      simp only [render, hfolder, hplots, ite_true] at h
      rw [withScratch] at h
      split at h
      · cases (Prod.mk.inj h).1
      · next address path made hmade =>
        cases hall : renderAll backend options path slides { before with files := made } with
        | mk result last =>
          rw [hall] at h
          obtain ⟨hresult, hsession⟩ := Prod.mk.inj h
          obtain rfl := hresult
          refine ⟨path, made, (·.removeFolder address), last,
            .scratch hfolder ⟨hmem, beq_iff_eq.1 hplot⟩ hmade, hall, ?_⟩
          rw [← hsession]
    | false =>
      have hnone : ∀ slide ∈ slides, slide.kind ≠ .plot := fun slide hmem hplot =>
        List.any_eq_false.1 hplots slide hmem (beq_iff_eq.2 hplot)
      simp only [render, hfolder, hplots, Bool.false_eq_true, ite_false] at h
      exact ⟨⟨""⟩, before.files, id, after, .unneeded hfolder hnone, h, rfl⟩

/-- A run that succeeds has rendered all slides and finished the deck. -/
theorem renderAll_eq_ok {folder : File.Path}
    (h : renderAll backend options folder slides before = (.ok (), after)) :
    ∃ middle, renderFrom backend (imagePath folder options.chartFormat) 0 slides before
        = (.ok (), middle) ∧ backend (.finalize options.output) middle = (.ok (), after) := by
  obtain ⟨_, middle, hslides, hfinal⟩ := exists_of_bind_act h
  exact ⟨middle, hslides, mapError_eq_ok hfinal⟩

/-- What a run that succeeds has done with a deck: the slides are added to it, and its package with all of
them is written. -/
theorem exists_package_of_renderAll {size : Chart.Size} {folder : File.Path} {deck : Deck}
    {started : File.Tree} {last : Session Deck}
    (h : renderAll (presentationBackend size) options folder slides ⟨deck, started⟩ = (.ok (), last)) :
    ∃ (middle : Session Deck) (made : List Deck.Made) (package : Package),
      (Deck.Record.start deck).addAll ((stagesFrom (presentationBackend size)
        (imagePath folder options.chartFormat) 0 slides ⟨deck, started⟩).map Stage.addition)
          = ⟨middle.backend, made⟩ ∧
      List.Forall₂ (fun m stage => m.addition = stage.addition ∧
        ∃ next, stage.addition.on m.before = .ok next) made
        (stagesFrom (presentationBackend size) (imagePath folder options.chartFormat) 0 slides
          ⟨deck, started⟩) ∧
      File.Tree.Stays started middle.files ∧ middle.backend.register = .ok package ∧
      middle.files.publish options.output ".slidegen-" ".pptx" (.archive package.toEntries)
        = (.ok (), last.files) := by
  obtain ⟨middle, hslides, hfinal⟩ := renderAll_eq_ok h
  obtain ⟨made, hrecord, hstages, hstays⟩ :=
    renderFrom_eq_ok hslides (rfl : (Deck.Record.start deck).deck = deck)
  obtain ⟨package, hregister, hpublish, -⟩ := Deck.finalize_eq_ok (finalize_of_answer hfinal)
  exact ⟨middle, made, package, hrecord, hstages, hstays, hregister, hpublish⟩

/-- A run that succeeds has loaded its configuration and rendered it. -/
theorem generate_eq_ok {configuration : File.Path}
    (h : generate backend options configuration before = (.ok (), after)) :
    ∃ slides, Configuration.load before.files configuration = .ok slides ∧
      render backend options slides before = (.ok (), after) := by
  obtain ⟨slides, middle, hload, hrender⟩ := exists_of_bind_act h
  obtain ⟨hslides, hmiddle⟩ := Prod.mk.inj hload
  obtain rfl := hmiddle
  exact ⟨slides, hslides, hrender⟩

/-! ## Runs that succeed -/

/-- Whether a slide can be rendered without drawing a chart. -/
def IsReady (files : File.Tree) (slide : Slide) : Prop :=
  match slide.content with
  | .picture path => ∃ picture, Picture.load files path = .ok picture
  | .plot _ _ => False
  | .title _ | .text _ | .list _ => True

/-- A slide that is ready makes one call, whose addition can be shown. -/
theorem IsReady.exists_call {files : File.Tree} {slide : Slide} (h : IsReady files slide)
    (image : File.Path) : ∃ call, call? slide = some call ∧
      (Stage.mk slide image files).addition.IsShowable := by
  rw [IsReady] at h
  rw [call?, Stage.addition]
  split at h
  · next path hcontent =>
    simp only [hcontent]
    exact ⟨_, rfl, h⟩
  · exact h.elim
  · next subtitle hcontent =>
    simp only [hcontent]
    exact ⟨_, rfl, trivial⟩
  · next body hcontent =>
    simp only [hcontent]
    exact ⟨_, rfl, trivial⟩
  · next items hcontent =>
    simp only [hcontent]
    exact ⟨_, rfl, by rw [Deck.Addition.IsShowable, List.length_map, List.length_map]⟩

/-- The built-in template has a layout for every kind of slide. -/
theorem layout_index_lt (kind : Slide.Kind) : kind.layout.index < Builtin.layoutParts.length := by
  cases kind <;> decide

/-- Slides that are ready are all rendered, by induction on them. -/
theorem exists_renderFrom_eq (size : Chart.Size) (image : Nat → File.Path) (index : Nat)
    {files : File.Tree} {slides : List Slide} (hready : ∀ slide ∈ slides, IsReady files slide)
    {record : Deck.Record} (h : Deck.Reached record) (hopen : record.deck.finalized = false) :
    ∃ last, Deck.Reached last ∧ last.deck.finalized = false ∧
      renderFrom (presentationBackend size) image index slides ⟨record.deck, files⟩
        = (.ok (), ⟨last.deck, files⟩) := by
  induction slides generalizing index record with
  | nil => exact ⟨record, h, hopen, rfl⟩
  | cons slide rest ih =>
    obtain ⟨call, hcall, hshow⟩ := (hready slide List.mem_cons_self).exists_call (image index)
    have hlayout : (Stage.mk slide (image index) files).addition.layout.index
        < Builtin.layoutParts.length := by
      rw [Stage.layout_addition]
      exact layout_index_lt slide.kind
    -- the deck after the slide is reached and open, which the induction needs
    obtain ⟨next, hnext, hstill, hreached⟩ := h.exists_add_eq hopen hlayout hshow
    have hslide : mapError (.render index slide.kind.name)
        (renderContent (presentationBackend size) (image index) slide) ⟨record.deck, files⟩
        = (.ok (), ⟨next, files⟩) := by
      rw [mapError, renderContent_of_call? _ hcall,
        answer_of_on (addition?_of_call? hcall (image index) files) hnext]
    obtain ⟨last, hlast, hfinal, hrest⟩ :=
      ih (index + 1) (fun slide hmem => hready slide (List.mem_cons_of_mem _ hmem)) hreached hstill
    refine ⟨last, hlast, hfinal, ?_⟩
    rw [renderFrom, bind_of_ok hslide]
    exact hrest

/-- Slides that are ready are rendered into a file that can be written. -/
theorem exists_render_eq (size : Chart.Size) {options : Options} {slides : List Slide}
    {files : File.Tree} (hfolder : options.chartFolder = none)
    (hready : ∀ slide ∈ slides, IsReady files slide) (hpptx : Deck.isPptx options.output = true)
    (hpublish : ∀ contents, ∃ written,
      files.publish options.output ".slidegen-" ".pptx" contents = (.ok (), written))
    {record : Deck.Record} (h : Deck.Reached record) (hopen : record.deck.finalized = false) :
    ∃ last, render (presentationBackend size) options slides ⟨record.deck, files⟩
      = (.ok (), last) := by
  obtain ⟨last, hlast, hstill, hslides⟩ := exists_renderFrom_eq size
    (imagePath ⟨""⟩ options.chartFormat) 0 hready h hopen
  obtain ⟨closed, written, hfinal⟩ := hlast.exists_finalize_eq hstill hpptx hpublish
  have hnone : slides.any isPlot = false := by
    rw [List.any_eq_false]
    intro slide hmem hplot
    have hslide := hready slide hmem
    rw [IsReady] at hslide
    rw [isPlot, beq_iff_eq, Slide.kind] at hplot
    split at hslide
    · next hcontent => rw [hcontent] at hplot; cases hplot
    · exact hslide
    · next hcontent => rw [hcontent] at hplot; cases hplot
    · next hcontent => rw [hcontent] at hplot; cases hplot
    · next hcontent => rw [hcontent] at hplot; cases hplot
  refine ⟨⟨closed, written⟩, ?_⟩
  simp only [render, hfolder, hnone, Bool.false_eq_true, ite_false]
  rw [renderAll, bind_of_ok hslides, mapError]
  simp only [presentationBackend, hfinal]

end Render

namespace CommandLine

open Render (Workplace Presents stagesFrom presentationBackend imagePath)

/-- No failure ends the program as a success does. -/
theorem status_ne_zero (failure : Failure) : failure.status ≠ 0 := by
  rw [Failure.status]
  cases failure.error <;> exact Nat.succ_ne_zero _

theorem inContext_eq_ok {α : Type} {context : String} {result : Except Error α} {value : α}
    (h : inContext context result = .ok value) : result = .ok value := by
  cases result with
  | ok found => rw [Except.ok.inj h]
  | error error => cases h

/-- Without a template, the deck to start from is the built-in one. -/
theorem startingDeck_eq_ok {arguments : Arguments} {files : File.Tree} {deck : Deck}
    (htemplate : arguments.template = none) (h : startingDeck arguments files = .ok deck) :
    Deck.builtin = .ok deck := by
  rw [startingDeck, htemplate] at h
  match hdeck : Deck.builtin, h with
  | .ok found, h => rw [Except.ok.inj h]

/-- Conversely, the built-in deck is what a run without a template starts from. -/
theorem startingDeck_of_builtin {arguments : Arguments} (files : File.Tree) {deck : Deck}
    (htemplate : arguments.template = none) (h : Deck.builtin = .ok deck) :
    startingDeck arguments files = .ok deck := by
  -- the built-in deck is not to be computed here
  unfold startingDeck
  generalize Deck.builtin = built at h ⊢
  rw [htemplate, h]

theorem checkOutput_of_isPptx {output : File.Path} (h : Deck.isPptx output = true) :
    checkOutput output = .ok () := by
  rw [checkOutput, if_pos h]

/-- With a deck to start from, generating a deck is rendering. -/
theorem generate_of_startingDeck {arguments : Arguments} {files : File.Tree} {deck : Deck}
    (hpptx : Deck.isPptx arguments.output = true) (hdeck : startingDeck arguments files = .ok deck)
    {result : Except Error Unit} {session : Render.Session Deck}
    (h : Render.generate (presentationBackend .standard) arguments.options arguments.configuration
      ⟨deck, files⟩ = (result, session)) :
    generate arguments files = (inContext ("Failed to generate deck from " ++ arguments.configuration.text)
      (result.map fun () => session.backend.added.length), session.files) := by
  rw [generate, checkOutput_of_isPptx hpptx]
  simp only [hdeck, h]

/-- A deck is generated from the deck to start from if there is one and the output can be, and else
nothing is done. -/
theorem generate_cases (arguments : Arguments) (files : File.Tree) :
    (∃ failure, generate arguments files = (.error failure, files)) ∨
      Deck.isPptx arguments.output = true ∧ ∃ deck result session,
        startingDeck arguments files = .ok deck ∧
        Render.generate (presentationBackend .standard) arguments.options arguments.configuration
          ⟨deck, files⟩ = (result, session) ∧
        generate arguments files =
          (inContext ("Failed to generate deck from " ++ arguments.configuration.text)
            (result.map fun () => session.backend.added.length), session.files) := by
  rw [generate, checkOutput]
  cases hpptx : Deck.isPptx arguments.output with
  | false => exact .inl ⟨_, rfl⟩
  | true =>
    cases hdeck : startingDeck arguments files with
    | error failure => exact .inl ⟨failure, rfl⟩
    | ok deck => exact .inr ⟨rfl, deck, _, _, rfl, rfl, rfl⟩

/-- What has happened when a deck was generated. -/
theorem generate_eq_ok {arguments : Arguments} {files last : File.Tree} {count : Nat}
    (h : generate arguments files = (.ok count, last)) :
    ∃ deck session, startingDeck arguments files = .ok deck ∧
      Render.generate (presentationBackend .standard) arguments.options arguments.configuration
        ⟨deck, files⟩ = (.ok (), session) ∧ last = session.files := by
  rcases generate_cases arguments files with ⟨failure, hfails⟩ | ⟨-, deck, result, session, hdeck, hrun, hall⟩
  · exact nomatch (Prod.mk.inj (hfails.symm.trans h)).1
  · obtain ⟨hresult, hfiles⟩ := Prod.mk.inj (hall.symm.trans h)
    match result, hrun, inContext_eq_ok hresult with
    | .ok (), hrun, _ => exact ⟨deck, session, hdeck, hrun, hfiles.symm⟩

/-- A command line that is understood ends as generating its deck does. -/
theorem run_of_ofWords {words : List String} {arguments : Arguments}
    (hwords : Arguments.ofWords words = .ok arguments) (files : File.Tree) :
    run words files
      = (outcome arguments (generate arguments files).1, (generate arguments files).2) := by
  rw [run, hwords]

/-- What has happened when a command line without a template has succeeded. -/
theorem generate_of_run {words : List String} {files : File.Tree} {arguments : Arguments}
    (hwords : Arguments.ofWords words = .ok arguments) (htemplate : arguments.template = none)
    (hstatus : (run words files).1.status = 0) :
    ∃ deck session, Deck.builtin = .ok deck ∧
      Render.generate (presentationBackend .standard) arguments.options arguments.configuration
        ⟨deck, files⟩ = (.ok (), session) ∧ (run words files).2 = session.files := by
  rw [run_of_ofWords hwords] at hstatus ⊢
  match hgenerate : generate arguments files with
  | (.error failure, last) =>
    rw [hgenerate] at hstatus
    exact absurd hstatus (status_ne_zero failure)
  | (.ok count, last) =>
    obtain ⟨deck, session, hdeck, hrun, hlast⟩ := generate_eq_ok hgenerate
    exact ⟨deck, session, startingDeck_eq_ok htemplate hdeck, hrun, hlast⟩

/-- A deck that is made of the built-in template and the slides of a run, when it is written. -/
theorem exists_presents {deck : Deck} (hdeck : Deck.builtin = .ok deck) {options : Render.Options}
    {slides : List Slide} {folder : File.Path} {started : File.Tree} {last : Render.Session Deck}
    (h : Render.renderAll (presentationBackend .standard) options folder slides ⟨deck, started⟩
      = (.ok (), last)) :
    ∃ middle package, File.Tree.Stays started middle ∧
      middle.publish options.output ".slidegen-" ".pptx" (.archive package.toEntries)
        = (.ok (), last.files) ∧
      Package.ofContents (.archive package.toEntries) = .ok package ∧
      Presents package (stagesFrom (presentationBackend .standard) (imagePath folder options.chartFormat) 0
        slides ⟨deck, started⟩) := by
  obtain ⟨middle, made, package, hrecord, hstages, hstays, hregister, hpublish⟩ :=
    Render.exists_package_of_renderAll h
  have hongoing : Deck.Ongoing [] [] Builtin.package deck ⟨middle.backend, made⟩ := by
    have hadded := (Deck.composed_builtin.ongoing (Deck.ofTemplateFile_eq_ok hdeck)).addAll
      ((stagesFrom (presentationBackend .standard) (imagePath folder options.chartFormat) 0 slides
        ⟨deck, started⟩).map Render.Stage.addition)
    rw [hrecord] at hadded
    exact hadded
  obtain rfl := Except.ok.inj (hongoing.register_eq_ok.symm.trans hregister)
  have hcomposed := hongoing.composed_entered
  -- the template has no slides, so that the first number is the least one
  have hids : made.map (·.slide.id) = (List.range' 256 made.length).map (· % 2 ^ 32) := by
    have hnext : deck.nextId = 256 := by
      rw [hongoing.nextId_eq, Deck.slideIdsIn_presentationNode (Deck.Composed.isVerbatim_slides [])
        fun _ h => absurd h List.not_mem_nil]
      rfl
    rw [hongoing.grown.ids_eq, hnext]
    rfl
  exact ⟨middle.files, _, hstays, hpublish, hcomposed.ofContents_archive,
    Render.presents_of_composed hcomposed hids hstages⟩

/-- A command line without a template and a folder for charts succeeds if all slides are ready and the
deck can be written. -/
theorem status_of_isReady {words : List String} {files : File.Tree} {arguments : Arguments}
    (hwords : Arguments.ofWords words = .ok arguments) (htemplate : arguments.template = none)
    (hfolder : arguments.chartFolder = none) (hpptx : Deck.isPptx arguments.output = true)
    {slides : List Slide} (hload : Configuration.load files arguments.configuration = .ok slides)
    (hready : ∀ slide ∈ slides, Render.IsReady files slide)
    (hpublish : ∀ contents, ∃ written,
      files.publish arguments.output ".slidegen-" ".pptx" contents = (.ok (), written)) :
    (run words files).1.status = 0 := by
  obtain ⟨deck, hdeck, hbuiltin⟩ := Deck.exists_builtin_eq_ok
  have hstart := startingDeck_of_builtin files htemplate hbuiltin
  have hoptions : arguments.options.chartFolder = none := hfolder
  obtain ⟨last, hrender⟩ := Render.exists_render_eq .standard hoptions hready hpptx hpublish
    (Deck.Reached.builtin hbuiltin) (Deck.opensAs hdeck).finalized_eq
  have hgenerate : Render.generate (presentationBackend .standard) arguments.options
      arguments.configuration ⟨deck, files⟩ = (.ok (), last) := by
    rw [Render.generate_of_load_eq_ok ⟨deck, files⟩ hload]
    exact hrender
  rw [run_of_ofWords hwords, generate_of_startingDeck hpptx hstart hgenerate]
  rfl

/-- A command line that succeeds without a template has written a package that presents the slides of
its configuration. The package is found at the output if the folder of that was there before. -/
theorem presents_of_run {words : List String} {files : File.Tree} {arguments : Arguments}
    (hwords : Arguments.ofWords words = .ok arguments) (htemplate : arguments.template = none)
    (hstatus : (run words files).1.status = 0) :
    ∃ deck slides folder started leave written package,
      Deck.builtin = .ok deck ∧ Configuration.load files arguments.configuration = .ok slides ∧
      Workplace arguments.options slides files folder started leave ∧
      written.read arguments.output = .ok (.archive package.toEntries) ∧
      Package.ofContents (.archive package.toEntries) = .ok package ∧
      (run words files).2 = leave written ∧
      (∀ place, files.place arguments.output = .ok place →
        (run words files).2.read arguments.output = .ok (.archive package.toEntries)) ∧
      Presents package (stagesFrom (presentationBackend .standard)
        (imagePath folder arguments.chartFormat) 0 slides ⟨deck, started⟩) := by
  obtain ⟨deck, session, hdeck, hgenerate, hfiles⟩ := generate_of_run hwords htemplate hstatus
  obtain ⟨slides, hload, hrender⟩ := Render.generate_eq_ok hgenerate
  obtain ⟨folder, started, leave, last, hplace, hall, hlast⟩ := Render.render_eq_ok hrender
  obtain ⟨middle, package, hstays, hpublish, hcontents, hpresents⟩ := exists_presents hdeck hall
  have hread := File.Tree.read_of_publish hpublish
  refine ⟨deck, slides, folder, started, leave, last.files, package, hdeck, hload, hplace, hread,
    hcontents, hfiles.trans hlast, fun found hfound => ?_, hpresents⟩
  rw [hfiles, hlast]
  -- removing a temporary folder takes nothing from the way to the output
  cases hplace with
  | chosen | unneeded => exact hread
  | scratch hfolder hplot hmade => exact File.Tree.read_removeFolder hmade hstays hpublish hfound

/-- A folder with a configuration of three slides and with the picture on the last of them, and a folder
for temporary files. -/
def reportFiles : File.Tree where
  nodes :=
    [(["deck.json"], .file (.text (
      "\x7b\"presentation\":[\x7b\"type\":\"title\",\"title\":\"Report\",\"content\":\"2024\"\x7d," ++
      "\x7b\"type\":\"list\",\"title\":\"Items\",\"content\":[\x7b\"level\":9,\"text\":\"a\"\x7d]\x7d," ++
      "\x7b\"type\":\"picture\",\"title\":\"Logo\",\"content\":\"logo.svg\"\x7d]\x7d"))),
     (["logo.svg"], .file (.text "<svg/>")),
     (["tmp"], .folder)]
  current := []
  temporary := ⟨"/tmp"⟩

/-- The slides of that configuration. -/
def reportSlides : List Slide :=
  [⟨"Report", .title "2024"⟩, ⟨"Items", .list [⟨9, "a"⟩]⟩, ⟨"Logo", .picture ⟨"logo.svg"⟩⟩]

/-- What a command line that names nothing but that configuration asks for. -/
def reportArguments : Arguments := ⟨⟨"deck.json"⟩, ⟨"presentation.pptx"⟩, none, none, .svg, false⟩

/-- The configuration of the report describes its slides. -/
theorem load_report : Configuration.load reportFiles ⟨"deck.json"⟩ = .ok reportSlides := by
  have hfound : (Configuration.load reportFiles ⟨"deck.json"⟩).toOption = some reportSlides := by
    decide +kernel
  match Configuration.load reportFiles ⟨"deck.json"⟩, hfound with
  | .ok slides, hfound => exact congrArg Except.ok (Option.some.inj hfound)

/-- The place of the deck, in the folder that there is. -/
theorem place_report : reportFiles.place ⟨"presentation.pptx"⟩
    = .ok ⟨[], some "presentation.pptx", false⟩ := rfl

/-- Each slide of the report can be rendered, as the picture on the last of them can be loaded. -/
theorem isReady_report : ∀ slide ∈ reportSlides, Render.IsReady reportFiles slide := by
  have hlogo : (Picture.load reportFiles ⟨"logo.svg"⟩).toOption.isSome = true := by
    decide +kernel
  have hpicture : ∃ picture, Picture.load reportFiles ⟨"logo.svg"⟩ = .ok picture := by
    match Picture.load reportFiles ⟨"logo.svg"⟩, hlogo with
    | .ok picture, _ => exact ⟨picture, rfl⟩
  intro slide hmem
  rcases List.mem_cons.1 hmem with rfl | hmem
  · trivial
  · rcases List.mem_cons.1 hmem with rfl | hmem
    · trivial
    · obtain rfl := List.mem_singleton.1 hmem
      exact hpicture

/-- A deck is made of that configuration. -/
theorem status_report : Arguments.ofWords ["deck.json"] = .ok reportArguments ∧
    (run ["deck.json"] reportFiles).1.status = 0 := by
  have hwords : Arguments.ofWords ["deck.json"] = .ok reportArguments := rfl
  have hbeside : reportFiles.place ((⟨"presentation.pptx"⟩ : File.Path).folder.child
      (".slidegen-" ++ ".pptx")) = .ok ⟨[], some ".slidegen-.pptx", false⟩ := rfl
  exact ⟨hwords, status_of_isReady hwords rfl rfl (by decide) load_report isReady_report
    (File.Tree.exists_publish_eq hbeside place_report (by decide) (by decide) (fun h => nomatch h)
      fun _ => rfl)⟩

/-- The deck of that configuration, written to where decks are written by default. -/
theorem presents_report : ∃ arguments, Arguments.ofWords ["deck.json"] = .ok arguments ∧
    arguments.template = none ∧ (run ["deck.json"] reportFiles).1.status = 0 ∧
    ∃ package stages,
      (run ["deck.json"] reportFiles).2.read ⟨"presentation.pptx"⟩ = .ok (.archive package.toEntries) ∧
      Package.ofContents (.archive package.toEntries) = .ok package ∧
      stages.map (·.slide) = reportSlides ∧ Presents package stages := by
  obtain ⟨hwords, hstatus⟩ := status_report
  obtain ⟨deck, slides, folder, started, leave, written, package, -, hslides, -, -, hcontents, -, hread,
    hpresents⟩ := presents_of_run hwords rfl hstatus
  obtain rfl := Except.ok.inj (load_report.symm.trans hslides)
  exact ⟨_, hwords, rfl, hstatus, package, _, hread _ place_report, hcontents,
    Render.map_slide_stagesFrom _ _ _ _ _, hpresents⟩

end CommandLine

end SlideDeck
