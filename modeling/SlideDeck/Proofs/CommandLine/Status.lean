import SlideDeck.Proofs.CommandLine.Written
import SlideDeck.Proofs.Configuration

/-!
# The status of a run

A run goes through phases, of which the first that fails decides the status and leaves the files as the
phases before it and its own attempt have made them. `Ends` says what it takes for a run to fail at a
phase or at none. Every run ends in one of these ways (`exists_ends`), which decides its status and its
files (`run_of_ends`).
-/

namespace SlideDeck

namespace CommandLine

open Render (Workplace NoWorkplace Completed SlideRun Prescribed Session presentationBackend imagePath)

/-! ## Names of presentations -/

/-- Whether a path has the extension of a presentation, in small or capital letters. -/
def HasDeckExtension (output : File.Path) : Prop :=
  ∃ p ∈ ['p', 'P'], ∃ q ∈ ['p', 'P'], ∃ t ∈ ['t', 'T'], ∃ x ∈ ['x', 'X'],
    output.extension? = some [p, q, t, x]

/-- The characters that a small letter is the lowercase of. -/
theorem toLower_eq_iff (small capital : Char) (hsmall : small.toLower = small)
    (hcapital : capital.toLower = small) (hvalue : capital.val + ('a'.val - 'A'.val) = small.val)
    (c : Char) : c.toLower = small ↔ c ∈ [small, capital] := by
  rw [List.mem_pair]
  constructor
  · intro h
    unfold Char.toLower at h
    split at h
    · have hsum : c.val + ('a'.val - 'A'.val) = capital.val + ('a'.val - 'A'.val) :=
        (congrArg Char.val h).trans hvalue.symm
      exact .inr (Char.ext ((UInt32.add_left_inj _).1 hsum))
    · exact .inl h
  · rintro (rfl | rfl)
    · exact hsmall
    · exact hcapital

/-- The check of the output is for the extension in small or capital letters. -/
theorem isPptx_iff {output : File.Path} : Deck.isPptx output = true ↔ HasDeckExtension output := by
  have hp := toLower_eq_iff 'p' 'P' (by decide) (by decide) (by decide)
  have ht := toLower_eq_iff 't' 'T' (by decide) (by decide) (by decide)
  have hx := toLower_eq_iff 'x' 'X' (by decide) (by decide) (by decide)
  have hletters : "pptx".toList = ['p', 'p', 't', 'x'] := by decide
  rw [Deck.isPptx, beq_iff_eq, Option.map_eq_some_iff, hletters]
  constructor
  · rintro ⟨extension, hextension, hlower⟩
    obtain ⟨p, rest, rfl, hfirst, hlower⟩ := List.map_eq_cons_iff.1 hlower
    obtain ⟨q, rest, rfl, hsecond, hlower⟩ := List.map_eq_cons_iff.1 hlower
    obtain ⟨t, rest, rfl, hthird, hlower⟩ := List.map_eq_cons_iff.1 hlower
    obtain ⟨x, rest, rfl, hfourth, hlower⟩ := List.map_eq_cons_iff.1 hlower
    obtain rfl := List.map_eq_nil_iff.1 hlower
    exact ⟨p, (hp p).1 hfirst, q, (hp q).1 hsecond, t, (ht t).1 hthird, x, (hx x).1 hfourth, hextension⟩
  · rintro ⟨p, hfirst, q, hsecond, t, hthird, x, hfourth, hextension⟩
    refine ⟨_, hextension, ?_⟩
    rw [List.map_cons, List.map_cons, List.map_cons, List.map_cons, (hp p).2 hfirst, (hp q).2 hsecond,
      (ht t).2 hthird, (hx x).2 hfourth]
    rfl

/-! ## Phases -/

/-- What a run does in order, as far as it may fail. -/
inductive Phase where
  | checkOutput
  | openTemplate
  | acceptTemplate
  | readConfiguration
  | listEntries
  | describeSlides
  | prepareImages
  | renderSlides
  | finishDeck
deriving Repr, DecidableEq

/-- The status of a run that fails in a phase. -/
def Phase.status : Phase → Nat
  | .checkOutput => 5
  | .openTemplate => 2
  | .acceptTemplate => 3
  | .readConfiguration => 2
  | .listEntries => 3
  | .describeSlides => 4
  | .prepareImages => 6
  | .renderSlides => 7
  | .finishDeck => 6

/-- The status of a run by the phase that it fails in, or none. -/
def statusOf : Option Phase → Nat
  | none => 0
  | some phase => phase.status

section Phases

variable (arguments : Arguments) (files : File.Tree)

/-- The deck that a run starts from: the one built in, or that of a template. -/
inductive StartsFrom : Deck → Prop
  | builtin {deck : Deck} (htemplate : arguments.template = none) (hdeck : Deck.builtin = .ok deck) :
    StartsFrom deck
  | template {path : File.Path} {contents : File.Contents} {deck : Deck}
    (htemplate : arguments.template = some path) (hread : files.read path = .ok contents)
    (hdeck : Deck.ofContents contents = .ok deck) : StartsFrom deck

/-- There is no opening what is asked for as the template. -/
def CannotOpenTemplate : Prop :=
  ∃ path cause, arguments.template = some path ∧ files.read path = .error cause ∧ cause ≠ .isAFolder

/-- What is asked for as the template can be opened but is none: a folder, or a file with other
contents. -/
inductive RejectsTemplate : Prop
  | folder {path : File.Path} (htemplate : arguments.template = some path)
    (hread : files.read path = .error .isAFolder)
  | file {path : File.Path} {contents : File.Contents} {fault : Presentation.TemplateFault}
    (htemplate : arguments.template = some path) (hread : files.read path = .ok contents)
    (hfault : Deck.ofContents contents = .error fault)

/-- A run has started from a deck, and its configuration describes slides. -/
structure Begins (deck : Deck) (slides : List Slide) : Prop where
  output : HasDeckExtension arguments.output
  deck : StartsFrom arguments files deck
  slides : ∃ entries, Configuration.Lists files arguments.configuration entries ∧
    List.Forall₂ Slide.Described entries slides

/-- The ways in which a run may end: the phase that it fails in, if any, and the files that it leaves. In
each of them the phases before have not failed. -/
inductive Ends : Option Phase → File.Tree → Prop
  | checkOutput (houtput : ¬HasDeckExtension arguments.output) : Ends (some .checkOutput) files
  | openTemplate (houtput : HasDeckExtension arguments.output)
    (htemplate : CannotOpenTemplate arguments files) : Ends (some .openTemplate) files
  | acceptTemplate (houtput : HasDeckExtension arguments.output)
    (htemplate : RejectsTemplate arguments files) : Ends (some .acceptTemplate) files
  | readConfiguration {deck : Deck} {cause : File.Error} (houtput : HasDeckExtension arguments.output)
    (hdeck : StartsFrom arguments files deck) (hread : files.read arguments.configuration = .error cause) :
    Ends (some .readConfiguration) files
  | listEntries {deck : Deck} (houtput : HasDeckExtension arguments.output)
    (hdeck : StartsFrom arguments files deck)
    (hmalformed : Configuration.Malformed files arguments.configuration) : Ends (some .listEntries) files
  | describeSlides {deck : Deck} {entries : List Json} {entry : Json}
    (houtput : HasDeckExtension arguments.output) (hdeck : StartsFrom arguments files deck)
    (hlists : Configuration.Lists files arguments.configuration entries) (hmem : entry ∈ entries)
    (hinvalid : ¬Configuration.IsValid entry) : Ends (some .describeSlides) files
  | prepareImages {deck : Deck} {slides : List Slide} {path : File.Path} {cause : File.Error}
    {left : File.Tree} (hbegins : Begins arguments files deck slides)
    (hplace : NoWorkplace arguments.options slides files path cause left) :
    Ends (some .prepareImages) left
  | renderSlides {deck : Deck} {earlier rest : List Slide} {slide : Slide} {folder : File.Path}
    {started : File.Tree} {leave : File.Tree → File.Tree} {calls last : List Render.Call}
    {middle after : Session Deck} {error : Error}
    (hbegins : Begins arguments files deck (earlier ++ slide :: rest))
    (hplace : Workplace arguments.options (earlier ++ slide :: rest) files folder started leave)
    (hearlier : Completed (presentationBackend .standard) (imagePath folder arguments.chartFormat) 0
      earlier ⟨deck, started⟩ calls middle)
    (hslide : SlideRun (presentationBackend .standard)
      (imagePath folder arguments.chartFormat earlier.length) slide middle last (.error error) after) :
    Ends (some .renderSlides) (leave after.files)
  | finishDeck {deck : Deck} {slides : List Slide} {folder : File.Path} {started : File.Tree}
    {leave : File.Tree → File.Tree} {calls : List Render.Call} {middle after : Session Deck}
    {error : Error} (hbegins : Begins arguments files deck slides)
    (hplace : Workplace arguments.options slides files folder started leave)
    (hslides : Completed (presentationBackend .standard) (imagePath folder arguments.chartFormat) 0
      slides ⟨deck, started⟩ calls middle)
    (hfinish : presentationBackend .standard (.finalize arguments.output) middle = (.error error, after)) :
    Ends (some .finishDeck) (leave after.files)
  | completed {deck : Deck} {slides : List Slide} {folder : File.Path} {started : File.Tree}
    {leave : File.Tree → File.Tree} {calls : List Render.Call} {middle after : Session Deck}
    (hbegins : Begins arguments files deck slides)
    (hplace : Workplace arguments.options slides files folder started leave)
    (hslides : Completed (presentationBackend .standard) (imagePath folder arguments.chartFormat) 0
      slides ⟨deck, started⟩ calls middle)
    (hfinish : presentationBackend .standard (.finalize arguments.output) middle = (.ok (), after)) :
    Ends none (leave after.files)

end Phases

/-! ## Starting -/

section Starting

variable {arguments : Arguments} {files : File.Tree}

/-- The deck that a run starts from is the one that it is made to start from. -/
theorem startingDeck_of_startsFrom {deck : Deck} (h : StartsFrom arguments files deck) :
    startingDeck arguments files = .ok deck := by
  cases h with
  | builtin htemplate hdeck => exact startingDeck_of_builtin files htemplate hdeck
  | template htemplate hread hdeck =>
    rw [startingDeck, htemplate]
    simp only [Deck.openTemplate, hread, hdeck]
    rfl

/-- An error of the template is reported with its path. -/
theorem exists_startingDeck_eq_error {path : File.Path} {error : Error}
    (htemplate : arguments.template = some path) (hopen : Deck.openTemplate files path = .error error) :
    ∃ context, startingDeck arguments files = .error ⟨context, error⟩ := by
  refine ⟨some ("Failed to load template " ++ path.text), ?_⟩
  rw [startingDeck, htemplate]
  simp only [hopen]
  rfl

/-- A template that cannot be opened gives the status of what is not found. -/
theorem startingDeck_of_cannotOpen (h : CannotOpenTemplate arguments files) :
    ∃ failure, startingDeck arguments files = .error failure ∧ failure.status = 2 := by
  obtain ⟨path, cause, htemplate, hread, hfolder⟩ := h
  have hopen : Deck.openTemplate files path = .error (.notFound path cause) := by
    rw [Deck.openTemplate, hread]
    cases cause with
    | isAFolder => exact absurd rfl hfolder
    | _ => rfl
  obtain ⟨context, hstart⟩ := exists_startingDeck_eq_error htemplate hopen
  exact ⟨_, hstart, rfl⟩

/-- A template that is rejected gives the status of malformed data. -/
theorem startingDeck_of_rejects (h : RejectsTemplate arguments files) :
    ∃ failure, startingDeck arguments files = .error failure ∧ failure.status = 3 := by
  cases h with
  | @folder path htemplate hread =>
    have hopen : Deck.openTemplate files path
        = .error (.dataFormat path (.template (.package (.archive .notAnArchive)))) := by
      rw [Deck.openTemplate, hread]
      rfl
    obtain ⟨context, hstart⟩ := exists_startingDeck_eq_error htemplate hopen
    exact ⟨_, hstart, rfl⟩
  | @file path _ fault htemplate hread hfault =>
    have hopen : Deck.openTemplate files path = .error (.dataFormat path (.template fault)) := by
      rw [Deck.openTemplate, hread]
      simp only [hfault]
      rfl
    obtain ⟨context, hstart⟩ := exists_startingDeck_eq_error htemplate hopen
    exact ⟨_, hstart, rfl⟩

/-- A template cannot be opened, is rejected, or gives a deck. There always is the built-in one. -/
theorem cannotOpen_or_rejects_or_startsFrom (arguments : Arguments) (files : File.Tree) :
    CannotOpenTemplate arguments files ∨ RejectsTemplate arguments files ∨
      ∃ deck, StartsFrom arguments files deck := by
  match htemplate : arguments.template with
  | none =>
    obtain ⟨deck, -, hdeck⟩ := Deck.exists_builtin_eq_ok
    exact .inr (.inr ⟨deck, .builtin htemplate hdeck⟩)
  | some path =>
    match hread : files.read path with
    | .ok contents =>
      match hdeck : Deck.ofContents contents with
      | .ok deck => exact .inr (.inr ⟨deck, .template htemplate hread hdeck⟩)
      | .error fault => exact .inr (.inl (.file htemplate hread hdeck))
    | .error cause =>
      by_cases hfolder : cause = .isAFolder
      · rw [hfolder] at hread
        exact .inr (.inl (.folder htemplate hread))
      · exact .inl ⟨path, cause, htemplate, hread, hfolder⟩

end Starting

/-! ## Ends of runs -/

/-- The status that the result of rendering leads to. -/
def resultStatus : Except Error Unit → Nat
  | .ok () => 0
  | .error error => (Failure.mk none error).status

/-- Whatever finishing the deck fails with is about writing it. -/
theorem exists_finished_of_error (output : File.Path) (error : Error) :
    ∃ path fault, Render.Finished output (.error error) (.error (.artifactWrite path fault)) := by
  cases error with
  | artifactWrite path fault => exact ⟨path, fault, .own⟩
  | _ => exact ⟨output, _, .wrapped fun _ _ h => nomatch h⟩

section Runs

variable {words : List String} {files : File.Tree} {arguments : Arguments}
  (hwords : Arguments.ofWords words = .ok arguments)

include hwords

/-- Without the extension of a presentation, nothing is done. -/
theorem run_of_not_pptx (h : Deck.isPptx arguments.output = false) :
    (run words files).1.status = 5 ∧ (run words files).2 = files := by
  have hcheck : checkOutput arguments.output
      = .error ⟨none, .invalidArgument (.outputNotPptx arguments.output)⟩ := by
    rw [checkOutput, h, if_neg Bool.false_ne_true]
  rw [run_of_ofWords hwords, generate, hcheck]
  exact ⟨rfl, rfl⟩

/-- Without a deck to start from, nothing is done. -/
theorem run_of_startingDeck_eq_error (houtput : HasDeckExtension arguments.output) {failure : Failure}
    (h : startingDeck arguments files = .error failure) :
    (run words files).1.status = failure.status ∧ (run words files).2 = files := by
  have hgenerate : generate arguments files = (.error failure, files) := by
    rw [generate, checkOutput_of_isPptx (isPptx_iff.2 houtput)]
    simp only [h]
  rw [run_of_ofWords hwords, hgenerate]
  exact ⟨rfl, rfl⟩

/-- With a deck to start from, a run ends as rendering does. -/
theorem run_of_startsFrom (houtput : HasDeckExtension arguments.output) {deck : Deck}
    (hdeck : StartsFrom arguments files deck) {result : Except Error Unit} {session : Session Deck}
    (h : Render.generate (presentationBackend .standard) arguments.options arguments.configuration
      ⟨deck, files⟩ = (result, session)) :
    (run words files).1.status = resultStatus result ∧ (run words files).2 = session.files := by
  have hgenerate := generate_of_startingDeck (isPptx_iff.2 houtput) (startingDeck_of_startsFrom hdeck) h
  rw [run_of_ofWords hwords, hgenerate]
  cases result <;> exact ⟨rfl, rfl⟩

/-- Without slides to render, nothing is done. -/
theorem run_of_load_eq_error (houtput : HasDeckExtension arguments.output) {deck : Deck}
    (hdeck : StartsFrom arguments files deck) {error : Error}
    (h : Configuration.load files arguments.configuration = .error error) :
    (run words files).1.status = resultStatus (.error error) ∧ (run words files).2 = files :=
  run_of_startsFrom hwords houtput hdeck (Render.generate_of_load_eq_error ⟨deck, files⟩ h)

/-- A run whose slides are known ends as is prescribed for them. -/
theorem run_of_prescribed {deck : Deck} {slides : List Slide}
    (hbegins : Begins arguments files deck slides) {calls : List Render.Call}
    {result : Except Error Unit} {session : Session Deck}
    (h : Prescribed (presentationBackend .standard) arguments.options slides ⟨deck, files⟩ calls result
      session) :
    (run words files).1.status = resultStatus result ∧ (run words files).2 = session.files := by
  obtain ⟨entries, hlists, hslides⟩ := hbegins.slides
  have hload := Configuration.load_of_described hlists hslides
  refine run_of_startsFrom hwords hbegins.output hbegins.deck ?_
  rw [Render.generate_of_load_eq_ok ⟨deck, files⟩ hload, h.render_eq]

/-- A run that meets what it takes to end in some way does so. -/
theorem run_of_ends {reached : Option Phase} {after : File.Tree}
    (h : Ends arguments files reached after) :
    (run words files).1.status = statusOf reached ∧ (run words files).2 = after := by
  cases h with
  | checkOutput houtput =>
    refine run_of_not_pptx hwords ?_
    rw [← Bool.not_eq_true, isPptx_iff]
    exact houtput
  | openTemplate houtput htemplate =>
    obtain ⟨failure, hstart, hstatus⟩ := startingDeck_of_cannotOpen htemplate
    have hrun := run_of_startingDeck_eq_error hwords houtput hstart
    rw [hstatus] at hrun
    exact hrun
  | acceptTemplate houtput htemplate =>
    obtain ⟨failure, hstart, hstatus⟩ := startingDeck_of_rejects htemplate
    have hrun := run_of_startingDeck_eq_error hwords houtput hstart
    rw [hstatus] at hrun
    exact hrun
  | readConfiguration houtput hdeck hread =>
    exact run_of_load_eq_error hwords houtput hdeck (Configuration.load_of_unread hread)
  | listEntries houtput hdeck hmalformed =>
    obtain ⟨fault, hload⟩ := Configuration.load_of_malformed hmalformed
    exact run_of_load_eq_error hwords houtput hdeck hload
  | describeSlides houtput hdeck hlists hmem hinvalid =>
    obtain ⟨index, kind, fault, hload⟩ := Configuration.load_of_invalid hlists hmem hinvalid
    exact run_of_load_eq_error hwords houtput hdeck hload
  | prepareImages hbegins hplace => exact run_of_prescribed hwords hbegins (.noWorkplace hplace)
  | renderSlides hbegins hplace hearlier hslide =>
    exact run_of_prescribed hwords hbegins (.slideFails hplace rfl hearlier hslide)
  | finishDeck hbegins hplace hslides hfinish =>
    obtain ⟨path, fault, hfinished⟩ := exists_finished_of_error arguments.options.output _
    exact run_of_prescribed hwords hbegins (.finalized hplace hslides hfinish hfinished)
  | completed hbegins hplace hslides hfinish =>
    exact run_of_prescribed hwords hbegins (.finalized hplace hslides hfinish .written)

end Runs

/-! ## All runs -/

/-- What is prescribed for rendering is one of the ways to end. -/
theorem exists_ends_of_prescribed {arguments : Arguments} {files : File.Tree} {deck : Deck}
    {slides : List Slide} (hbegins : Begins arguments files deck slides) {calls : List Render.Call}
    {result : Except Error Unit} {session : Session Deck}
    (h : Prescribed (presentationBackend .standard) arguments.options slides ⟨deck, files⟩ calls result
      session) : ∃ reached after, Ends arguments files reached after := by
  cases h with
  | noWorkplace hplace => exact ⟨_, _, .prepareImages hbegins hplace⟩
  | slideFails hplace hslides hearlier hslide =>
    subst hslides
    exact ⟨_, _, .renderSlides hbegins hplace hearlier hslide⟩
  | @finalized _ _ _ _ _ _ answer _ hplace hslides hfinish _ =>
    cases answer with
    | ok => exact ⟨_, _, .completed hbegins hplace hslides hfinish⟩
    | error error => exact ⟨_, _, .finishDeck hbegins hplace hslides hfinish⟩

/-- There is a way for every run to end: the phases are gone through until one fails. -/
theorem exists_ends (arguments : Arguments) (files : File.Tree) :
    ∃ reached after, Ends arguments files reached after := by
  by_cases houtput : HasDeckExtension arguments.output
  · rcases cannotOpen_or_rejects_or_startsFrom arguments files with htemplate | htemplate | ⟨deck, hdeck⟩
    · exact ⟨_, _, .openTemplate houtput htemplate⟩
    · exact ⟨_, _, .acceptTemplate houtput htemplate⟩
    · rcases Configuration.unread_or_malformed_or_lists files arguments.configuration with
        ⟨cause, hread⟩ | hmalformed | ⟨entries, hlists⟩
      · exact ⟨_, _, .readConfiguration houtput hdeck hread⟩
      · exact ⟨_, _, .listEntries houtput hdeck hmalformed⟩
      · rcases Configuration.described_or_first_invalid entries with
          ⟨slides, hslides⟩ | ⟨before, entry, rest, rfl, -, hinvalid⟩
        · obtain ⟨calls, result, session, hprescribed, -⟩ :=
            Render.makes_prescribed (presentationBackend .standard) arguments.options slides ⟨deck, files⟩
          exact exists_ends_of_prescribed ⟨houtput, hdeck, entries, hlists, hslides⟩ hprescribed
        · exact ⟨_, _, .describeSlides houtput hdeck hlists (by simp) hinvalid⟩
  · exact ⟨_, _, .checkOutput houtput⟩

/-- How the status of a run and the files that it leaves tell what has happened. -/
structure Classified (arguments : Arguments) (files : File.Tree) (status : Nat) (last : File.Tree) :
    Prop where
  /-- The run has ended in some way. -/
  ends : ∃ reached, Ends arguments files reached last ∧ status = statusOf reached
  /-- There is no other way for it to end with another status or with other files. -/
  decided : ∀ reached after, Ends arguments files reached after →
    status = statusOf reached ∧ last = after
  /-- No invalid argument but the name of the output leads to this status. -/
  five : status = 5 ↔ ¬HasDeckExtension arguments.output
  /-- No failure is left without a class. -/
  ne_one : status ≠ 1

/-- Only the check of the output leads to status five. -/
theorem statusOf_eq_five {arguments : Arguments} {files last : File.Tree} {reached : Option Phase}
    (h : Ends arguments files reached last) (hstatus : statusOf reached = 5) :
    ¬HasDeckExtension arguments.output := by
  cases h with
  | checkOutput houtput => exact houtput
  | _ => exact absurd hstatus (by decide)

/-- No phase leads to status one. -/
theorem statusOf_ne_one (reached : Option Phase) : statusOf reached ≠ 1 := by
  match reached with
  | none => decide
  | some phase => cases phase <;> decide

/-- The status of every run, and the files that it leaves, are decided by the first phase that fails. -/
theorem classified_of_run {words : List String} {arguments : Arguments}
    (hwords : Arguments.ofWords words = .ok arguments) (files : File.Tree) :
    Classified arguments files (run words files).1.status (run words files).2 := by
  obtain ⟨reached, after, hends⟩ := exists_ends arguments files
  obtain ⟨hstatus, rfl⟩ := run_of_ends hwords hends
  refine ⟨⟨reached, hends, hstatus⟩, fun _ _ h => run_of_ends hwords h, ?_, ?_⟩
  · constructor
    · intro hfive
      exact statusOf_eq_five hends (hstatus.symm.trans hfive)
    · intro houtput
      exact (run_of_ends hwords (.checkOutput houtput)).1
  · rw [hstatus]
    exact statusOf_ne_one reached

/-- A folder with a configuration whose plot has a blank label, and a folder for temporary files. -/
def blankLabelFiles : File.Tree where
  nodes :=
    [(["deck.json"], .file (.text (
      "\x7b\"presentation\":[\x7b\"type\":\"plot\",\"title\":\"A\",\"content\":\"a.csv\"," ++
      "\"configuration\":[\" \",\"y\"]\x7d]\x7d"))),
     (["tmp"], .folder)]
  current := []
  temporary := ⟨"/tmp"⟩

/-- The label is an argument that a slide does not accept, which is a failure to render. -/
theorem classified_blankLabel : ∃ arguments, Arguments.ofWords ["deck.json"] = .ok arguments ∧
    (run ["deck.json"] blankLabelFiles).1.status = 7 ∧
    Classified arguments blankLabelFiles (run ["deck.json"] blankLabelFiles).1.status
      (run ["deck.json"] blankLabelFiles).2 := by
  have hwords : Arguments.ofWords ["deck.json"]
      = .ok ⟨⟨"deck.json"⟩, ⟨"presentation.pptx"⟩, none, none, .svg, false⟩ := rfl
  have hload : Configuration.load blankLabelFiles ⟨"deck.json"⟩
      = .ok [⟨"A", .plot ⟨"a.csv"⟩ ⟨" ", "y"⟩⟩] := by
    have hfound : (Configuration.load blankLabelFiles ⟨"deck.json"⟩).toOption
        = some [⟨"A", .plot ⟨"a.csv"⟩ ⟨" ", "y"⟩⟩] := by
      decide +kernel
    match Configuration.load blankLabelFiles ⟨"deck.json"⟩, hfound with
    | .ok slides, hfound => exact congrArg Except.ok (Option.some.inj hfound)
  obtain ⟨deck, -, hdeck⟩ := Deck.exists_builtin_eq_ok
  have hbegins : Begins ⟨⟨"deck.json"⟩, ⟨"presentation.pptx"⟩, none, none, .svg, false⟩ blankLabelFiles
      deck ([] ++ [⟨"A", .plot ⟨"a.csv"⟩ ⟨" ", "y"⟩⟩]) :=
    ⟨isPptx_iff.1 (by decide), .builtin rfl hdeck, Configuration.exists_lists_of_load hload⟩
  have hblank : Text.trim " ".toList = [] := by decide
  have hclassified := classified_of_run hwords blankLabelFiles
  have hends := Ends.renderSlides hbegins
    (.scratch rfl ⟨List.mem_singleton_self _, rfl⟩ rfl) .nil (.blankX rfl hblank)
  exact ⟨_, hwords, (hclassified.decided _ _ hends).1, hclassified⟩

end CommandLine

end SlideDeck
