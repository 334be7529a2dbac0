import SlideDeck.Proofs.CommandLine.Written
import SlideDeck.Proofs.Render.Confined

/-!
# All or nothing

A command line writes the deck that it asks for, or leaves its output as it was. Either way it leaves
everything else as it was, apart from the folder for the images of plots and these images
(`allOrNothing_of_run`).
-/

namespace SlideDeck

namespace Render

/-- A configuration that cannot be read changes nothing, and any other is rendered. -/
theorem generate_cases {σ : Type} {backend : Backend σ} {options : Options} {configuration : File.Path}
    {before after : Session σ} {result : Except Error Unit}
    (h : generate backend options configuration before = (result, after)) :
    after = before ∧ (∃ error, result = .error error) ∨
      ∃ slides, Configuration.load before.files configuration = .ok slides ∧
        render backend options slides before = (result, after) := by
  match hload : Configuration.load before.files configuration with
  | .error error =>
    obtain ⟨rfl, rfl⟩ := Prod.mk.inj ((generate_of_load_eq_error before hload).symm.trans h)
    exact .inl ⟨rfl, error, rfl⟩
  | .ok slides =>
    exact .inr ⟨slides, rfl, (generate_of_load_eq_ok before hload).symm.trans h⟩

end Render

namespace CommandLine

open Render (Workplace MayChange IsScratchApart Stage stagesFrom presentationBackend imagePath)

/-- Whether rendering has succeeded, in the result of a command line. -/
def rendered : Except Failure Nat → Except Error Unit
  | .ok _ => .ok ()
  | .error failure => .error failure.error

/-- A context changes the wording of an error and not what it is about. -/
theorem rendered_inContext (context : String) (count : Nat) (result : Except Error Unit) :
    rendered (inContext context (result.map fun () => count)) = result := by
  cases result <;> rfl

/-- The status is zero for a deck that was generated, and for nothing else. -/
theorem status_eq_zero_iff (arguments : Arguments) (result : Except Failure Nat) :
    (outcome arguments result).status = 0 ↔ ∃ count, result = .ok count := by
  cases result with
  | ok count => exact ⟨fun _ => ⟨count, rfl⟩, fun _ => rfl⟩
  | error failure => exact ⟨fun h => absurd h (status_ne_zero failure), fun ⟨_, h⟩ => nomatch h⟩

/-- Whether a package is that of the deck that is asked for: the deck to start from, with the slides of
the configuration added to it in order. -/
def IsAskedFor (arguments : Arguments) (files : File.Tree) (package : Package) : Prop :=
  ∃ start slides folder started leave, startingDeck arguments files = .ok start ∧
    Configuration.load files arguments.configuration = .ok slides ∧
    Workplace arguments.options slides files folder started leave ∧
    ∃ stages made entered, stages = stagesFrom (presentationBackend .standard)
        (imagePath folder arguments.chartFormat) 0 slides ⟨start, started⟩ ∧
      (Deck.Record.start start).addAll (stages.map Stage.addition) = ⟨entered, made⟩ ∧
      made.map (·.addition) = stages.map Stage.addition ∧ entered.register = .ok package

/-- Whether a run that succeeds has written the deck that is asked for. -/
def Delivers (arguments : Arguments) (files : File.Tree) (outcome : Outcome) (after : File.Tree) : Prop :=
  outcome.status = 0 → ∃ package, IsAskedFor arguments files package ∧
    after.read arguments.output = .ok (.archive package.toEntries)

/-- How the files after a run stand to those before it. -/
structure AllOrNothing (arguments : Arguments) (files : File.Tree) (result : Except Failure Nat)
    (after : File.Tree) : Prop where
  /-- A run that fails has created, changed and removed no file at the address that its output asks for. -/
  nothing : (outcome arguments result).status ≠ 0 → ∀ address,
    File.Tree.target? files.current arguments.output = some address → ∀ contents,
      after.node? address = some (.file contents) ↔ files.node? address = some (.file contents)
  /-- A run that succeeds has written the deck, and it is there unless the folder for temporary images has
  been made on the way to it and has taken it along. -/
  all : IsScratchApart arguments.options files →
    Delivers arguments files (outcome arguments result) after
  /-- Besides its output, a run changes nothing but the folder that images of plots are kept in. -/
  confined : ∀ address, after.node? address = files.node? address ∨
    ∃ slides, Configuration.load files arguments.configuration = .ok slides ∧
      MayChange arguments.options slides (rendered result) files after address

/-- A run that has done nothing. -/
theorem allOrNothing_same (arguments : Arguments) (files : File.Tree) (failure : Failure) :
    AllOrNothing arguments files (.error failure) files where
  nothing := fun _ _ _ _ => Iff.rfl
  all := fun _ h => absurd h (status_ne_zero failure)
  confined := fun _ => .inl rfl

/-- The deck that was asked for is read where it was written. -/
theorem read_of_generate {arguments : Arguments} {files last : File.Tree} {count : Nat}
    (h : generate arguments files = (.ok count, last))
    (hapart : IsScratchApart arguments.options files) :
    ∃ package, IsAskedFor arguments files package ∧
      last.read arguments.output = .ok (.archive package.toEntries) := by
  obtain ⟨deck, session, hdeck, hgenerate, rfl⟩ := generate_eq_ok h
  obtain ⟨slides, hload, hrender⟩ := Render.generate_eq_ok hgenerate
  obtain ⟨folder, started, leave, written, hplace, hall, hlast⟩ := Render.render_eq_ok hrender
  obtain ⟨middle, made, package, hrecord, hstages, hstays, hregister, hpublish⟩ :=
    Render.exists_package_of_renderAll hall
  refine ⟨package, ⟨deck, slides, folder, started, leave, hdeck, hload, hplace, _, made,
    middle.backend, rfl, hrecord, ?_, hregister⟩, ?_⟩
  · rw [← List.forall₂_eq_eq_eq, List.forall₂_map_left_iff, List.forall₂_map_right_iff]
    exact hstages.imp fun _ _ h => h.1
  · rw [hlast]
    exact hplace.read_of_publish hapart hstays hpublish

/-- Whatever comes of rendering a configuration, it is confined. -/
theorem changes_of_generate {arguments : Arguments} {files : File.Tree} {deck : Deck}
    {result : Except Error Unit} {session : Render.Session Deck}
    (h : Render.generate (presentationBackend .standard) arguments.options arguments.configuration
      ⟨deck, files⟩ = (result, session))
    (address : File.Address) : session.files.node? address = files.node? address ∨
      ∃ slides, Configuration.load files arguments.configuration = .ok slides ∧
        MayChange arguments.options slides result files session.files address := by
  rcases Render.generate_cases h with ⟨rfl, -⟩ | ⟨slides, hload, hrender⟩
  · exact .inl rfl
  · refine ((Render.changes_of_render hrender).node?_eq_or address).imp_right fun hchange => ?_
    exact ⟨slides, hload, hchange⟩

/-- Generating a deck is all or nothing. -/
theorem allOrNothing_of_generate {arguments : Arguments} {files last : File.Tree}
    {result : Except Failure Nat} (h : generate arguments files = (result, last)) :
    AllOrNothing arguments files result last := by
  rcases generate_cases arguments files with ⟨failure, hfails⟩ | ⟨hpptx, deck, rendering, session, -, hrun, hall⟩
  · obtain ⟨rfl, rfl⟩ := Prod.mk.inj (hfails.symm.trans h)
    exact allOrNothing_same arguments files failure
  · have hchanges := changes_of_generate hrun
    obtain ⟨hresult, rfl⟩ := Prod.mk.inj (hall.symm.trans h)
    have hrendered : rendered result = rendering := by
      rw [← hresult, rendered_inContext]
    refine ⟨fun hstatus address htarget contents => ?_, fun hapart hstatus => ?_, fun address => ?_⟩
    · -- of a run that fails at most a new folder can be where the output would be
      rcases hchanges address with hsame | ⟨slides, -, hchange⟩
      · rw [hsame]
      · have hfailed : rendering ≠ .ok () := by
          rintro rfl
          exact hstatus ((status_eq_zero_iff arguments result).2 ⟨_, hresult.symm⟩)
        obtain ⟨hbefore, hafter⟩ := hchange.eq_of_output hfailed hpptx htarget
        rw [hbefore, hafter]
        exact Iff.intro (fun h => nomatch h) (fun h => nomatch h)
    · obtain ⟨count, rfl⟩ := (status_eq_zero_iff arguments result).1 hstatus
      exact read_of_generate h hapart
    · rw [hrendered]
      exact hchanges address

/-- Whatever a command line asks for, whatever fails and however the run ends, it is all or nothing. A run
that succeeds has written its deck, whatever is drawn for the names of temporary files and folders but for
finitely many draws: the deck is lost with the folder for temporary images if the output is in a folder
that is not there before and just that name is drawn. -/
theorem allOrNothing_of_run (words : List String) (files : File.Tree) :
    (∀ stop, Arguments.ofWords words = .error stop → (run words files).2 = files) ∧
      ∀ arguments, Arguments.ofWords words = .ok arguments →
        (run words files).1 = outcome arguments (generate arguments files).1 ∧
          AllOrNothing arguments files (generate arguments files).1 (run words files).2 ∧
          ∃ unlucky : List String, ∀ letters : File.Letters, letters.text ∉ unlucky →
            Delivers arguments (files.drawing letters) (run words (files.drawing letters)).1
              (run words (files.drawing letters)).2 := by
  refine ⟨fun stop hwords => by rw [run, hwords], fun arguments hwords => ?_⟩
  rw [run_of_ofWords hwords]
  refine ⟨rfl, allOrNothing_of_generate rfl, ?_⟩
  obtain ⟨unlucky, hunlucky⟩ := Render.exists_isScratchApart arguments.options files
  refine ⟨unlucky, fun letters hletters => ?_⟩
  rw [run_of_ofWords hwords]
  exact (allOrNothing_of_generate rfl).all (hunlucky letters hletters)

/-- The deck of a report is written to where decks are written by default. -/
theorem allOrNothing_report : ∃ arguments, Arguments.ofWords ["deck.json"] = .ok arguments ∧
    (run ["deck.json"] reportFiles).1.status = 0 ∧ IsScratchApart arguments.options reportFiles ∧
    (run ["deck.json"] reportFiles).1 = outcome arguments (generate arguments reportFiles).1 ∧
    AllOrNothing arguments reportFiles (generate arguments reportFiles).1
      (run ["deck.json"] reportFiles).2 := by
  obtain ⟨hwords, hstatus⟩ := status_report
  obtain ⟨houtcome, hfiles, -⟩ := (allOrNothing_of_run ["deck.json"] reportFiles).2 _ hwords
  exact ⟨_, hwords, hstatus, fun _ => .inl ⟨_, place_report⟩, houtcome, hfiles⟩

end CommandLine

end SlideDeck
