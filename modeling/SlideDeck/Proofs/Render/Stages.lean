import SlideDeck.Proofs.Chart.Plot
import SlideDeck.Proofs.File.Scratch
import SlideDeck.Proofs.Presentation.Record
import SlideDeck.Proofs.Render.Trace

/-!
# Slides on the way into a presentation

The back end that builds a presentation answers each slide of a run that succeeds by an addition to its
deck. A `Stage` is a slide with the files at the time when it is added, and the deck in the end is that
of a record of the additions of all stages (`renderFrom_eq_ok`).
-/

namespace SlideDeck.Render

open Deck (Addition Made Record)
open File.Tree (Stays)

/-! ## Stages -/

/-- A slide when it is added, with the image that a plot of it goes into and the files at that time. -/
structure Stage where
  slide : Slide
  image : File.Path
  files : File.Tree

namespace Stage

/-- The image that is shown on the slide. -/
def picture? (stage : Stage) : Option File.Path :=
  match stage.slide.content with
  | .picture path => some path
  | .plot _ _ => some stage.image
  | _ => none

/-- The addition to the deck. -/
def addition (stage : Stage) : Addition :=
  let layout := stage.slide.kind.layout
  match stage.slide.content with
  | .title subtitle => .title layout stage.slide.title subtitle
  | .text body => .text layout stage.slide.title body
  | .list items => .list layout stage.slide.title (items.map (·.level)) (items.map (·.text))
  | .picture path => .image stage.files layout stage.slide.title path
  | .plot _ _ => .image stage.files layout stage.slide.title stage.image

end Stage

/-- The stages of slides, the first of which has the given index. Adding a slide to a deck changes no
files, so the files after the slide are those at the time when it is added. -/
def stagesFrom {σ : Type} (backend : Backend σ) (image : Nat → File.Path) (index : Nat) :
    List Slide → Session σ → List Stage
  | [], _ => []
  | slide :: rest, session =>
    let next := (renderContent backend (image index) slide session).2
    ⟨slide, image index, next.files⟩ :: stagesFrom backend image (index + 1) rest next

/-- The stages are those of the slides, in their order. -/
theorem map_slide_stagesFrom {σ : Type} (backend : Backend σ) (image : Nat → File.Path) (index : Nat)
    (slides : List Slide) (session : Session σ) :
    (stagesFrom backend image index slides session).map (·.slide) = slides := by
  induction slides generalizing index session with
  | nil => rfl
  | cons slide rest ih =>
    rw [stagesFrom, List.map_cons, ih]

/-! ## Answers -/

/-- The addition that a call asks for. -/
def Call.addition? (files : File.Tree) : Call → Option Addition
  | .addTitle layout title subtitle => some (.title layout title subtitle)
  | .addText layout title body => some (.text layout title body)
  | .addList layout title levels texts => some (.list layout title levels texts)
  | .addImage layout title image => some (.image files layout title image)
  | .plot .. | .finalize _ => none

variable {size : Chart.Size} {before after : Session Deck}

/-- The answer to a call that puts another deck in the place of the one before it, or fails. -/
def answer (session : Session Deck) : Except Error Deck → Except Error Unit × Session Deck
  | .ok deck => (.ok (), { session with backend := deck })
  | .error error => (.error error, session)

/-- A call that asks for an addition is answered by it. -/
theorem answer_eq {call : Call} {a : Addition} (hcall : call.addition? before.files = some a) :
    presentationBackend size call before = answer before (a.on before.backend) := by
  cases call with
  | plot | finalize => cases hcall
  | addTitle | addText | addList | addImage =>
    obtain rfl := Option.some.inj hcall
    rfl

/-- A call that adds a slide changes the deck as the addition does, and no files. -/
theorem on_of_answer {call : Call} {a : Addition} (hcall : call.addition? before.files = some a)
    (h : presentationBackend size call before = (.ok (), after)) :
    a.on before.backend = .ok after.backend ∧ after.files = before.files := by
  rw [answer_eq hcall] at h
  cases hon : a.on before.backend with
  | ok deck =>
    rw [hon] at h
    obtain rfl := (Prod.mk.inj h).2
    exact ⟨rfl, rfl⟩
  | error error =>
    rw [hon] at h
    cases (Prod.mk.inj h).1

/-- A call is answered by the addition that it asks for. -/
theorem answer_of_on {call : Call} {a : Addition} {deck next : Deck} {files : File.Tree}
    (hcall : call.addition? files = some a) (h : a.on deck = .ok next) :
    presentationBackend size call ⟨deck, files⟩ = (.ok (), ⟨next, files⟩) := by
  rw [answer_eq hcall]
  show answer _ (a.on deck) = _
  rw [h]
  rfl

/-- The call of a slide asks for its addition. -/
theorem addition?_of_call? {slide : Slide} {call : Call} (h : call? slide = some call)
    (image : File.Path) (files : File.Tree) :
    call.addition? files = some (Stage.mk slide image files).addition := by
  rw [Stage.addition]
  unfold call? at h
  split at h
  · next hcontent => simp only [← Option.some.inj h, hcontent, Call.addition?]
  · next hcontent => simp only [← Option.some.inj h, hcontent, Call.addition?]
  · next hcontent => simp only [← Option.some.inj h, hcontent, Call.addition?]
  · next hcontent => simp only [← Option.some.inj h, hcontent, Call.addition?]
  · cases h

/-- A call to plot is answered by plotting into the files. -/
theorem plot_of_answer {xs ys : List Float} {legend : Chart.Legend} {output : File.Path}
    {result : Except Error Unit}
    (h : presentationBackend size (.plot xs ys legend output) before = (result, after)) :
    Chart.plot size xs ys legend output before.files = (result, after.files) ∧
      after.backend = before.backend := by
  obtain ⟨hresult, rfl⟩ := Prod.mk.inj h
  exact ⟨Prod.ext hresult rfl, rfl⟩

/-- The last call is answered by finishing the deck. -/
theorem finalize_of_answer {output : File.Path} {result : Except Error Unit}
    (h : presentationBackend size (.finalize output) before = (result, after)) :
    before.backend.finalize before.files output = (result, after.backend, after.files) := by
  obtain ⟨hresult, rfl⟩ := Prod.mk.inj h
  exact Prod.ext hresult rfl

/-- Drawing a chart leaves the deck as it is, and all folders. -/
theorem stays_of_plot {xs ys : List Float} {legend : Chart.Legend} {output : File.Path}
    (h : presentationBackend size (.plot xs ys legend output) before = (.ok (), after)) :
    after.backend = before.backend ∧ Stays before.files after.files := by
  obtain ⟨hfiles, hdeck⟩ := plot_of_answer h
  obtain ⟨format, -, hpublish⟩ := Chart.plot_eq_ok hfiles
  exact ⟨hdeck, File.Tree.stays_publish hpublish⟩

/-- A slide that is rendered is added to the deck. -/
theorem SlideRun.on_eq_ok {image : File.Path} {slide : Slide} {calls : List Call}
    (h : SlideRun (presentationBackend size) image slide before calls (.ok ()) after) :
    (Stage.mk slide image after.files).addition.on before.backend = .ok after.backend ∧
      Stays before.files after.files := by
  cases h with
  | single hcall hanswer =>
    obtain ⟨hon, hfiles⟩ := on_of_answer (addition?_of_call? hcall image before.files) hanswer
    rw [hfiles]
    exact ⟨hon, .refl before.files⟩
  | @drawn source labels series middle _ _ hcontent hlabels hload hplot himage =>
    obtain ⟨hdeck, hstays⟩ := stays_of_plot hplot
    obtain ⟨hon, hfiles⟩ := on_of_answer rfl himage
    rw [hdeck] at hon
    rw [hfiles]
    refine ⟨?_, hstays⟩
    simp only [Stage.addition, hcontent]
    exact hon

/-! ## Whole runs -/

/-- A slide whose content was rendered is added to the deck, and takes no folder away. -/
theorem renderContent_eq_ok {image : File.Path} {slide : Slide}
    (h : renderContent (presentationBackend size) image slide before = (.ok (), after)) :
    (Stage.mk slide image after.files).addition.on before.backend = .ok after.backend ∧
      Stays before.files after.files := by
  obtain ⟨calls, result, last, hrun, hmakes⟩ :=
    exists_slideRun (presentationBackend size) image slide before
  obtain ⟨rfl, rfl⟩ := Prod.mk.inj (hmakes.1.symm.trans h)
  exact hrun.on_eq_ok

/-- What has happened when one action after another has succeeded. -/
theorem exists_of_bind_act {σ α β : Type} {action : Act σ α} {next : α → Act σ β}
    {before after : Session σ} {value : β} (h : (action >>= next) before = (.ok value, after)) :
    ∃ found middle, action before = (.ok found, middle) ∧ next found middle = (.ok value, after) := by
  match haction : action before with
  | (.error error, middle) =>
    rw [bind_of_error haction] at h
    exact nomatch (Prod.mk.inj h).1
  | (.ok found, middle) =>
    rw [bind_of_ok haction] at h
    exact ⟨found, middle, rfl, h⟩

/-- Replacing errors changes nothing about a success. -/
theorem mapError_eq_ok {σ α : Type} {f : Error → Error} {action : Act σ α} {before after : Session σ}
    {value : α} (h : mapError f action before = (.ok value, after)) : action before = (.ok value, after) := by
  rw [mapError] at h
  split at h
  · cases (Prod.mk.inj h).1
  · exact h

/-- The slides that a run has rendered are additions to the deck, by induction on the slides. -/
theorem renderFrom_eq_ok {image : Nat → File.Path} {index : Nat} {slides : List Slide}
    (h : renderFrom (presentationBackend size) image index slides before = (.ok (), after))
    {record : Record} (hdeck : record.deck = before.backend) :
    ∃ made, record.addAll ((stagesFrom (presentationBackend size) image index slides before).map
        Stage.addition) = ⟨after.backend, record.made ++ made⟩ ∧
      List.Forall₂ (fun m stage => m.addition = stage.addition ∧
        ∃ next, stage.addition.on m.before = .ok next) made
        (stagesFrom (presentationBackend size) image index slides before) ∧
      Stays before.files after.files := by
  induction slides generalizing index before record with
  | nil =>
    obtain rfl := (Prod.mk.inj h).2
    refine ⟨[], ?_, .nil, .refl before.files⟩
    rw [List.append_nil, ← hdeck]
    rfl
  | cons slide rest ih =>
    obtain ⟨_, middle, hslide, hrest⟩ := exists_of_bind_act h
    have hcontent := mapError_eq_ok hslide
    obtain ⟨hon, hstays⟩ := renderContent_eq_ok hcontent
    -- the slide is added as the record adds it, and the rest goes on from there
    have hadd : record.add (Stage.mk slide (image index) middle.files).addition
        = ⟨middle.backend, record.made ++
          [⟨(Stage.mk slide (image index) middle.files).addition, before.backend⟩]⟩ := by
      rw [Record.add, hdeck, hon]
    have hmiddle : (record.add (Stage.mk slide (image index) middle.files).addition).deck
        = middle.backend := by rw [hadd]
    obtain ⟨made, hmade, hstages, hlater⟩ := ih hrest hmiddle
    rw [stagesFrom, hcontent]
    refine ⟨⟨(Stage.mk slide (image index) middle.files).addition, before.backend⟩ :: made, ?_,
      .cons ⟨rfl, _, hon⟩ hstages, hstays.trans hlater⟩
    rw [hadd, List.append_assoc] at hmade
    rw [List.map_cons, Record.addAll, List.foldl_cons, hadd]
    exact hmade

end SlideDeck.Render
