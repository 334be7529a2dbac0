import SlideDeck.Proofs.Presentation.Addition
import SlideDeck.Proofs.Render.Trace

/-!
# Additions step by step

A call that adds a slide changes a deck in several steps: it stores up to two media with their types, then
the slide and its relationships, and then lists the slide with its number. `stepwise` is the back end that
takes these steps one by one. What a step has changed stays changed when a later one fails, and the
stand-in for a vector image comes from an encoder, which may fail too.

With the encoder of the library this is the back end for presentations (`stepwise_pngStandIn`). Whatever
the encoder, a call that fails has changed nothing (`eq_of_stepwise_error`): it fails before the first
change, since the layout that is looked up again behind the media is still there (`storePicture_eq`). A
closed deck refuses all calls (`stepwise_of_finalized`).
-/

namespace SlideDeck.Deck

open Render (Act Backend Call Session bind_of_ok bind_of_error)

namespace Stepwise

/-! ## Steps -/

/-- A look at the deck, which may fail. -/
def look {α : Type} (view : Deck → Except Error α) : Act Deck α := fun session =>
  (view session.backend, session)

/-- A change of the deck. -/
def change (update : Deck → Deck) : Act Deck Unit := fun session =>
  (.ok (), { session with backend := update session.backend })

/-- Stores a media part after its type, and gives its name. -/
def storeMedia (format : Picture.Format) (contents : File.Contents) : Act Deck String := do
  let part ← look fun deck => .ok (deck.package.nextPartName
    (PartName.inFolderOf deck.presentation "media/image") format.extension)
  change fun deck =>
    { deck with mediaTypes := Ascending.insert format.extension format.contentType deck.mediaTypes }
  change fun deck => { deck with package := deck.package.insert part contents }
  pure part

/-- Stores a slide with its relationships to other parts, and lists it. -/
def storeSlide (layout : Layout) (shapes : List Slide.Shape) (links : List Relationship) :
    Act Deck Unit := do
  let layoutPart ← look (·.layoutOf layout)
  let part ← look fun deck => .ok (deck.package.nextPartName
    (PartName.inFolderOf deck.presentation "slides/slide") "xml")
  let references := .internal "rId1" Relationship.slideLayout layoutPart :: links
  let relationships := references.map fun r => { r with target := PartName.relative part r.target }
  change fun deck => { deck with package := deck.package.insertText part (Slide.sheet shapes) }
  change fun deck => { deck with
    package := deck.package.insertText (PartName.relationshipsPart part)
      (Relationship.listXml relationships) }
  let id ← look fun deck => .ok (nextRelationshipId deck.relationships)
  change fun deck => { deck with
    relationships := deck.relationships ++
      [.internal id Relationship.slide (PartName.relative deck.presentation part)] }
  change fun deck => { deck with added := deck.added ++ [⟨part, id, deck.nextId.toNat⟩] }
  change fun deck => { deck with nextId := deck.nextId + 1 }

/-! ## Calls -/

/-- How the stand-in for a picture is made. -/
abbrev Encoder := Picture → Except Error File.Contents

/-- The encoder of the library, which never fails. -/
def pngStandIn : Encoder := fun picture => .ok (Picture.standIn picture.pixels)

/-- The stand-in for a vector image; other pictures need none. -/
def standIn? (encode : Encoder) (picture : Picture) : Except Error (Option File.Contents) :=
  match picture.format with
  | .svg => (encode picture).map some
  | _ => .ok none

/-- A picture, or the error that there is none. -/
def loadPicture (path : File.Path) (files : File.Tree) : Except Error Picture :=
  match Picture.load files path with
  | .ok picture => .ok picture
  | .error fault => .error (.backend (.picture fault))

def addTitle (layout : Layout) (title subtitle : String) : Act Deck Unit := do
  look (·.checkOpen)
  storeSlide layout [.title true title, .subtitle subtitle] []

def addText (layout : Layout) (title body : String) : Act Deck Unit := do
  look (·.checkOpen)
  let area ← look fun deck => .ok deck.contentFrame
  storeSlide layout [.title false title, .textBox area body] []

def addList (layout : Layout) (title : String) (levels : List UInt32) (texts : List String) :
    Act Deck Unit := do
  look (·.checkOpen)
  if levels.length ≠ texts.length then
    look fun _ => .error (.invalidArgument (.listLengths levels.length texts.length))
  storeSlide layout
    [.title false title, .list ((levels.zip texts).map fun (level, text) => ⟨level, text⟩)] []

/-- Stores a picture with its stand-in, and the slide that shows it. -/
def storePicture (layout : Layout) (shapes : List Slide.Shape) (picture : Picture)
    (standIn : Option File.Contents) : Act Deck Unit := do
  let part ← storeMedia picture.format picture.contents
  match standIn with
  | some contents =>
    let png ← storeMedia .png contents
    storeSlide layout shapes
      [.internal "rId2" Relationship.image png, .internal "rId3" Relationship.image part]
  | none => storeSlide layout shapes [.internal "rId2" Relationship.image part]

def addImage (encode : Encoder) (layout : Layout) (title : String) (path : File.Path) :
    Act Deck Unit := do
  look (·.checkOpen)
  let _ ← look (·.layoutOf layout)
  let picture ← Render.fromFiles (loadPicture path)
  let standIn ← look fun _ => standIn? encode picture
  let area ← look fun deck => .ok deck.contentFrame
  storePicture layout [.title false title, pictureShape area path picture] picture standIn

end Stepwise

open Stepwise in
/-- The back end that builds a presentation in steps. -/
def stepwise (encode : Stepwise.Encoder) (size : Chart.Size) : Render.Backend Deck
  | .plot xs ys legend output => Render.onFiles (Chart.plot size xs ys legend output)
  | .addTitle layout title subtitle => Stepwise.addTitle layout title subtitle
  | .addText layout title body => Stepwise.addText layout title body
  | .addList layout title levels texts => Stepwise.addList layout title levels texts
  | .addImage layout title image => Stepwise.addImage encode layout title image
  | .finalize output => fun session =>
    let (result, deck, files) := session.backend.finalize session.files output
    (result, ⟨deck, files⟩)

namespace Stepwise

/-! ## What the steps come to -/

/-- What a call on a deck comes to: a failure leaves the session as it is. -/
def settle (session : Session Deck) : Except Error Deck → Except Error Unit × Session Deck
  | .ok deck => (.ok (), { session with backend := deck })
  | .error error => (.error error, session)

/-- A result that is an error leaves everything as it was. -/
theorem eq_of_settle_error {session after : Session Deck} {result : Except Error Deck} {error : Error}
    (h : settle session result = (.error error, after)) : after = session := by
  cases result with
  | ok deck => cases h
  | error fault => exact (Prod.mk.inj h).2.symm

/-- The media of a picture with its stand-in, and the relationships to them. -/
def addPictureWith (deck : Deck) (picture : Picture) (standIn : Option File.Contents) :
    List Relationship × Deck :=
  let (part, deck) := deck.addMedia picture.format picture.contents
  match standIn with
  | some contents =>
    let (png, deck) := deck.addMedia .png contents
    ([.internal "rId2" Relationship.image png, .internal "rId3" Relationship.image part], deck)
  | none => ([.internal "rId2" Relationship.image part], deck)

/-- The deck with a slide of a picture, all that may fail coming first. -/
def addImageWith (encode : Encoder) (deck : Deck) (files : File.Tree) (layout : Layout)
    (title : String) (path : File.Path) : Except Error Deck := do
  deck.checkOpen
  let layoutPart ← deck.layoutOf layout
  let picture ← loadPicture path files
  let standIn ← standIn? encode picture
  let (links, stocked) := addPictureWith deck picture standIn
  pure (stocked.push layoutPart [.title false title, pictureShape deck.contentFrame path picture] links)

/-- With the stand-ins of the library, images are added as decks add them. -/
theorem addImageWith_pngStandIn (deck : Deck) (files : File.Tree) (layout : Layout) (title : String)
    (path : File.Path) :
    addImageWith pngStandIn deck files layout title path = deck.addImage files layout title path := by
  rw [addImageWith, Deck.addImage, loadPicture]
  cases deck.checkOpen with
  | error error => rfl
  | ok _ =>
    cases deck.layoutOf layout with
    | error error => rfl
    | ok part =>
      cases Picture.load files path with
      | error fault => rfl
      | ok picture =>
        rcases picture with ⟨_ | _ | _ | _ | _, _, _⟩ <;> rfl

/-- Adding shapes can fail only for the layout. -/
theorem addShapes_eq_map (deck : Deck) (layout : Layout) (shapes : List Slide.Shape) :
    deck.addShapes layout shapes = (deck.layoutOf layout).map (deck.push · shapes []) := by
  rw [addShapes]
  cases deck.layoutOf layout <;> rfl

section Steps

variable (session : Session Deck)

/-- A look at the deck fails or goes on with what is seen, and changes nothing. -/
theorem look_bind {α : Type} (view : Deck → Except Error α) (next : α → Act Deck Unit) :
    (look view >>= next) session = match view session.backend with
      | .ok value => next value session
      | .error error => (.error error, session) := by
  cases hview : view session.backend with
  | ok value => exact bind_of_ok (by rw [look, hview])
  | error error => exact bind_of_error (by rw [look, hview])

/-- Storing an image cannot fail. -/
theorem storeMedia_eq (format : Picture.Format) (contents : File.Contents) :
    storeMedia format contents session = (.ok (session.backend.addMedia format contents).1,
      { session with backend := (session.backend.addMedia format contents).2 }) := rfl

/-- Storing a slide can fail only for the layout. -/
theorem storeSlide_eq (layout : Layout) (shapes : List Slide.Shape) (links : List Relationship) :
    storeSlide layout shapes links session
      = settle session ((session.backend.layoutOf layout).map (session.backend.push · shapes links)) := by
  rw [storeSlide, look_bind]
  cases session.backend.layoutOf layout <;> rfl

/-- Without links, storing a slide is adding its shapes. -/
theorem storeSlide_eq_addShapes (layout : Layout) (shapes : List Slide.Shape) :
    storeSlide layout shapes [] session = settle session (session.backend.addShapes layout shapes) := by
  rw [storeSlide_eq, addShapes_eq_map]

/-- The layout is looked up again behind the media, and is still there. -/
theorem storePicture_eq {layout : Layout} {part : String}
    (h : session.backend.layoutOf layout = .ok part) (shapes : List Slide.Shape) (picture : Picture)
    (standIn : Option File.Contents) :
    storePicture layout shapes picture standIn session
      = settle session (.ok ((addPictureWith session.backend picture standIn).2.push part shapes
          (addPictureWith session.backend picture standIn).1)) := by
  rw [storePicture]
  refine (bind_of_ok (storeMedia_eq ..)).trans ?_
  cases standIn with
  | none =>
    refine (storeSlide_eq ..).trans ?_
    have hagain : (session.backend.addMedia picture.format picture.contents).2.layoutOf layout
        = .ok part := h
    rw [hagain]
    rfl
  | some contents =>
    refine (bind_of_ok (storeMedia_eq ..)).trans ((storeSlide_eq ..).trans ?_)
    have hagain : ((session.backend.addMedia picture.format picture.contents).2.addMedia .png
        contents).2.layoutOf layout = .ok part := h
    rw [hagain]
    rfl

/-- The steps of adding a title slide amount to what the deck does at once. -/
theorem addTitle_eq (layout : Layout) (title subtitle : String) :
    addTitle layout title subtitle session
      = settle session (session.backend.addTitle layout title subtitle) := by
  rw [addTitle, look_bind, Deck.addTitle]
  cases session.backend.checkOpen with
  | error error => rfl
  | ok _ => exact storeSlide_eq_addShapes ..

/-- So do those of adding text. -/
theorem addText_eq (layout : Layout) (title body : String) :
    addText layout title body session = settle session (session.backend.addText layout title body) := by
  rw [addText, look_bind, Deck.addText]
  cases session.backend.checkOpen with
  | error error => rfl
  | ok _ =>
    simp only [ok_bind]
    rw [look_bind]
    exact storeSlide_eq_addShapes ..

/-- So do those of adding a list, which may fail for its lengths. -/
theorem addList_eq (layout : Layout) (title : String) (levels : List UInt32) (texts : List String) :
    addList layout title levels texts session
      = settle session (session.backend.addList layout title levels texts) := by
  rw [addList, look_bind, Deck.addList]
  cases session.backend.checkOpen with
  | error error => rfl
  | ok _ =>
    by_cases hlengths : levels.length ≠ texts.length
    · simp only [if_pos hlengths]
      rfl
    · simp only [if_neg hlengths]
      exact storeSlide_eq_addShapes ..

/-- So do those of adding an image, which may fail for the picture. -/
theorem addImage_eq (encode : Encoder) (layout : Layout) (title : String) (path : File.Path) :
    addImage encode layout title path session
      = settle session (addImageWith encode session.backend session.files layout title path) := by
  rw [addImage, look_bind, addImageWith]
  cases session.backend.checkOpen with
  | error error => rfl
  | ok _ =>
    simp only [ok_bind]
    rw [look_bind]
    cases hlayout : session.backend.layoutOf layout with
    | error error => rfl
    | ok part =>
      simp only [ok_bind]
      cases hload : loadPicture path session.files with
      | error error => exact bind_of_error (by rw [Render.fromFiles, hload])
      | ok picture =>
        have hloaded : Render.fromFiles (loadPicture path) session = (.ok picture, session) := by
          rw [Render.fromFiles, hload]
        refine (bind_of_ok hloaded).trans ?_
        rw [ok_bind, look_bind]
        cases standIn? encode picture with
        | error error => rfl
        | ok standIn =>
          simp only [ok_bind]
          rw [look_bind]
          exact storePicture_eq _ hlayout ..

end Steps

/-- Whether a call adds a slide. -/
def adds : Call → Bool
  | .plot .. | .finalize _ => false
  | .addTitle .. | .addText .. | .addList .. | .addImage .. => true

/-- Whether a call is one on the deck. -/
def usesDeck : Call → Bool
  | .plot .. => false
  | .addTitle .. | .addText .. | .addList .. | .addImage .. | .finalize _ => true

section Calls

variable (encode : Encoder) (size : Chart.Size)

/-- With the stand-ins of the library, the steps answer calls as the back end does. -/
theorem stepwise_pngStandIn : stepwise pngStandIn size = Render.presentationBackend size := by
  funext call session
  cases call with
  | plot xs ys legend output => rfl
  | addTitle layout title subtitle =>
    refine (addTitle_eq session layout title subtitle).trans ?_
    rw [Render.presentationBackend]
    cases session.backend.addTitle layout title subtitle <;> rfl
  | addText layout title body =>
    refine (addText_eq session layout title body).trans ?_
    rw [Render.presentationBackend]
    cases session.backend.addText layout title body <;> rfl
  | addList layout title levels texts =>
    refine (addList_eq session layout title levels texts).trans ?_
    rw [Render.presentationBackend]
    cases session.backend.addList layout title levels texts <;> rfl
  | addImage layout title image =>
    refine (addImage_eq session pngStandIn layout title image).trans ?_
    rw [addImageWith_pngStandIn, Render.presentationBackend]
    cases session.backend.addImage session.files layout title image <;> rfl
  | finalize output => rfl

/-- A call that adds a slide is an attempt at another deck. -/
theorem exists_stepwise_eq_settle {call : Call} (h : adds call = true) (session : Session Deck) :
    ∃ result, stepwise encode size call session = settle session result := by
  cases call with
  | plot xs ys legend output => cases h
  | addTitle layout title subtitle => exact ⟨_, addTitle_eq ..⟩
  | addText layout title body => exact ⟨_, addText_eq ..⟩
  | addList layout title levels texts => exact ⟨_, addList_eq ..⟩
  | addImage layout title image => exact ⟨_, addImage_eq ..⟩
  | finalize output => cases h

/-- A call to add a slide that fails has changed nothing. -/
theorem eq_of_stepwise_error {call : Call} (h : adds call = true) {session after : Session Deck}
    {error : Error} (herror : stepwise encode size call session = (.error error, after)) :
    after = session := by
  obtain ⟨result, hresult⟩ := exists_stepwise_eq_settle encode size h session
  exact eq_of_settle_error (hresult.symm.trans herror)

/-- A closed deck refuses all calls. -/
theorem stepwise_of_finalized {call : Call} (h : usesDeck call = true) {session : Session Deck}
    (hclosed : session.backend.finalized = true) :
    stepwise encode size call session = (.error (.invalidArgument .finalized), session) := by
  have hcheck : session.backend.checkOpen = .error (.invalidArgument .finalized) := by
    rw [checkOpen, if_pos hclosed]
  cases call with
  | plot xs ys legend output => cases h
  | addTitle layout title subtitle =>
    rw [stepwise, addTitle, look_bind, hcheck]
  | addText layout title body =>
    rw [stepwise, addText, look_bind, hcheck]
  | addList layout title levels texts =>
    rw [stepwise, addList, look_bind, hcheck]
  | addImage layout title image =>
    rw [stepwise, addImage, look_bind, hcheck]
  | finalize output =>
    simp only [stepwise, Deck.finalize, hcheck]

end Calls

/-! ## Runs -/

/-- A call, with the files at the time it is made. -/
abbrev Occasion := Call × File.Tree

section Runs

variable (encode : Encoder) (size : Chart.Size)

/-- The deck that a call leaves, whether it succeeds or not. -/
def leave (deck : Deck) (occasion : Occasion) : Deck :=
  (stepwise encode size occasion.1 ⟨deck, occasion.2⟩).2.backend

def leaveAll (deck : Deck) (occasions : List Occasion) : Deck := occasions.foldl (leave encode size) deck

/-- Whether a call succeeds on a deck. -/
def succeeds (deck : Deck) (occasion : Occasion) : Bool :=
  (stepwise encode size occasion.1 ⟨deck, occasion.2⟩).1.isOk

/-- The calls without those that fail when all of them are made in turn. -/
def succeeding : Deck → List Occasion → List Occasion
  | _, [] => []
  | deck, occasion :: rest =>
    if succeeds encode size deck occasion then
      occasion :: succeeding (leave encode size deck occasion) rest
    else succeeding (leave encode size deck occasion) rest

/-- So an occasion at which it fails leaves the deck as it was. -/
theorem leave_of_not_succeeds {deck : Deck} {occasion : Occasion} (hadds : adds occasion.1 = true)
    (h : succeeds encode size deck occasion = false) : leave encode size deck occasion = deck := by
  rw [succeeds] at h
  rw [leave]
  cases hcall : stepwise encode size occasion.1 ⟨deck, occasion.2⟩ with
  | mk result after =>
    rw [hcall] at h
    cases result with
    | ok _ => cases h
    | error error => rw [eq_of_stepwise_error encode size hadds hcall]

/-- Calls that fail can be left out: the others go as before and lead to the same deck. -/
theorem leaveAll_succeeding {occasions : List Occasion} (hadds : ∀ o ∈ occasions, adds o.1 = true)
    (deck : Deck) :
    leaveAll encode size deck (succeeding encode size deck occasions)
        = leaveAll encode size deck occasions ∧
      succeeding encode size deck (succeeding encode size deck occasions)
        = succeeding encode size deck occasions := by
  induction occasions generalizing deck with
  | nil => exact ⟨rfl, rfl⟩
  | cons occasion rest ih =>
    obtain ⟨hfirst, hrest⟩ := List.forall_mem_cons.1 hadds
    obtain ⟨hdeck, hagain⟩ := ih hrest (leave encode size deck occasion)
    cases hsucceeds : succeeds encode size deck occasion with
    | true =>
      rw [succeeding, if_pos hsucceeds]
      refine ⟨hdeck, ?_⟩
      rw [succeeding, if_pos hsucceeds, hagain]
    | false =>
      have hsame := leave_of_not_succeeds encode size hfirst hsucceeds
      have hskip : succeeding encode size deck (occasion :: rest) = succeeding encode size deck rest := by
        rw [succeeding, if_neg (Bool.eq_false_iff.1 hsucceeds), hsame]
      rw [hsame] at hdeck hagain
      refine ⟨?_, ?_⟩
      · rw [hskip, hdeck, leaveAll, leaveAll, List.foldl_cons, hsame]
      · rw [hskip, hagain]

end Runs

end Stepwise

/-- Finishing a deck closes it, whatever comes of it. -/
theorem finalized_finalize (deck : Deck) (files : File.Tree) (output : File.Path) :
    (deck.finalize files output).2.1.finalized = true := by
  unfold finalize
  split
  · next hclosed =>
    rw [checkOpen] at hclosed
    split at hclosed
    · next h => exact h
    · cases hclosed
  · dsimp only
    split
    · rfl
    · split
      · rfl
      · split <;> rfl

open Stepwise in
/-- Taken step by step, with any encoder for stand-ins, a call that adds a slide and fails leaves deck and
files as they were, so that such calls can be left out of a run. A call to finish the deck closes it,
whatever comes of it, and a closed deck refuses all calls and stays with the files as it is. -/
theorem stepwise_atomic (encode : Encoder) (size : Chart.Size) :
    stepwise pngStandIn size = Render.presentationBackend size ∧
    (∀ call session error after, adds call = true →
      stepwise encode size call session = (.error error, after) → after = session) ∧
    (∀ deck occasions, (∀ occasion ∈ occasions, adds occasion.1 = true) →
      succeeding encode size deck (succeeding encode size deck occasions)
        = succeeding encode size deck occasions ∧
      ∀ output files,
        stepwise encode size (.finalize output)
            ⟨leaveAll encode size deck (succeeding encode size deck occasions), files⟩
          = stepwise encode size (.finalize output) ⟨leaveAll encode size deck occasions, files⟩) ∧
    (∀ output session, (stepwise encode size (.finalize output) session).2.backend.finalized = true) ∧
    (∀ call session, usesDeck call = true → session.backend.finalized = true →
      stepwise encode size call session = (.error (.invalidArgument .finalized), session)) := by
  refine ⟨stepwise_pngStandIn size, ?_, ?_, ?_, ?_⟩
  · intro call session error after hadds herror
    exact eq_of_stepwise_error encode size hadds herror
  · intro deck occasions hadds
    obtain ⟨hdeck, hagain⟩ := leaveAll_succeeding encode size hadds deck
    exact ⟨hagain, fun output files => by rw [hdeck]⟩
  · exact fun output session => finalized_finalize ..
  · exact fun call session huses hclosed => stepwise_of_finalized encode size huses hclosed

open Stepwise in
/-- A list with more levels than texts is not added, and a slide added behind it is numbered as if it had
not been asked for. -/
theorem stepwise_atomic_lengths : ∃ (session after : Session Deck) (error : Error),
    let costs : Call := .addList .title "Costs" [0, 1] ["Rent"]
    let report : Call := .addTitle .title "Report" "2024"
    let closed := (stepwise pngStandIn .standard (.finalize ⟨"deck.odp"⟩) session).2
    adds costs = true ∧ stepwise pngStandIn .standard costs session = (.error error, after) ∧
      after = session ∧
      stepwise pngStandIn .standard (.finalize ⟨"deck.pptx"⟩)
          ⟨leaveAll pngStandIn .standard session.backend [(report, session.files)], session.files⟩
        = stepwise pngStandIn .standard (.finalize ⟨"deck.pptx"⟩)
          ⟨leaveAll pngStandIn .standard session.backend [(costs, session.files), (report, session.files)],
            session.files⟩ ∧
      stepwise pngStandIn .standard report closed
        = (.error (.invalidArgument .finalized), closed) := by
  obtain ⟨-, hfails, hskips, hcloses, hrefuses⟩ := stepwise_atomic pngStandIn .standard
  let session : Session Deck := ⟨⟨.empty, "ppt/presentation.xml", ["ppt/slideLayouts/slideLayout1.xml"],
    standardSize, [], [], minId, [], false⟩, ⟨[], [], ⟨"/tmp"⟩, {}⟩⟩
  let costs : Call := .addList .title "Costs" [0, 1] ["Rent"]
  let report : Call := .addTitle .title "Report" "2024"
  have hcosts : stepwise pngStandIn .standard costs session
      = (.error (.invalidArgument (.listLengths 2 1)), session) := rfl
  have hkept : succeeding pngStandIn .standard session.backend
      [(costs, session.files), (report, session.files)] = [(report, session.files)] := rfl
  have hsame := (hskips session.backend [(costs, session.files), (report, session.files)]
    (by simp [adds, costs, report])).2 ⟨"deck.pptx"⟩ session.files
  rw [hkept] at hsame
  exact ⟨session, session, _, rfl, hcosts, hfails _ _ _ _ rfl hcosts, hsame,
    hrefuses _ _ rfl (hcloses _ _)⟩

end SlideDeck.Deck
