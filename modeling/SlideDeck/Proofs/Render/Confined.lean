import SlideDeck.Proofs.File.Changes
import SlideDeck.Proofs.Presentation.Finalize
import SlideDeck.Proofs.Render.Stages

/-!
# What a run leaves behind

A run that builds a presentation changes what is at the place of its output if it succeeds. Other than
that it makes at most folders on the way to the folder for the images of plots, and images in it for plots
up to the first slide that fails (`changes_of_render`). Without such a folder nothing else is changed.
-/

namespace SlideDeck.Render

open File.Tree (Stays Changes IsNewFolder IsPlaceOf)

variable {size : Chart.Size} {before after : Session Deck} {files last : File.Tree}
  {address : File.Address}

/-! ## Images -/

/-- Whether a chart has been drawn at an address that the path of an image leads to. -/
structure IsDrawn (image : File.Path) (files : File.Tree) (address : File.Address) : Prop where
  place : IsPlaceOf image files address
  node?_eq : ∃ drawing, files.node? address = some (.file (.chart drawing))

/-- A chart is there as long as nothing is changed at its address. -/
theorem IsDrawn.mono {image : File.Path} (h : IsDrawn image files address) (hstays : Stays files last)
    (hsame : last.node? address = files.node? address) : IsDrawn image last address :=
  ⟨h.place.mono hstays, h.node?_eq.imp fun _ hnode => hsame.trans hnode⟩

/-- Plotting into a file draws a chart there, or changes nothing. -/
theorem changes_of_plot {xs ys : List Float} {legend : Chart.Legend} {output : File.Path}
    {result : Except Error Unit} (h : Chart.plot size xs ys legend output files = (result, last)) :
    Changes (IsDrawn output last) files last := by
  rw [Chart.plot] at h
  split at h
  · obtain rfl := (Prod.mk.inj h).2
    exact .refl _ files
  · next drawing hdrawing =>
    dsimp only at h
    split at h
    · next written hpublish =>
      obtain rfl := (Prod.mk.inj h).2
      obtain ⟨target, hplace, hnode, hchanges⟩ := File.Tree.changes_of_publish hpublish
      refine hchanges.mono ?_
      rintro _ rfl
      exact ⟨hplace, drawing, hnode⟩
    · next cause same hpublish =>
      obtain rfl := (Prod.mk.inj h).2
      exact (File.Tree.changes_of_publish_error hpublish).mono fun _ hfalse => hfalse.elim

/-! ## Slides -/

/-- A call that adds a slide leaves the files as they are, whether it succeeds or not. -/
theorem files_of_answer {call : Call} {a : Deck.Addition} {result : Except Error Unit}
    (hcall : call.addition? before.files = some a)
    (h : presentationBackend size call before = (result, after)) : after.files = before.files := by
  rw [answer_eq hcall] at h
  rw [← (Prod.mk.inj h).2]
  cases a.on before.backend <;> rfl

/-- A call to plot changes nothing but its image. -/
theorem changes_of_plot_call {xs ys : List Float} {legend : Chart.Legend} {image : File.Path}
    {result : Except Error Unit}
    (h : presentationBackend size (.plot xs ys legend image) before = (result, after)) :
    Changes (IsDrawn image after.files) before.files after.files :=
  changes_of_plot (plot_of_answer h).1

/-- A slide with a plot is one of that kind. -/
theorem kind_of_content {slide : Slide} {source : File.Path} {labels : AxisLabels}
    (h : slide.content = .plot source labels) : slide.kind = .plot := by
  rw [Slide.kind, h]
  rfl

/-- A slide changes nothing but the image of its plot. -/
theorem SlideRun.changes {image : File.Path} {slide : Slide} {calls : List Call}
    {result : Except Error Unit}
    (h : SlideRun (presentationBackend size) image slide before calls result after) :
    Changes (fun address => slide.kind = .plot ∧ IsDrawn image after.files address) before.files
      after.files := by
  cases h with
  | single hcall hanswer =>
    rw [files_of_answer (addition?_of_call? hcall image before.files) hanswer]
    exact .refl _ _
  | blankX | blankY | unread => exact .refl _ _
  | undrawn hcontent hlabels hload hplot =>
    exact (changes_of_plot_call hplot).mono fun _ hdrawn => ⟨kind_of_content hcontent, hdrawn⟩
  | drawn hcontent hlabels hload hplot himage =>
    rw [files_of_answer rfl himage]
    exact (changes_of_plot_call hplot).mono fun _ hdrawn => ⟨kind_of_content hcontent, hdrawn⟩

/-- Whether a plot has been drawn at an address, the first of the slides having the given index. -/
def IsPlotDrawn (image : Nat → File.Path) (index : Nat) (slides : List Slide) (files : File.Tree)
    (address : File.Address) : Prop :=
  ∃ i slide, slides[i]? = some slide ∧ slide.kind = .plot ∧ IsDrawn (image (index + i)) files address

/-- Slides that succeed change nothing but the images of their plots, by induction on the slides. -/
theorem Completed.changes {image : Nat → File.Path} {index : Nat} {slides : List Slide}
    {calls : List Call} (h : Completed (presentationBackend size) image index slides before calls after) :
    Changes (IsPlotDrawn image index slides after.files) before.files after.files := by
  induction h with
  | nil => exact .refl _ _
  | cons hslide hrest ih =>
    -- what the first slide has drawn is there at the end unless a later one has drawn it again
    refine hslide.changes.trans ih ?_ ?_
    · rintro found ⟨hplot, hdrawn⟩ hsame
      exact ⟨0, _, rfl, hplot, hdrawn.mono ih.stays hsame⟩
    · rintro found ⟨i, slide, hslide, hplot, hdrawn⟩
      refine ⟨i + 1, slide, hslide, hplot, ?_⟩
      rwa [Nat.add_right_comm] at hdrawn

/-! ## The last call -/

/-- A deck that cannot be written changes nothing. -/
theorem changes_of_finalize_error {deck closed : Deck} {output : File.Path} {error : Error}
    (h : deck.finalize files output = (.error error, closed, last)) :
    Changes (fun _ => False) files last := by
  -- the deck is closed, its name is wrong, its package does not take the slides, or the file is not written
  unfold Deck.finalize at h
  split at h
  · obtain rfl := (Prod.mk.inj (Prod.mk.inj h).2).2
    exact .refl _ _
  · dsimp only at h
    split at h
    · obtain rfl := (Prod.mk.inj (Prod.mk.inj h).2).2
      exact .refl _ _
    · split at h
      · obtain rfl := (Prod.mk.inj (Prod.mk.inj h).2).2
        exact .refl _ _
      · split at h
        · exact nomatch (Prod.mk.inj h).1
        · next hpublish =>
          obtain rfl := (Prod.mk.inj (Prod.mk.inj h).2).2
          exact File.Tree.changes_of_publish_error hpublish

/-- The last call changes what is at the place of the output if it succeeds, and else nothing. -/
theorem changes_of_finalize {output : File.Path} {answer : Except Error Unit}
    (h : presentationBackend size (.finalize output) before = (answer, after)) :
    Changes (fun address => answer = .ok () ∧ IsPlaceOf output after.files address) before.files
      after.files := by
  have hfinal := finalize_of_answer h
  match answer, hfinal with
  | .ok (), hfinal =>
    obtain ⟨package, -, hpublish, -⟩ := Deck.finalize_eq_ok hfinal
    obtain ⟨target, hplace, -, hchanges⟩ := File.Tree.changes_of_publish hpublish
    refine hchanges.mono ?_
    rintro _ rfl
    exact ⟨rfl, hplace⟩
  | .error error, hfinal =>
    exact (changes_of_finalize_error hfinal).mono fun _ hfalse => hfalse.elim

/-! ## Runs -/

/-- Whether the output keeps clear of the folder for temporary images, if there is one: there was a way to
the output before, or what is drawn for the name of the folder is no name on that way. -/
def IsScratchApart (options : Options) (files : File.Tree) : Prop :=
  options.chartFolder = none → (∃ place, files.place options.output = .ok place) ∨
    ∀ folder name, files.freshAddress files.temporary "slidegen-charts-" "" = .ok (folder ++ [name]) →
      name ∉ files.current ∧ name ∉ options.output.names

/-- Whether an address is where the output has been written. -/
def IsWritten (options : Options) (result : Except Error Unit) (before : File.Tree)
    (address : File.Address) : Prop :=
  result = .ok () ∧ File.Tree.target? before.current options.output = some address

/-- Whether an address is that of the image of a plot in a folder, for a plot up to the first slide that
fails. -/
def IsImage (options : Options) (folder : File.Path) (slides : List Slide) (result : Except Error Unit)
    (after : File.Tree) (address : File.Address) : Prop :=
  ∃ i slide, slides[i]? = some slide ∧ slide.kind = .plot ∧
    (∀ index kind error, result = .error (.render index kind error) → i ≤ index) ∧
    IsDrawn (imagePath folder options.chartFormat i) after address

/-- What a run may change, given its result and the files before and after it. -/
inductive MayChange (options : Options) (slides : List Slide) (result : Except Error Unit)
    (before after : File.Tree) (address : File.Address) : Prop
  | output (hwritten : IsWritten options result before address)
  | folder {folder : File.Path} (hfolder : options.chartFolder = some folder)
      (hnew : IsNewFolder folder.ancestors before after address)
  | image {folder : File.Path} (hfolder : options.chartFolder = some folder)
      (himage : IsImage options folder slides result after address)

/-- The name of an image is one name. -/
theorem not_mem_imageName (format : Chart.Format) (index : Nat) :
    '/' ∉ ("plot-" ++ threeDigits index ++ "." ++ format.extension).toList ∧
      "plot-" ++ threeDigits index ++ "." ++ format.extension ≠ "" := by
  have hdigits : '/' ∉ (threeDigits index).toList := by
    rw [threeDigits, String.toList_ofList, List.mem_append, not_or]
    refine ⟨fun hzero => ?_, fun hdigit => ?_⟩
    · exact absurd (List.mem_replicate.1 hzero).2 (by decide)
    · exact absurd (Number.isDigit_of_mem_toString hdigit) (by decide)
  have hextension : '/' ∉ format.extension.toList := by cases format <;> decide
  constructor
  · simp only [String.toList_append, List.mem_append, not_or]
    exact ⟨⟨⟨by decide, hdigits⟩, by decide⟩, hextension⟩
  · intro hempty
    have hplot := (String.append_eq_empty_iff.1 (String.append_eq_empty_iff.1
      (String.append_eq_empty_iff.1 hempty).1).1).1
    exact absurd hplot (by decide)

section Runs

variable {options : Options} {slides : List Slide} {folder : File.Path} {calls : List Call}

/-- Slides up to one that fails. -/
theorem changes_of_slideFails {earlier rest : List Slide} {slide : Slide} {more : List Call}
    {middle : Session Deck} {error : Error} (hslides : slides = earlier ++ slide :: rest)
    (hearlier : Completed (presentationBackend size) (imagePath folder options.chartFormat) 0 earlier
      before calls middle)
    (hslide : SlideRun (presentationBackend size) (imagePath folder options.chartFormat earlier.length)
      slide middle more (.error error) after) :
    Changes (IsImage options folder slides (.error (.render earlier.length slide.kind.name error))
      after.files) before.files after.files := by
  -- the index in the error is that of the failing slide
  have hindex : ∀ {i : Nat}, i ≤ earlier.length → ∀ index kind fault,
      (.error (.render earlier.length slide.kind.name error) : Except Error Unit)
        = .error (.render index kind fault) → i ≤ index := by
    intro i hi index kind fault heq
    obtain ⟨rfl, -, -⟩ := Error.render.inj (Except.error.inj heq)
    exact hi
  subst hslides
  refine hearlier.changes.trans hslide.changes ?_ ?_
  · rintro found ⟨i, drawn, hmem, hplot, hdrawn⟩ hsame
    obtain ⟨hi, -⟩ := List.getElem?_eq_some_iff.1 hmem
    rw [Nat.zero_add] at hdrawn
    refine ⟨i, drawn, ?_, hplot, hindex (Nat.le_of_lt hi), hdrawn.mono hslide.changes.stays hsame⟩
    rw [List.getElem?_append_left hi, hmem]
  · rintro found ⟨hplot, hdrawn⟩
    refine ⟨earlier.length, slide, ?_, hplot, hindex (Nat.le_refl _), hdrawn⟩
    rw [List.getElem?_append_right (Nat.le_refl _), Nat.sub_self]
    rfl

/-- Slides that succeed, and the last call. -/
theorem changes_of_finalized {middle : Session Deck} {answer result : Except Error Unit}
    (hslides : Completed (presentationBackend size) (imagePath folder options.chartFormat) 0 slides before
      calls middle)
    (hfinal : presentationBackend size (.finalize options.output) middle = (answer, after))
    (hresult : Finished options.output answer result) :
    Changes (fun address => IsWritten options result before.files address ∨
      IsImage options folder slides result after.files address) before.files after.files := by
  have hlast := changes_of_finalize hfinal
  have hcurrent := (hslides.changes.stays.trans hlast.stays).current_eq
  refine hslides.changes.trans hlast ?_ ?_
  · rintro found ⟨i, slide, hmem, hplot, hdrawn⟩ hsame
    rw [Nat.zero_add] at hdrawn
    refine .inr ⟨i, slide, hmem, hplot, fun index kind error heq => ?_, hdrawn.mono hlast.stays hsame⟩
    subst heq
    cases hresult
  · rintro found ⟨rfl, hplace⟩
    cases hresult
    exact .inl ⟨rfl, hcurrent ▸ hplace.target?_eq⟩

/-- What was changed in the folder for the images of plots, once the run is over. -/
theorem Workplace.changes {started : File.Tree} {leave : File.Tree → File.Tree}
    {result : Except Error Unit} (hplace : Workplace options slides files folder started leave)
    (h : Changes (fun address => IsWritten options result started address ∨
      IsImage options folder slides result last address) started last) :
    Changes (MayChange options slides result files (leave last)) files (leave last) := by
  have hwritten : ∀ {before : File.Tree} {address : File.Address}, before.current = files.current →
      IsWritten options result before address → IsWritten options result files address :=
    fun hcurrent hwritten => ⟨hwritten.1, hcurrent ▸ hwritten.2⟩
  cases hplace with
  | chosen hfolder hmade =>
    have hfolders := File.Tree.changes_of_makeFolders hmade
    refine hfolders.trans h ?_ ?_
    · exact fun _ hnew _ => .folder hfolder (hnew.mono (List.Subset.refl _) h.stays)
    · exact fun _ hchanged =>
        hchanged.elim (fun houtput => .output (hwritten hfolders.stays.current_eq houtput)) (.image hfolder)
  | unneeded hfolder hplots =>
    refine h.mono fun _ hchanged => hchanged.elim .output ?_
    rintro ⟨i, slide, hslide, hplot, -⟩
    exact absurd hplot (hplots slide (List.mem_of_getElem? hslide))
  | scratch hfolder hplot hmade =>
    have hslash : '/' ∉ "slidegen-charts-".toList := by decide
    have hstarted := File.Tree.stays_makeScratch hmade
    refine File.Tree.changes_removeFolder hmade h ?_
    rintro found (houtput | ⟨i, slide, -, -, -, hdrawn⟩)
    · exact .inr (.output (hwritten hstarted.current_eq houtput))
    · -- images are in the folder that goes
      obtain ⟨parent, name, himage, rfl⟩ := hdrawn.place
      have hparent := File.Tree.folder_of_place_child hslash (by decide : _ = some 's') (by decide) hmade
        (hstarted.trans h.stays) (not_mem_imageName options.chartFormat i) himage
      exact .inl (List.isPrefixOf_iff_prefix.2 (hparent ▸ List.prefix_append _ _))

/-- What was written as the output is read there once the run is over. -/
theorem Workplace.read_of_publish {started middle written : File.Tree} {leave : File.Tree → File.Tree}
    (hplace : Workplace options slides files folder started leave)
    (hapart : IsScratchApart options files) (hstays : Stays started middle) {start ending : String}
    {contents : File.Contents}
    (hpublish : middle.publish options.output start ending contents = (.ok (), written)) :
    (leave written).read options.output = .ok contents := by
  cases hplace with
  | chosen | unneeded => exact File.Tree.read_of_publish hpublish
  | scratch hfolder hplot hmade =>
    rcases hapart hfolder with ⟨place, hthere⟩ | hother
    · exact File.Tree.read_removeFolder hmade hstays hpublish hthere
    · have hkept := ((File.Tree.stays_makeScratch hmade).trans hstays).trans
        (File.Tree.stays_publish hpublish)
      have hfresh := File.Tree.freshAddress_of_makeScratch hmade
      obtain ⟨parent, drawn, -, -, -, rfl, -⟩ :=
        File.Tree.exists_of_makeScratch (by decide : '/' ∉ "slidegen-charts-".toList) (by decide) hmade
      obtain ⟨hcurrent, hnames⟩ := hother _ _ hfresh
      rw [← hkept.current_eq] at hcurrent
      exact File.Tree.read_removeFolder_of_not_mem hpublish hcurrent hnames

/-- Of what can be drawn for the name of the folder, all but finitely many keep it apart from the output. -/
theorem exists_isScratchApart (options : Options) (files : File.Tree) :
    ∃ unlucky : List String, ∀ letters : File.Letters, letters.text ∉ unlucky →
      IsScratchApart options (files.drawing letters) := by
  -- the name is to be none of those on the way to the output, and none that is taken
  let names := files.current ++ options.output.names ++ files.nodes.flatMap (·.1)
  refine ⟨names.map fun name => String.ofList (name.toList.drop "slidegen-charts-".toList.length),
    fun letters hletters _ => .inr fun folder name hfresh => ?_⟩
  have hname : "slidegen-charts-" ++ letters.text ++ "" ∉ names := by
    intro hmem
    refine hletters (List.mem_map.2 ⟨_, hmem, ?_⟩)
    rw [String.append_empty, String.toList_append, List.drop_left, String.ofList_toList]
  have htaken : ∀ entry ∈ files.nodes, "slidegen-charts-" ++ letters.text ++ "" ∉ entry.1 :=
    fun entry hentry hmem => hname (List.mem_append_right _ (List.mem_flatMap.2 ⟨entry, hentry, hmem⟩))
  obtain ⟨place, -, hplaced⟩ := exists_of_bind_eq_ok hfresh
  have hfolder := Except.ok.inj hplaced
  rw [File.Tree.freshName_drawing htaken] at hfolder
  obtain rfl := List.singleton_inj.1 (List.append_inj' hfolder rfl).2
  exact ⟨fun hmem => hname (List.mem_append_left _ (List.mem_append_left _ hmem)),
    fun hmem => hname (List.mem_append_left _ (List.mem_append_right _ hmem))⟩

/-- A run changes what it may change and nothing else, however it ends. -/
theorem Prescribed.changes {result : Except Error Unit}
    (h : Prescribed (presentationBackend size) options slides before calls result after) :
    Changes (MayChange options slides result before.files after.files) before.files after.files := by
  cases h with
  | noWorkplace hplace =>
    cases hplace with
    | chosen hfolder hmade =>
      exact (File.Tree.changes_of_makeFolders hmade).mono fun _ hnew => .folder hfolder hnew
    | scratch => exact .refl _ _
  | slideFails hplace hslides hearlier hslide =>
    exact hplace.changes
      ((changes_of_slideFails hslides hearlier hslide).mono fun _ himage => .inr himage)
  | finalized hplace hslides hfinal hresult =>
    exact hplace.changes (changes_of_finalized hslides hfinal hresult)

/-- Whatever a run results in, it changes nothing but its output, folders on the way to the folder for
the images of plots, and images in it. -/
theorem changes_of_render {result : Except Error Unit}
    (h : render (presentationBackend size) options slides before = (result, after)) :
    Changes (MayChange options slides result before.files after.files) before.files after.files := by
  obtain ⟨calls, found, last, hprescribed, -, hmakes⟩ :=
    makes_prescribed (presentationBackend size) options slides before
  obtain ⟨rfl, rfl⟩ := Prod.mk.inj (hmakes.1.symm.trans h)
  exact hprescribed.changes

/-! ## The output of a run that fails -/

/-- The name of an image ends in a g, whatever its format. -/
theorem getLast?_imageName (format : Chart.Format) (index : Nat) :
    ("plot-" ++ threeDigits index ++ "." ++ format.extension).toList.getLast? = some 'g' := by
  rw [String.toList_append, List.getLast?_append]
  cases format <;> rfl

/-- The last segment of a path that is not empty is a dot, or names the file. -/
theorem head?_dropWhile_isVoid (segments : List (List Char)) :
    ∀ segment, (segments.filter (· ≠ [])).head? = some segment →
      segment = ['.'] ∨ (segments.dropWhile File.Path.isVoid).head? = some segment := by
  induction segments with
  | nil => exact fun _ h => nomatch h
  | cons first segments ih =>
    intro segment h
    by_cases hempty : first = []
    · subst hempty
      exact ih segment h
    · rw [List.filter_cons_of_pos (by simpa using hempty)] at h
      obtain rfl := Option.some.inj h
      by_cases hdot : first = ['.']
      · exact .inl hdot
      · refine .inr ?_
        rw [List.dropWhile_cons_of_neg (by simp [File.Path.isVoid, hempty, hdot])]
        rfl

/-- The extension of a path is that of the last of its segments that says something. -/
theorem extension?_of_ascending {path : File.Path} {name : List Char} {above : List (List Char)}
    (h : path.ascending = name :: above) :
    path.extension? = if name = ['.', '.'] then none else File.Path.extensionOf name := by
  rw [File.Path.extension?, File.Path.fileName?, h]
  dsimp only
  split <;> rfl

/-- The extension of a name ends as the name does. -/
theorem getLast?_of_extensionOf {name extension : List Char} {c : Char}
    (h : File.Path.extensionOf name = some extension) (hc : name.getLast? = some c) (hdot : c ≠ '.') :
    extension.getLast? = some c := by
  rw [File.Path.extensionOf] at h
  split at h
  · cases h
  · obtain rfl := Option.some.inj h
    obtain ⟨before, rfl⟩ := List.getLast?_eq_some_iff.1 hc
    rw [List.reverse_append, List.reverse_singleton, List.singleton_append,
      List.takeWhile_cons_of_pos (by simpa using hdot), List.reverse_cons, List.getLast?_concat]

/-- The last name of a path of a presentation is not that of an image. -/
theorem getLast?_of_isPptx {output : File.Path} (h : Deck.isPptx output = true) {name : String}
    (hname : output.names.getLast? = some name) : name.toList.getLast? ≠ some 'g' := by
  rw [File.Path.names, List.getLast?_map, Option.map_eq_some_iff] at hname
  obtain ⟨segment, hsegment, rfl⟩ := hname
  rw [List.getLast?_eq_head?_reverse, ← List.filter_reverse] at hsegment
  rw [String.toList_ofList]
  rcases head?_dropWhile_isVoid _ segment hsegment with rfl | hfirst
  · decide
  · obtain ⟨above, habove⟩ := List.head?_eq_some_iff.1 hfirst
    rw [Deck.isPptx, extension?_of_ascending habove, beq_iff_eq, Option.map_eq_some_iff] at h
    obtain ⟨extension, hextension, hlower⟩ := h
    intro hlast
    split at hextension
    · cases hextension
    · -- in lowercase the extension would end in a g and in an x
      have hend := getLast?_of_extensionOf hextension hlast (by decide)
      have hlowerEnd : (extension.map Char.toLower).getLast? = some 'x' := by
        rw [hlower]
        rfl
      rw [List.getLast?_map, hend] at hlowerEnd
      exact absurd hlowerEnd (by decide)

/-- Of a run that fails, no file is left where its output would be. -/
theorem MayChange.eq_of_output {result : Except Error Unit} {files : File.Tree}
    (h : MayChange options slides result files last address) (hresult : result ≠ .ok ())
    (hpptx : Deck.isPptx options.output = true)
    (htarget : File.Tree.target? files.current options.output = some address) :
    files.node? address = none ∧ last.node? address = some .folder := by
  obtain ⟨name, hname, haddress⟩ := Option.map_eq_some_iff.1 htarget
  cases h with
  | output hwritten => exact absurd hwritten.1 hresult
  | folder hfolder hnew =>
    obtain ⟨hnone, path, -, hfind⟩ := hnew
    obtain ⟨found, -, hthere, -⟩ := File.Tree.find_eq_folder hfind
    exact ⟨hnone, File.Tree.isFolderAt_eq_true.1 hthere⟩
  | image hfolder himage =>
    obtain ⟨i, slide, -, -, -, hplace, -⟩ := himage
    obtain ⟨hslash, hne⟩ := not_mem_imageName options.chartFormat i
    have hfile := (haddress.symm ▸ hplace).name_eq
    rw [imagePath, File.Path.names_child _ hslash hne, List.getLast?_concat] at hfile
    -- the name of an image ends in a g, that of a presentation does not
    refine absurd ?_ (getLast?_of_isPptx hpptx hname)
    rw [← Option.some.inj hfile]
    exact getLast?_imageName options.chartFormat i

end Runs

end SlideDeck.Render
