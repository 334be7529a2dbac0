import SlideDeck.Proofs.Xml.Replacement

/-!
# Places in the text of documents

A tag that is found in the text of a document by a search may stand between two pieces of the document, or
within a comment, a section of character data or a document type. `settles` says that there
is nothing else if no tag of the document has a `<` in it, and that what stands in its place counts in the
first case only.
-/

namespace SlideDeck.Xml

/-! ## Texts made of tags -/

/-- Whether a text is a tag without `<` and `>` in it that does not end as markup of another kind does. -/
def IsTag (text : List Char) : Prop :=
  ∃ inside last, text = '<' :: (inside ++ [last, '>']) ∧ '<' ∉ inside ∧ '>' ∉ inside ∧
    last ∉ ['<', '>', '-', ']', '?']

/-- Whether a text is made of such tags, one or more. -/
inductive IsTagged : List Char → Prop where
  | single {text : List Char} (h : IsTag text) : IsTagged text
  | cons {text rest : List Char} (h : IsTag text) (hrest : IsTagged rest) : IsTagged (text ++ rest)

/-- A tag begins with an angle. -/
theorem IsTag.exists_eq_cons {text : List Char} (h : IsTag text) : ∃ rest, text = '<' :: rest := by
  obtain ⟨inside, last, rfl, -⟩ := h
  exact ⟨_, rfl⟩

/-- So does a text made of tags. -/
theorem IsTagged.exists_eq_cons {text : List Char} (h : IsTagged text) : ∃ rest, text = '<' :: rest := by
  cases h with
  | single h => exact h.exists_eq_cons
  | cons h hrest =>
    obtain ⟨first, rfl⟩ := h.exists_eq_cons
    exact ⟨_, rfl⟩

/-! ## Readers that stop at an ending -/

/-- What a reader takes of a text, behind what it has taken before. -/
def readOn (taken : List Char) (result : Option (List Char × List Char)) :
    Option (List Char × List Char) :=
  result.map fun (a, b) => (taken ++ a, b)

/-- Text read in two steps is read in one. -/
theorem readOn_readOn (first second : List Char) (result : Option (List Char × List Char)) :
    readOn first (readOn second result) = readOn (first ++ second) result := by
  cases result <;> simp [readOn]

/-- What was read is the text in front and what was read behind it. -/
theorem readOn_eq_some_iff {taken content rest : List Char} {result : Option (List Char × List Char)} :
    readOn taken result = some (content, rest) ↔
      ∃ more, result = some (more, rest) ∧ content = taken ++ more := by
  cases result with
  | none => simp [readOn]
  | some found =>
    obtain ⟨a, b⟩ := found
    simp only [readOn, Option.map_some, Option.some.injEq, Prod.mk.injEq]
    grind

/-- Whether a reader of a text stops at an ending in it, whatever is behind that. -/
def StopsAt (ending : List Char) (read : List Char → Option (List Char × List Char)) (text : List Char) :
    Prop :=
  ∀ content rest, read text = some (content, rest) → text = content ++ (ending ++ rest) ∧
    ∀ other, read (content ++ (ending ++ other)) = some (content, other)

/-- A character that is read on does not change where the reading stops. -/
theorem StopsAt.cons {ending text : List Char} {c : Char}
    {read next : List Char → Option (List Char × List Char)}
    (hread : ∀ text, read (c :: text) = readOn [c] (next text)) (h : StopsAt ending next text) :
    StopsAt ending read (c :: text) := by
  intro content rest hsome
  rw [hread] at hsome
  obtain ⟨more, hnext, rfl⟩ := readOn_eq_some_iff.1 hsome
  obtain ⟨htext, hother⟩ := h more rest hnext
  exact ⟨by rw [htext]; rfl, fun other => (hread _).trans (readOn_eq_some_iff.2 ⟨_, hother other, rfl⟩)⟩

/-- A tag is read on behind a character that does not end it. -/
theorem takeTag_cons {quote : Option Char} {c : Char} (h : quote = none → c ≠ '>') :
    ∃ next, ∀ text, takeTag quote (c :: text) = readOn [c] (takeTag next text) := by
  cases quote with
  | some q => exact ⟨_, fun text => rfl⟩
  | none => exact ⟨if c = '"' ∨ c = '\'' then some c else none, fun text => by
      rw [takeTag, if_neg (h rfl)]
      rfl⟩

/-- An opening angle is read on, one deeper. -/
theorem takeBalanced_open (depth : Nat) (text : List Char) :
    takeBalanced depth ('<' :: text) = readOn ['<'] (takeBalanced (depth + 1) text) := by
  rw [takeBalanced, if_pos rfl]
  rfl

/-- A closing angle is read on, one less deep, unless it is the last. -/
theorem takeBalanced_close (depth : Nat) (text : List Char) :
    takeBalanced (depth + 1) ('>' :: text) = readOn ['>'] (takeBalanced depth text) := by
  rw [takeBalanced, if_neg (by decide), if_pos rfl, if_neg (Nat.succ_ne_zero depth), Nat.add_sub_cancel]
  rfl

/-- Every other character is read on at the same depth. -/
theorem takeBalanced_other {c : Char} (hopen : c ≠ '<') (hclose : c ≠ '>') (depth : Nat)
    (text : List Char) : takeBalanced depth (c :: text) = readOn [c] (takeBalanced depth text) := by
  rw [takeBalanced, if_neg hopen, if_neg hclose]
  rfl

/-- So a character that is not the last is read on at some depth. -/
theorem takeBalanced_cons {depth : Nat} {c : Char} (h : depth = 0 → c ≠ '>') :
    ∃ next, ∀ text, takeBalanced depth (c :: text) = readOn [c] (takeBalanced next text) := by
  by_cases hopen : c = '<'
  · exact ⟨depth + 1, hopen ▸ takeBalanced_open depth⟩
  by_cases hclose : c = '>'
  · match depth, h with
    | 0, h => exact absurd hclose (h rfl)
    | depth + 1, _ => exact ⟨depth, hclose ▸ takeBalanced_close depth⟩
  · exact ⟨depth, takeBalanced_other hopen hclose depth⟩

/-- Reading a tag stops at its closing angle. -/
theorem stopsAt_takeTag (quote : Option Char) (text : List Char) :
    StopsAt ['>'] (takeTag quote) text := by
  induction text generalizing quote with
  | nil => intro content rest h; cases h
  | cons c text ih =>
    by_cases hends : quote = none ∧ c = '>'
    · obtain ⟨rfl, rfl⟩ := hends
      intro content rest h
      obtain ⟨rfl, rfl⟩ := Prod.mk.inj (Option.some.inj h)
      exact ⟨rfl, fun other => rfl⟩
    · obtain ⟨next, hread⟩ := takeTag_cons (c := c) fun hquote hc => hends ⟨hquote, hc⟩
      exact .cons hread (ih next)

/-- Reading to a balanced angle stops at it. -/
theorem stopsAt_takeBalanced (depth : Nat) (text : List Char) :
    StopsAt ['>'] (takeBalanced depth) text := by
  induction text generalizing depth with
  | nil => intro content rest h; cases h
  | cons c text ih =>
    by_cases hends : depth = 0 ∧ c = '>'
    · obtain ⟨rfl, rfl⟩ := hends
      intro content rest h
      obtain ⟨rfl, rfl⟩ := Prod.mk.inj (Option.some.inj h)
      exact ⟨rfl, fun other => rfl⟩
    · obtain ⟨next, hread⟩ := takeBalanced_cons (c := c) fun hdepth hc => hends ⟨hdepth, hc⟩
      exact .cons hread (ih next)

/-- Searching a pattern stops at it. -/
theorem stopsAt_cutFirst {pattern : List Char} (hne : pattern ≠ []) (text : List Char) :
    StopsAt pattern (Text.cutFirst pattern) text := by
  intro content rest h
  have htext : text = content ++ (pattern ++ rest) := by
    rw [Text.eq_of_cutFirst h, List.append_assoc]
  refine ⟨htext, fun other => Text.cutFirst_found hne ?_⟩
  subst htext
  exact Text.passes_of_cutFirst h other

/-! ## Readers that go past tags -/

/-- Whether a reader that goes past tags at a place of a text goes past all others there, too. -/
def GoesPast (read : List Char → Option (List Char × List Char)) (before old after : List Char) : Prop :=
  ∀ inside rest, read (before ++ (old ++ after)) = some (before ++ '<' :: inside, rest) →
    ∃ more, '<' :: inside = old ++ more ∧
      ∀ new, IsTagged new → read (before ++ (new ++ after)) = some (before ++ (new ++ more), rest)

section GoesPast

variable {read next : List Char → Option (List Char × List Char)} {before old after : List Char}

/-- So it does where it goes on behind tags as if they were not there. -/
theorem goesPast_nil
    (hread : ∀ tagged, IsTagged tagged → read (tagged ++ after) = readOn tagged (read after))
    (hold : IsTagged old) : GoesPast read [] old after := by
  intro inside rest h
  rw [List.nil_append, List.nil_append, hread old hold] at h
  obtain ⟨more, hmore, hinside⟩ := readOn_eq_some_iff.1 h
  refine ⟨more, hinside, fun new hnew => ?_⟩
  rw [List.nil_append, List.nil_append, hread new hnew]
  exact readOn_eq_some_iff.2 ⟨more, hmore, rfl⟩

/-- A reader that reads a character on goes past what the reader behind it goes past. -/
theorem GoesPast.cons {c : Char}
    (hread : ∀ tagged, IsTagged tagged →
      read (c :: before ++ (tagged ++ after)) = readOn [c] (next (before ++ (tagged ++ after))))
    (hold : IsTagged old) (h : GoesPast next before old after) : GoesPast read (c :: before) old after := by
  intro inside rest hsome
  rw [hread old hold] at hsome
  obtain ⟨more, hnext, heq⟩ := readOn_eq_some_iff.1 hsome
  obtain ⟨-, rfl⟩ := List.cons.inj heq
  obtain ⟨more, hmore, hother⟩ := h inside rest hnext
  refine ⟨more, hmore, fun new hnew => ?_⟩
  rw [hread new hnew]
  exact readOn_eq_some_iff.2 ⟨_, hother new hnew, rfl⟩

end GoesPast

/-! ### Document types -/

/-- Text without angles is read on at the same depth. -/
theorem takeBalanced_inside {inside : List Char} (hopen : '<' ∉ inside) (hclose : '>' ∉ inside)
    (depth : Nat) (after : List Char) :
    takeBalanced depth (inside ++ after) = readOn inside (takeBalanced depth after) := by
  induction inside with
  | nil => simp [readOn]
  | cons c inside ih =>
    rw [List.mem_cons, not_or] at hopen hclose
    rw [List.cons_append, takeBalanced_other (Ne.symm hopen.1) (Ne.symm hclose.1), ih hopen.2 hclose.2]
    exact readOn_readOn [c] inside _

/-- A tag is read on and leaves the depth as it was. -/
theorem takeBalanced_tag {text : List Char} (h : IsTag text) (depth : Nat) (after : List Char) :
    takeBalanced depth (text ++ after) = readOn text (takeBalanced depth after) := by
  obtain ⟨inside, last, rfl, hopen, hclose, hlast⟩ := h
  simp only [List.mem_cons, not_or] at hlast
  have hchars : ('<' :: (inside ++ [last, '>'])) ++ after = '<' :: (inside ++ last :: '>' :: after) := by simp
  rw [hchars, takeBalanced_open, takeBalanced_inside hopen hclose, takeBalanced_other hlast.1 hlast.2.1,
    takeBalanced_close]
  simp only [readOn_readOn, List.cons_append, List.nil_append]

/-- So is a text made of tags. -/
theorem takeBalanced_tagged {tagged : List Char} (h : IsTagged tagged) (depth : Nat) (after : List Char) :
    takeBalanced depth (tagged ++ after) = readOn tagged (takeBalanced depth after) := by
  induction h with
  | single h => exact takeBalanced_tag h depth after
  | cons h _ ih => rw [List.append_assoc, takeBalanced_tag h, ih, readOn_readOn]

/-- Reading to a balanced angle goes past other tags as it goes past these. -/
theorem goesPast_takeBalanced (depth : Nat) (before : List Char) {old : List Char} (hold : IsTagged old)
    (after : List Char) : GoesPast (takeBalanced depth) before old after := by
  induction before generalizing depth with
  | nil => exact goesPast_nil (fun tagged h => takeBalanced_tagged h depth after) hold
  | cons c before ih =>
    by_cases hends : depth = 0 ∧ c = '>'
    · -- the reader stops before the place
      obtain ⟨rfl, rfl⟩ := hends
      intro inside rest h
      cases h
    · obtain ⟨next, hread⟩ := takeBalanced_cons (c := c) fun hdepth hc => hends ⟨hdepth, hc⟩
      exact .cons (fun tagged _ => hread _) hold (ih next)

/-! ### Comments and sections of character data -/

/-- The end of a comment, or of a section of character data, by the character that stands in it twice. -/
def twice (c : Char) : List Char := [c, c, '>']

/-- The end of a comment or of character data is not found inside a tag. -/
theorem passes_inside {c last : Char} {inside : List Char} (hclose : '>' ∉ inside) (hc : c ≠ '>')
    (hlast : c ≠ last) (hangle : last ≠ '>') (after : List Char) :
    Text.Passes (twice c) (inside ++ [last, '>']) after := by
  induction inside with
  | nil => exact ⟨by simp [twice, Text.dropStart?, hlast], by simp [twice, Text.dropStart?, hc], trivial⟩
  | cons d inside ih =>
    rw [List.mem_cons, not_or] at hclose
    refine ⟨?_, ih hclose.2⟩
    cases hstart : Text.dropStart? (twice c) (d :: (inside ++ [last, '>']) ++ after) with
    | none => rfl
    | some rest =>
      -- what starts here has its third character before the `>` of the tag
      have heq := Text.dropStart?_eq_some_iff.1 hstart
      rcases inside with _ | ⟨e, _ | ⟨f, inside⟩⟩
      · simp [twice, Ne.symm hlast] at heq
      · simp [twice, hangle] at heq
      · simp only [twice, List.cons_append, List.cons.injEq] at heq
        exact absurd (heq.2.2.1 ▸ by simp) hclose.2

/-- The search goes past a tag. -/
theorem passes_tag {c : Char} (hc : c ∈ ['-', ']']) {text : List Char} (h : IsTag text)
    (after : List Char) : Text.Passes (twice c) text after := by
  obtain ⟨inside, last, rfl, -, hclose, hlast⟩ := h
  have hne : c ≠ '<' ∧ c ≠ '>' ∧ c ≠ last := by
    simp only [List.mem_cons, List.not_mem_nil, or_false, not_or] at hc hlast
    obtain ⟨-, -, hdash, hbracket, -⟩ := hlast
    rcases hc with rfl | rfl
    · exact ⟨by decide, by decide, Ne.symm hdash⟩
    · exact ⟨by decide, by decide, Ne.symm hbracket⟩
  have hangle : last ≠ '>' := fun heq => hlast (by simp [heq])
  exact ⟨by simp [twice, Text.dropStart?, hne.1], passes_inside hclose hne.2.1 hne.2.2 hangle after⟩

/-- So it goes past a text made of tags. -/
theorem cutFirst_tagged {c : Char} (hc : c ∈ ['-', ']']) {tagged : List Char} (h : IsTagged tagged)
    (after : List Char) :
    Text.cutFirst (twice c) (tagged ++ after) = readOn tagged (Text.cutFirst (twice c) after) := by
  induction h with
  | single h => exact Text.cutFirst_append (passes_tag hc h after)
  | cons h _ ih =>
    rw [List.append_assoc, Text.cutFirst_append (passes_tag hc h _), ih]
    exact readOn_readOn _ _ _

/-- A pattern without `<` that starts in front of one ends in front of it. -/
theorem dropStart?_eq_none_of_angle {pattern before first : List Char} (hpattern : '<' ∉ pattern)
    (h : Text.dropStart? pattern (before ++ '<' :: first) = none) (second : List Char) :
    Text.dropStart? pattern (before ++ '<' :: second) = none := by
  induction pattern generalizing before with
  | nil => cases h
  | cons p pattern ih =>
    rw [List.mem_cons, not_or] at hpattern
    cases before with
    | nil => rw [List.nil_append, Text.dropStart?, if_neg (Ne.symm hpattern.1)]
    | cons c before =>
      rw [List.cons_append, Text.dropStart?] at h ⊢
      split
      · next hpc =>
        rw [if_pos hpc] at h
        exact ih hpattern.2 h
      · rfl

/-- So does searching the end of a comment or of character data. -/
theorem goesPast_cutFirst {c : Char} (hc : c ∈ ['-', ']']) (before : List Char) {old : List Char}
    (hold : IsTagged old) (after : List Char) : GoesPast (Text.cutFirst (twice c)) before old after := by
  induction before with
  | nil => exact goesPast_nil (fun tagged h => cutFirst_tagged hc h after) hold
  | cons d before ih =>
    obtain ⟨first, hfirst⟩ := hold.exists_eq_cons
    cases hstart : Text.dropStart? (twice c) (d :: before ++ (old ++ after)) with
    | some rest =>
      -- the ending starts before the place
      intro inside rest' h
      rw [List.cons_append, Text.cutFirst, ← List.cons_append, hstart] at h
      cases h
    | none =>
      refine .cons (fun tagged htagged => ?_) hold ih
      obtain ⟨second, hsecond⟩ := htagged.exists_eq_cons
      have hangle : '<' ∉ twice c := by
        simp only [List.mem_cons, List.not_mem_nil, or_false] at hc
        rcases hc with rfl | rfl <;> decide
      have hplace : Text.dropStart? (twice c) (d :: before ++ '<' :: (first ++ after)) = none := by
        rw [← hstart, hfirst]
        rfl
      have hnone := dropStart?_eq_none_of_angle hangle hplace (second ++ after)
      rw [List.cons_append] at hnone
      rw [List.cons_append, Text.cutFirst, hsecond, List.cons_append, hnone]
      rfl

/-! ## Markup and places -/

/-- What ends with an ending without `<` ends before a place where a tag starts, or goes on behind it. -/
theorem place_of_eq {before content ending rest behind : List Char} (hending : '<' ∉ ending)
    (h : before ++ '<' :: behind = content ++ (ending ++ rest)) :
    (∃ between, before = content ++ (ending ++ between) ∧ rest = between ++ '<' :: behind) ∨
      ∃ inside, content = before ++ '<' :: inside := by
  rw [← List.append_assoc] at h
  rcases List.append_eq_append_iff.1 h with ⟨inside, hcontent, hbehind⟩ | ⟨between, hbefore, hrest⟩
  · match inside, hbehind with
    | [], hbehind =>
      exact .inl ⟨[], by rw [List.append_nil, hcontent, List.append_nil], hbehind.symm⟩
    | c :: inside, hbehind =>
      obtain ⟨rfl, -⟩ := List.cons.inj hbehind
      rcases List.append_eq_append_iff.1 hcontent with ⟨found, -, hfound⟩ | ⟨found, hcontent, hfound⟩
      · exact absurd (hfound ▸ by simp) hending
      · match found, hfound with
        | [], hfound =>
          rw [List.nil_append] at hfound
          exact absurd (hfound ▸ List.mem_cons_self) hending
        | d :: found, hfound => exact .inr ⟨found, by rw [hcontent, (List.cons.inj hfound).1]⟩
  · exact .inl ⟨between, by rw [hbefore, List.append_assoc], hrest⟩

section Place

variable {before old after : List Char}

/-- A reader that stops at an ending stops before a place where a tag starts, or goes on behind it. -/
theorem StopsAt.place {read : List Char → Option (List Char × List Char)} {ending content rest : List Char}
    (hstop : StopsAt ending read (before ++ (old ++ after))) (hending : '<' ∉ ending) (hold : IsTagged old)
    (h : read (before ++ (old ++ after)) = some (content, rest)) :
    (∃ between, before = content ++ (ending ++ between) ∧ rest = between ++ (old ++ after) ∧
      ∀ other, read (content ++ (ending ++ other)) = some (content, other)) ∨
      ∃ inside, content = before ++ '<' :: inside := by
  obtain ⟨htext, hother⟩ := hstop content rest h
  obtain ⟨first, rfl⟩ := hold.exists_eq_cons
  exact (place_of_eq hending htext).imp_left fun ⟨between, hbefore, hrest⟩ =>
    ⟨between, hbefore, hrest, hother⟩

/-- A word with which a text starts ends before the first `<`. -/
theorem startsWithWord_of_angle {word first : List Char} (hword : '<' ∉ word)
    (h : startsWithWord word (before ++ '<' :: first) = true) :
    word.length ≤ before.length ∧ ∀ other, startsWithWord word (before ++ other) = true := by
  have hlength : word.length ≤ before.length := by
    refine Nat.le_of_not_lt fun hshort => ?_
    obtain ⟨n, hn⟩ : ∃ n, word.length - before.length = n + 1 :=
      ⟨_, (Nat.succ_pred_eq_of_pos (by omega)).symm⟩
    refine hword ?_
    rw [← beq_iff_eq.1 h, List.take_append, hn, List.take_succ_cons]
    simp [show Char.toUpper '<' = '<' by decide]
  refine ⟨hlength, fun other => ?_⟩
  rw [startsWithWord, List.take_append_of_le_length hlength] at h ⊢
  exact h

/-- A character other than an angle stands in front of the tags. -/
theorem exists_eq_cons_of_tagged {c : Char} {text : List Char} (hold : IsTagged old) (hc : c ≠ '<')
    (h : before ++ (old ++ after) = c :: text) :
    ∃ rest, before = c :: rest ∧ text = rest ++ (old ++ after) := by
  obtain ⟨first, rfl⟩ := hold.exists_eq_cons
  cases before with
  | nil => exact absurd (List.cons.inj h).1.symm hc
  | cons d rest =>
    obtain ⟨rfl, rfl⟩ := List.cons.inj h
    exact ⟨rest, rfl, rfl⟩

/-! ### Declarations -/

/-- A comment is skipped to its two hyphens and the angle. -/
theorem skipDeclaration?_comment_iff {text rest : List Char} :
    skipDeclaration? (['-', '-'] ++ text) = some rest ↔
      ∃ content, Text.cutFirst (twice '-') text = some (content, rest) ∧ True := by
  have hskip : skipDeclaration? (['-', '-'] ++ text) = (Text.cutFirst (twice '-') text).map (·.2) := rfl
  rw [hskip]
  simp only [Option.map_eq_some_iff, Prod.exists, exists_eq_right, and_true]

/-- What is found counts only if what was read of it passes a check. -/
theorem bind_check_eq_some_iff (found : Option (List Char × List Char)) (check : List Char → Bool)
    (rest : List Char) :
    (found.bind fun (content, after) => if check content then some after else none) = some rest ↔
      ∃ content, found = some (content, rest) ∧ check content = true := by
  simp only [Option.bind_eq_some_iff, Prod.exists]
  grind

/-- Character data is skipped to its two brackets and the angle. -/
theorem skipDeclaration?_characters_iff {text rest : List Char} :
    skipDeclaration? (['['] ++ text) = some rest ↔
      ∃ content, Text.cutFirst (twice ']') text = some (content, rest) ∧
        startsWithWord "CDATA[".toList content = true :=
  bind_check_eq_some_iff (Text.cutFirst (twice ']') text) (startsWithWord "CDATA[".toList) rest

/-- A document type is skipped to its balanced angle. -/
theorem skipDeclaration?_type_iff {c : Char} (hc : c = 'D' ∨ c = 'd') {text rest : List Char} :
    skipDeclaration? ([c] ++ text) = some rest ↔
      ∃ content, takeBalanced 0 text = some (content, rest) ∧
        startsWithWord "OCTYPE".toList content = true ∧ (content.drop 6).all isSpace = false := by
  have hskip : skipDeclaration? ([c] ++ text) = some rest ↔ ∃ content,
      takeBalanced 0 text = some (content, rest) ∧
        (startsWithWord "OCTYPE".toList content && !(content.drop 6).all isSpace) = true := by
    rcases hc with rfl | rfl <;> exact bind_check_eq_some_iff (takeBalanced 0 text) (fun content =>
      startsWithWord "OCTYPE".toList content && !(content.drop 6).all isSpace) rest
  simp only [hskip, Bool.and_eq_true, Bool.not_eq_true']

/-- Nothing else is skipped as a declaration. -/
theorem skipDeclaration?_eq_some_cases {text rest : List Char} (h : skipDeclaration? text = some rest) :
    (∃ inside, text = '-' :: '-' :: inside) ∨ (∃ inside, text = '[' :: inside) ∨
      ∃ c inside, (c = 'D' ∨ c = 'd') ∧ text = c :: inside := by
  rw [skipDeclaration?.eq_def] at h
  split at h
  · exact .inl ⟨_, rfl⟩
  · exact .inr (.inl ⟨_, rfl⟩)
  · next c inside _ _ =>
    by_cases hc : c = 'D' ∨ c = 'd'
    · exact .inr (.inr ⟨c, inside, hc, rfl⟩)
    · rw [if_neg hc] at h
      cases h
  · cases h

/-- Whether a declaration ends before a place where a tag starts, or goes past all tags there. -/
def Declares (before old after rest : List Char) : Prop :=
  (∃ skipped between, before = skipped ++ between ∧ rest = between ++ (old ++ after) ∧
    ∀ other, skipDeclaration? (skipped ++ other) = some other) ∨
  ∀ new, IsTagged new → skipDeclaration? (before ++ (new ++ after)) = some rest

/-- So it is with declarations of a kind that are read by a reader of this sort, if whether one is accepted
does not depend on the tags in it. -/
theorem declares_of_reader {first ending rest : List Char} {accepted : List Char → Prop}
    {read : List Char → Option (List Char × List Char)}
    (hiff : ∀ text rest, skipDeclaration? (first ++ text) = some rest ↔
      ∃ content, read text = some (content, rest) ∧ accepted content)
    (hstop : ∀ text, StopsAt ending read text) (hending : '<' ∉ ending)
    (hpast : GoesPast read before old after) (hold : IsTagged old)
    (haccepted : ∀ inside, accepted (before ++ '<' :: inside) →
      ∀ new more, IsTagged new → accepted (before ++ (new ++ more)))
    (h : skipDeclaration? (first ++ (before ++ (old ++ after))) = some rest) :
    Declares (first ++ before) old after rest := by
  obtain ⟨content, hread, hcontent⟩ := (hiff _ _).1 h
  rcases (hstop _).place hending hold hread with ⟨between, rfl, rfl, hother⟩ | ⟨inside, rfl⟩
  · refine .inl ⟨first ++ (content ++ ending), between, by simp, rfl, fun other => ?_⟩
    rw [List.append_assoc, List.append_assoc]
    exact (hiff _ _).2 ⟨content, hother other, hcontent⟩
  · obtain ⟨more, -, hother⟩ := hpast inside rest hread
    refine .inr fun new hnew => ?_
    rw [List.append_assoc]
    exact (hiff _ _).2 ⟨_, hother new hnew, haccepted inside hcontent new more hnew⟩

/-- A declaration that is skipped ends in front of the tags or goes past them. -/
theorem skipDeclaration?_place {rest : List Char} (hold : IsTagged old)
    (h : skipDeclaration? (before ++ (old ++ after)) = some rest) : Declares before old after rest := by
  rcases skipDeclaration?_eq_some_cases h with ⟨text, htext⟩ | ⟨text, htext⟩ | ⟨c, text, hc, htext⟩
  · obtain ⟨first, rfl, hfirst⟩ := exists_eq_cons_of_tagged hold (by decide) htext
    obtain ⟨before, rfl, rfl⟩ := exists_eq_cons_of_tagged hold (by decide) hfirst.symm
    exact declares_of_reader (fun _ _ => skipDeclaration?_comment_iff)
      (stopsAt_cutFirst (List.cons_ne_nil _ _)) (by decide) (goesPast_cutFirst (by decide) before hold after)
      hold (fun _ _ _ _ _ => trivial) h
  · obtain ⟨before, rfl, rfl⟩ := exists_eq_cons_of_tagged hold (by decide) htext
    refine declares_of_reader (fun _ _ => skipDeclaration?_characters_iff)
      (stopsAt_cutFirst (List.cons_ne_nil _ _)) (by decide) (goesPast_cutFirst (by decide) before hold after)
      hold (fun inside hword new more _ => ?_) h
    exact (startsWithWord_of_angle (by decide) hword).2 _
  · have hangle : c ≠ '<' := by rcases hc with rfl | rfl <;> decide
    obtain ⟨before, rfl, rfl⟩ := exists_eq_cons_of_tagged hold hangle htext
    refine declares_of_reader (fun _ _ => skipDeclaration?_type_iff hc)
      (stopsAt_takeBalanced 0) (by decide) (goesPast_takeBalanced 0 before hold after) hold
      (fun inside hname new more hnew => ?_) h
    obtain ⟨hlength, hword⟩ := startsWithWord_of_angle (by decide) hname.1
    have hlength : 6 ≤ before.length := hlength
    refine ⟨hword _, ?_⟩
    -- the `<` of the first tag is no blank
    obtain ⟨first, rfl⟩ := hnew.exists_eq_cons
    rw [List.drop_append_of_le_length hlength, List.all_append, List.cons_append, List.all_cons,
      show isSpace '<' = false by decide, Bool.false_and, Bool.and_false]

/-! ### Tags and instructions -/

/-- Reading to an angle stops at the first one. -/
theorem takeAngle_append {content : List Char} (h : '>' ∉ content) (rest : List Char) :
    takeAngle (content ++ '>' :: rest) = (content, rest) := by
  have hcontent : ∀ c ∈ content, (c != '>') = true := fun c hc =>
    bne_iff_ne.2 fun heq => h (heq ▸ hc)
  rw [takeAngle, List.takeWhile_append_of_pos hcontent, List.dropWhile_append_of_pos hcontent]
  simp

/-- The first `>` of a text with tags in it stands before them or at the end of the first of them. -/
theorem takeAngle_place (before after : List Char) (hold : IsTagged old) :
    (∃ content between, before = content ++ '>' :: between ∧ '>' ∉ content) ∨
      ∃ inside last rest, takeAngle (before ++ (old ++ after)) = (before ++ '<' :: (inside ++ [last]), rest) ∧
        last ≠ '?' := by
  by_cases hbefore : '>' ∈ before
  · obtain ⟨content, between, heq, hcontent⟩ := List.eq_append_cons_of_mem hbefore
    exact .inl ⟨content, between, heq, hcontent⟩
  · obtain ⟨text, more, ⟨inside, last, rfl, -, hclose, hlast⟩, htext⟩ :
        ∃ text more, IsTag text ∧ old ++ after = text ++ more := by
      cases hold with
      | single h => exact ⟨old, after, h, rfl⟩
      | cons h hrest => exact ⟨_, _, h, List.append_assoc _ _ _⟩
    simp only [List.mem_cons, not_or] at hlast
    refine .inr ⟨inside, last, more, ?_, hlast.2.2.2.2.1⟩
    have hangle : '>' ∉ before ++ '<' :: (inside ++ [last]) := by
      simp [hbefore, hclose, Ne.symm hlast.2.1]
    rw [htext, ← takeAngle_append hangle more]
    simp

/-- Whether no `<` is in a tag, as in every well-formed document. -/
def Tag.IsStrict : Tag → Prop
  | .opening element => '<' ∉ element.name ∧ '<' ∉ element.rest
  | .empty element => '<' ∉ element.name ∧ '<' ∉ element.rest
  | .closing name => '<' ∉ name

instance : (tag : Tag) → Decidable tag.IsStrict
  | .opening element => inferInstanceAs (Decidable ('<' ∉ element.name ∧ '<' ∉ element.rest))
  | .empty element => inferInstanceAs (Decidable ('<' ∉ element.name ∧ '<' ∉ element.rest))
  | .closing name => inferInstanceAs (Decidable ('<' ∉ name))

/-- A strict tag has no opening angle inside. -/
theorem not_mem_of_isStrict_tagOf {content : List Char} (h : (tagOf content).IsStrict) : '<' ∉ content := by
  -- the name and the rest of a tag are all of it but for a slash at the end
  have hsplit : ∀ text : List Char, '<' ∉ text.takeWhile (!isSpace ·) ∧ '<' ∉ text.dropWhile (!isSpace ·) →
      '<' ∉ text := by
    intro text hparts
    rw [← List.takeWhile_append_dropWhile (p := (!isSpace ·)) (l := text), List.mem_append, not_or]
    exact hparts
  rw [tagOf] at h
  split at h
  · next hslash =>
    obtain ⟨text, rfl⟩ := List.getLast?_eq_some_iff.1 hslash
    rw [List.dropLast_concat] at h
    simpa using hsplit text h
  · exact hsplit content h

/-- Nor has a strict closing tag. -/
theorem not_mem_of_isStrict_closing {content : List Char}
    (h : (Tag.closing (closingName content)).IsStrict) : '<' ∉ content := by
  intro hmem
  -- only blanks are cut off at the end
  have hreverse : '<' ∈ content.reverse.dropWhile isSpace := by
    have hall := List.mem_reverse.2 hmem
    rw [← List.takeWhile_append_dropWhile (p := isSpace) (l := content.reverse), List.mem_append] at hall
    refine hall.resolve_left fun hblank => ?_
    have hspace : isSpace '<' = true := List.all_eq_true.1 List.all_takeWhile _ hblank
    exact absurd hspace (by decide)
  have hname : (content.reverse.dropWhile isSpace).reverse ≠ [] :=
    List.ne_nil_of_mem (List.mem_reverse.2 hreverse)
  refine h ?_
  rw [closingName, if_neg (by simpa using hname)]
  exact List.mem_reverse.2 hreverse

/-- Markup that begins like none of the others is a tag. -/
theorem markup?_of_not_mem {c : Char} (hc : c ∉ ['!', '?', '/']) (text : List Char) :
    markup? (c :: text)
      = (takeTag none (c :: text)).map fun (content, after) => (some (tagOf content), after) := by
  simp only [List.mem_cons, List.not_mem_nil, or_false, not_or] at hc
  rw [markup?]
  · exact fun _ h => hc.1 (List.cons.inj h).1
  · exact fun _ h => hc.2.1 (List.cons.inj h).1
  · exact fun _ h => hc.2.2 (List.cons.inj h).1

/-- An instruction is skipped to the first angle, if a question mark stands in front of it. -/
theorem skipInstruction?_eq (text : List Char) : skipInstruction? text
    = if 2 ≤ (takeAngle text).1.length ∧ (takeAngle text).1.getLast? = some '?' then
        some (takeAngle text).2 else none := rfl

/-- Markup that begins with a slash is a closing tag. -/
theorem markup?_slash (text : List Char) : markup? ('/' :: text)
    = some (some (.closing (closingName (takeAngle text).1)), (takeAngle text).2) := rfl

/-- An instruction ends before a place where a tag starts. -/
theorem skipInstruction?_place {rest : List Char} (hold : IsTagged old)
    (h : skipInstruction? (before ++ (old ++ after)) = some rest) :
    ∃ skipped between, before = skipped ++ between ∧ rest = between ++ (old ++ after) ∧
      ∀ other, skipInstruction? (skipped ++ other) = some other := by
  rcases takeAngle_place before after hold with
    ⟨content, between, rfl, hcontent⟩ | ⟨inside, last, more, hread, hlast⟩
  · rw [List.append_assoc, List.cons_append, skipInstruction?_eq, takeAngle_append hcontent] at h
    split at h
    · next hends =>
      refine ⟨content ++ ['>'], between, by simp, (Option.some.inj h).symm, fun other => ?_⟩
      rw [List.append_assoc, List.singleton_append, skipInstruction?_eq, takeAngle_append hcontent,
        if_pos hends]
    · cases h
  · -- it would end like a tag
    have hgetLast : (before ++ '<' :: (inside ++ [last])).getLast? = some last := by
      rw [← List.cons_append, ← List.append_assoc, List.getLast?_concat]
    rw [skipInstruction?_eq, hread, hgetLast, if_neg fun hends => hlast (Option.some.inj hends.2)] at h
    cases h

/-- An end tag ends before a place where another tag starts. -/
theorem markup?_slash_place {tag : Tag} {rest : List Char} (hold : IsTagged old)
    (h : markup? ('/' :: (before ++ (old ++ after))) = some (some tag, rest)) (hstrict : tag.IsStrict) :
    ∃ skipped between, before = skipped ++ between ∧ rest = between ++ (old ++ after) ∧
      ∀ other, markup? ('/' :: (skipped ++ other)) = some (some tag, other) := by
  rw [markup?_slash] at h
  obtain ⟨htag, rfl⟩ := Prod.mk.inj (Option.some.inj h)
  obtain rfl := Option.some.inj htag
  have hangle := not_mem_of_isStrict_closing hstrict
  rcases takeAngle_place before after hold with
    ⟨content, between, rfl, hcontent⟩ | ⟨inside, last, more, hread, -⟩
  · rw [List.append_assoc, List.cons_append, takeAngle_append hcontent]
    refine ⟨content ++ ['>'], between, by simp, rfl, fun other => ?_⟩
    rw [List.append_assoc, List.singleton_append, markup?_slash, takeAngle_append hcontent]
  · rw [hread] at hangle
    exact absurd (by simp) hangle

/-- A start tag or an empty tag ends before a place where another tag starts. -/
theorem takeTag_place {content rest : List Char} (hold : IsTagged old)
    (h : takeTag none (before ++ (old ++ after)) = some (content, rest))
    (hstrict : (tagOf content).IsStrict) :
    ∃ between, before = content ++ (['>'] ++ between) ∧ rest = between ++ (old ++ after) ∧
      ∀ other, takeTag none (content ++ (['>'] ++ other)) = some (content, other) := by
  refine ((stopsAt_takeTag none _).place (by decide) hold h).resolve_right ?_
  rintro ⟨inside, rfl⟩
  exact absurd (by simp) (not_mem_of_isStrict_tagOf hstrict)

/-- A piece of markup ends before a place where a tag starts, or goes past all tags there and is none. -/
theorem markup?_place {tag : Option Tag} {rest : List Char} (hold : IsTagged old)
    (h : markup? (before ++ (old ++ after)) = some (tag, rest)) (hstrict : ∀ t ∈ tag, t.IsStrict) :
    (∃ skipped between, before = skipped ++ between ∧ rest = between ++ (old ++ after) ∧
      ∀ other, markup? (skipped ++ other) = some (tag, other)) ∨
    (tag = none ∧ ∀ new, IsTagged new → markup? (before ++ (new ++ after)) = some (none, rest)) := by
  rw [markup?.eq_def] at h
  split at h
  · next text htext =>
    obtain ⟨before, rfl, rfl⟩ := exists_eq_cons_of_tagged hold (by decide) htext
    obtain ⟨found, hskip, heq⟩ := Option.map_eq_some_iff.1 h
    obtain ⟨rfl, rfl⟩ := Prod.mk.inj heq
    rcases skipDeclaration?_place hold hskip with ⟨skipped, between, rfl, rfl, hother⟩ | hother
    · refine .inl ⟨'!' :: skipped, between, rfl, rfl, fun other => ?_⟩
      exact Option.map_eq_some_iff.2 ⟨_, hother other, rfl⟩
    · refine .inr ⟨rfl, fun new hnew => ?_⟩
      exact Option.map_eq_some_iff.2 ⟨_, hother new hnew, rfl⟩
  · next text htext =>
    obtain ⟨before, rfl, rfl⟩ := exists_eq_cons_of_tagged hold (by decide) htext
    obtain ⟨found, hskip, heq⟩ := Option.map_eq_some_iff.1 h
    obtain ⟨rfl, rfl⟩ := Prod.mk.inj heq
    obtain ⟨skipped, between, rfl, rfl, hother⟩ := skipInstruction?_place hold hskip
    refine .inl ⟨'?' :: skipped, between, rfl, rfl, fun other => ?_⟩
    exact Option.map_eq_some_iff.2 ⟨_, hother other, rfl⟩
  · next text htext =>
    obtain ⟨before, rfl, rfl⟩ := exists_eq_cons_of_tagged hold (by decide) htext
    obtain ⟨htag, -⟩ := Prod.mk.inj (Option.some.inj h)
    obtain ⟨skipped, between, rfl, rfl, hother⟩ :=
      markup?_slash_place hold (htag ▸ h) (hstrict _ htag.symm)
    exact .inl ⟨'/' :: skipped, between, rfl, rfl, fun other => htag ▸ hother other⟩
  · next hdeclaration hinstruction hclosing =>
    obtain ⟨⟨content, found⟩, hread, heq⟩ := Option.map_eq_some_iff.1 h
    obtain ⟨rfl, rfl⟩ := Prod.mk.inj heq
    obtain ⟨between, rfl, rfl, hother⟩ := takeTag_place hold hread (hstrict _ rfl)
    refine .inl ⟨content ++ ['>'], between, by simp, rfl, fun other => ?_⟩
    -- what is read of it starts as the text does
    obtain ⟨c, tail, heq, hc⟩ : ∃ c tail, content ++ ['>'] = c :: tail ∧ c ∉ ['!', '?', '/'] := by
      cases content with
      | nil => exact ⟨'>', [], rfl, by decide⟩
      | cons c content =>
        refine ⟨c, content ++ ['>'], rfl, ?_⟩
        simp only [List.mem_cons, List.not_mem_nil, or_false, not_or]
        exact ⟨fun hc => hdeclaration _ (by rw [hc]; rfl), fun hc => hinstruction _ (by rw [hc]; rfl),
          fun hc => hclosing _ (by rw [hc]; rfl)⟩
    rw [heq, List.cons_append, markup?_of_not_mem hc, ← List.cons_append, ← heq, List.append_assoc, hother]
    rfl

end Place

/-! ## Places between pieces -/

/-- Whether no tag among pieces has a `<` in it. -/
def AreStrict (found : List Piece) : Prop := ∀ tag ∈ found.filterMap Piece.tag?, tag.IsStrict

/-- Where the pieces are complete, markup can be read. -/
theorem exists_markup?_of_complete {text : List Char} (hne : text ≠ [])
    (h : (pieces ('<' :: text)).complete = true) : ∃ tag rest, markup? text = some (tag, rest) := by
  rw [pieces, if_pos rfl, if_neg hne] at h
  split at h
  · cases h
  · next tag rest hmarkup => exact ⟨tag, rest, hmarkup⟩

/-- What tags at a place come to: they stand between two pieces, or others there leave the pieces alone. -/
def Settles (before old after : List Char) : Prop :=
  EndsBetween before ∨ ∀ new, IsTagged new →
    pieces (before ++ (new ++ after)) = pieces (before ++ (old ++ after))

/-- Text that is read in whole pieces may stand in front. -/
theorem Settles.append {first before old after : List Char} {found : List Piece}
    (hfirst : ∀ rest, pieces (first ++ rest) = (pieces rest).after found) (h : Settles before old after) :
    Settles (first ++ before) old after := by
  rcases h with hbefore | hnew
  · exact .inl (EndsBetween.append ⟨found, hfirst⟩ hbefore)
  · refine .inr fun new htagged => ?_
    rw [List.append_assoc, List.append_assoc, hfirst, hfirst, hnew new htagged]

/-- Tags that are found in the text of a document either stand between two pieces of it, or whatever
tags stand in their place leaves the pieces as they are. -/
theorem settles {old : List Char} (hold : IsTagged old) (before after : List Char)
    (hcomplete : (pieces (before ++ (old ++ after))).complete = true)
    (hstrict : AreStrict (pieces (before ++ (old ++ after))).pieces) : Settles before old after := by
  -- by the length of what precedes the place, piece by piece
  induction hlength : before.length using Nat.strongRecOn generalizing before with
  | ind n ih =>
  subst hlength
  have hstep : ∀ first between found, before = first ++ between → first ≠ [] →
      (∀ rest, pieces (first ++ rest) = (pieces rest).after found) → Settles before old after := by
    rintro first between found rfl hne hfirst
    rw [List.append_assoc, hfirst] at hcomplete hstrict
    refine .append hfirst (ih _ ?_ between hcomplete (fun tag htag => hstrict tag ?_) rfl)
    · have hpos := List.length_pos_iff.2 hne
      rw [List.length_append]
      omega
    · rw [Pieces.after, List.filterMap_append]
      exact List.mem_append_right _ htag
  match before with
  | [] => exact .inl .nil
  | c :: before =>
    by_cases hc : c = '<'
    · subst hc
      rw [List.cons_append] at hcomplete hstrict
      obtain ⟨first, hfirst⟩ := hold.exists_eq_cons
      obtain ⟨tag, rest, hmarkup⟩ := exists_markup?_of_complete (by simp [hfirst]) hcomplete
      have hpieces := pieces_markup hmarkup
      have htag : ∀ t ∈ tag, t.IsStrict := by
        intro t ht
        refine hstrict t ?_
        rw [hpieces, Pieces.after, List.filterMap_append, filterMap_tag?]
        exact List.mem_append_left _ (by simpa using ht)
      rcases markup?_place hold hmarkup htag with ⟨skipped, between, rfl, -, hother⟩ | ⟨rfl, hnew⟩
      · exact hstep ('<' :: skipped) between _ rfl (List.cons_ne_nil _ _)
          fun rest => pieces_markup (hother rest)
      · refine .inr fun new htagged => ?_
        rw [List.cons_append, List.cons_append, hpieces, pieces_markup (hnew new htagged)]
    · exact hstep [c] before _ rfl (List.cons_ne_nil _ _) fun rest => pieces_char hc rest

end SlideDeck.Xml
