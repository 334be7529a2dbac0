import Mathlib.Data.List.TakeWhile
import SlideDeck.Proofs.Xml.Places

/-!
# The first element of a kind

The first element of a kind is found at its start tag, and nothing that follows this tag in the document is
looked at (`startsAt_of_seek`). This is so because markup ends where it does whatever follows
(`markup?_cases`), but for end tags and instructions at the very end of the document.
-/

namespace SlideDeck.Xml

/-! ## Where markup ends -/

/-- Declarations of a kind that are read by a reader that stops at an ending end there whatever follows. -/
theorem skipDeclaration?_of_reader {first ending text rest : List Char} {accepted : List Char → Prop}
    {read : List Char → Option (List Char × List Char)}
    (hiff : ∀ text rest, skipDeclaration? (first ++ text) = some rest ↔
      ∃ content, read text = some (content, rest) ∧ accepted content)
    (hstop : ∀ text, StopsAt ending read text) (h : skipDeclaration? (first ++ text) = some rest) :
    ∃ skipped, first ++ text = skipped ++ rest ∧
      ∀ other, skipDeclaration? (skipped ++ other) = some other := by
  obtain ⟨content, hread, hcontent⟩ := (hiff _ _).1 h
  obtain ⟨rfl, hother⟩ := hstop text content rest hread
  refine ⟨first ++ (content ++ ending), by simp, fun other => ?_⟩
  rw [List.append_assoc, List.append_assoc]
  exact (hiff _ _).2 ⟨content, hother other, hcontent⟩

/-- Skipping a declaration does not look behind its end. -/
theorem skipDeclaration?_stops {text rest : List Char} (h : skipDeclaration? text = some rest) :
    ∃ skipped, text = skipped ++ rest ∧ ∀ other, skipDeclaration? (skipped ++ other) = some other := by
  rcases skipDeclaration?_eq_some_cases h with ⟨inside, rfl⟩ | ⟨inside, rfl⟩ | ⟨c, inside, hc, rfl⟩
  · exact skipDeclaration?_of_reader (fun _ _ => skipDeclaration?_comment_iff)
      (stopsAt_cutFirst (List.cons_ne_nil _ _)) h
  · exact skipDeclaration?_of_reader (fun _ _ => skipDeclaration?_characters_iff)
      (stopsAt_cutFirst (List.cons_ne_nil _ _)) h
  · exact skipDeclaration?_of_reader (fun _ _ => skipDeclaration?_type_iff hc) (stopsAt_takeBalanced 0) h

/-- Something follows the first `>` of a text only if there is one. -/
theorem exists_of_takeAngle {text : List Char} (h : (takeAngle text).2 ≠ []) :
    ∃ content rest, '>' ∉ content ∧ text = content ++ '>' :: rest := by
  by_cases hmem : '>' ∈ text
  · obtain ⟨content, rest, htext, hcontent⟩ := List.eq_append_cons_of_mem hmem
    exact ⟨content, rest, hcontent, htext⟩
  · have hall : text.dropWhile (· != '>') = [] := List.dropWhile_eq_nil_iff.2 fun c hc =>
      bne_iff_ne.2 fun heq => hmem (heq ▸ hc)
    rw [takeAngle, hall] at h
    exact absurd rfl h

/-- Skipping an instruction does not look behind its end, if it has one. -/
theorem skipInstruction?_stops {text rest : List Char} (h : skipInstruction? text = some rest)
    (hrest : rest ≠ []) : ∃ skipped, text = skipped ++ rest ∧
      ∀ other, skipInstruction? (skipped ++ other) = some other := by
  rw [skipInstruction?_eq] at h
  split at h
  · next hends =>
    obtain rfl := Option.some.inj h
    obtain ⟨content, rest, hcontent, rfl⟩ := exists_of_takeAngle hrest
    rw [takeAngle_append hcontent] at hends ⊢
    refine ⟨content ++ ['>'], by simp, fun other => ?_⟩
    rw [List.append_assoc, List.singleton_append, skipInstruction?_eq, takeAngle_append hcontent,
      if_pos hends]
  · cases h

/-- Nor does reading a closing tag. -/
theorem markup?_slash_stops {text rest : List Char} {tag : Option Tag}
    (h : markup? ('/' :: text) = some (tag, rest)) (hrest : rest ≠ []) :
    ∃ skipped, text = skipped ++ rest ∧ ∀ other, markup? ('/' :: (skipped ++ other)) = some (tag, other) := by
  rw [markup?_slash] at h
  obtain ⟨rfl, rfl⟩ := Prod.mk.inj (Option.some.inj h)
  obtain ⟨content, rest, hcontent, rfl⟩ := exists_of_takeAngle hrest
  rw [takeAngle_append hcontent]
  refine ⟨content ++ ['>'], by simp, fun other => ?_⟩
  rw [List.append_assoc, List.singleton_append, markup?_slash, takeAngle_append hcontent]

/-- A text that starts as no other markup does is a tag, whatever follows its end. -/
theorem markup?_of_takeTag {text content rest : List Char}
    (hfirst : ∀ c tail, text = c :: tail → c ∉ ['!', '?', '/'])
    (h : takeTag none text = some (content, rest)) : text = content ++ '>' :: rest ∧
      ∀ other, markup? (content ++ '>' :: other) = some (some (tagOf content), other) := by
  obtain ⟨rfl, hother⟩ := stopsAt_takeTag none text content rest h
  refine ⟨rfl, fun other => ?_⟩
  have hread : takeTag none (content ++ '>' :: other) = some (content, other) := hother other
  cases content with
  | nil => rw [List.nil_append, markup?_of_not_mem (by decide), ← List.nil_append ('>' :: other), hread]; rfl
  | cons c content =>
    rw [List.cons_append] at hread ⊢
    rw [markup?_of_not_mem (hfirst c _ rfl), hread]
    rfl

/-- Markup is a start tag or an empty tag, which ends whatever follows, or it is none of them and ends so if
something follows at all. -/
theorem markup?_cases {text rest : List Char} {tag : Option Tag} (h : markup? text = some (tag, rest)) :
    (∃ content, tag = some (tagOf content) ∧ text = content ++ '>' :: rest ∧
      ∀ other, markup? (content ++ '>' :: other) = some (tag, other)) ∨
    ((∀ element, tag ≠ some (.opening element) ∧ tag ≠ some (.empty element)) ∧
      (rest ≠ [] → ∃ skipped, text = skipped ++ rest ∧
        ∀ other, markup? (skipped ++ other) = some (tag, other))) := by
  rw [markup?.eq_def] at h
  split at h
  · next text =>
    obtain ⟨found, hskip, heq⟩ := Option.map_eq_some_iff.1 h
    obtain ⟨rfl, rfl⟩ := Prod.mk.inj heq
    refine .inr ⟨fun element => by simp, fun _ => ?_⟩
    obtain ⟨skipped, rfl, hother⟩ := skipDeclaration?_stops hskip
    exact ⟨'!' :: skipped, rfl, fun other => Option.map_eq_some_iff.2 ⟨_, hother other, rfl⟩⟩
  · next text =>
    obtain ⟨found, hskip, heq⟩ := Option.map_eq_some_iff.1 h
    obtain ⟨rfl, rfl⟩ := Prod.mk.inj heq
    refine .inr ⟨fun element => by simp, fun hrest => ?_⟩
    obtain ⟨skipped, rfl, hother⟩ := skipInstruction?_stops hskip hrest
    exact ⟨'?' :: skipped, rfl, fun other => Option.map_eq_some_iff.2 ⟨_, hother other, rfl⟩⟩
  · next text =>
    have htag := (Prod.mk.inj (Option.some.inj h)).1
    refine .inr ⟨fun element => by simp [← htag], fun hrest => ?_⟩
    obtain ⟨skipped, rfl, hother⟩ := markup?_slash_stops h hrest
    exact ⟨'/' :: skipped, rfl, hother⟩
  · next hdeclaration hinstruction hclosing =>
    obtain ⟨⟨content, found⟩, hread, heq⟩ := Option.map_eq_some_iff.1 h
    obtain ⟨rfl, rfl⟩ := Prod.mk.inj heq
    have hfirst : ∀ c tail, text = c :: tail → c ∉ ['!', '?', '/'] := by
      rintro c tail rfl
      simp only [List.mem_cons, List.not_mem_nil, or_false, not_or]
      exact ⟨fun hc => hdeclaration tail (by rw [hc]), fun hc => hinstruction tail (by rw [hc]),
        fun hc => hclosing tail (by rw [hc])⟩
    obtain ⟨htext, hother⟩ := markup?_of_takeTag hfirst hread
    exact .inl ⟨content, rfl, htext, hother⟩

/-! ## Looking for an element -/

variable {p : Element → Bool} {opened : List (List Char)} {root : Element}

/-- The first element of a kind in a text behind open elements. -/
def seek (p : Element → Bool) (opened : List (List Char)) (text : List Char) : Option Element :=
  (nest opened (tags text).complete (tags text).tags).elements.find? p

/-- Nothing is found in an empty text. -/
theorem seek_nil : seek p opened [] = none := by
  rw [seek, tags]
  rfl

/-- The search goes past characters. -/
theorem seek_char {c : Char} (hc : c ≠ '<') (text : List Char) :
    seek p opened (c :: text) = seek p opened text := by
  rw [seek, tags, if_neg hc]
  rfl

/-- It ends where the markup is broken. -/
theorem seek_of_markup?_eq_none {text : List Char} (h : markup? text = none) :
    seek p opened ('<' :: text) = none := by
  rw [seek, tags, if_pos rfl]
  split
  · rfl
  · split
    · rfl
    · next h' => cases h.symm.trans h'

/-- The tag that is read is the first one, and the rest come behind it. -/
theorem tags_markup {text rest : List Char} {tag : Option Tag} (h : markup? text = some (tag, rest)) :
    tags ('<' :: text) = (tags rest).cons tag := by
  rw [tags_eq_pieces, tags_eq_pieces, pieces_markup h]
  simp only [Pieces.after, Tags.cons, List.filterMap_append, filterMap_tag?]

/-- Whether a tag starts an element, and which elements are open behind it. -/
inductive Begins (opened : List (List Char)) : Tag → Element → List (List Char) → Prop
  | opening (element : Element) : Begins opened (.opening element) element (element.name :: opened)
  | empty (element : Element) : Begins opened (.empty element) element opened

section Markup

variable {text rest : List Char}

/-- The search goes past markup that is no tag. -/
theorem seek_none (h : markup? text = some (none, rest)) :
    seek p opened ('<' :: text) = seek p opened rest := by
  rw [seek, tags_markup h]
  rfl

/-- It ends at an element that is looked for and enters every other. -/
theorem seek_begins {tag : Tag} {element : Element} {next : List (List Char)}
    (hbegins : Begins opened tag element next) (h : markup? text = some (some tag, rest)) :
    seek p opened ('<' :: text) = if p element then some element else seek p next rest := by
  have hnest : (nest opened ((tags rest).cons (some tag)).complete ((tags rest).cons (some tag)).tags).elements
      = element :: (nest next (tags rest).complete (tags rest).tags).elements := by
    cases hbegins <;> rfl
  rw [seek, tags_markup h, hnest, List.find?_cons, seek]
  cases p element <;> rfl

/-- It leaves the innermost element, and ends at a closing tag that is not of it. -/
theorem seek_closing {name : List Char} (h : markup? text = some (some (.closing name), rest)) :
    seek p opened ('<' :: text)
      = match opened with
        | [] => none
        | innermost :: opened => if name = innermost then seek p opened rest else none := by
  rw [seek, tags_markup h]
  cases opened with
  | nil => rfl
  | cons innermost opened =>
    show List.find? p (nest _ _ (.closing name :: (tags rest).tags)).elements
      = if name = innermost then _ else none
    rw [nest]
    by_cases hname : name = innermost
    · rw [if_pos hname, if_pos hname]
      rfl
    · rw [if_neg hname, if_neg hname]
      rfl

/-- A piece of markup is the tag of the element that is looked for, or the search goes on behind it in a way
that does not depend on what there is. -/
theorem seek_markup_cases {tag : Option Tag} (hmarkup : markup? text = some (tag, rest))
    (hseek : seek p opened ('<' :: text) = some root) :
    ((tag = some (.opening root) ∨ tag = some (.empty root)) ∧
      ∀ text rest, markup? text = some (tag, rest) → seek p opened ('<' :: text) = some root) ∨
    ∃ next, ∀ text rest, markup? text = some (tag, rest) →
      seek p opened ('<' :: text) = seek p next rest := by
  have hstart : ∀ {start element next}, tag = some start → Begins opened start element next →
      (element = root ∧ ∀ text rest, markup? text = some (tag, rest) →
        seek p opened ('<' :: text) = some root) ∨
      ∃ next, ∀ text rest, markup? text = some (tag, rest) →
        seek p opened ('<' :: text) = seek p next rest := by
    rintro start element next rfl hbegins
    by_cases hp : p element = true
    · rw [seek_begins hbegins hmarkup, if_pos hp] at hseek
      obtain rfl := Option.some.inj hseek
      exact .inl ⟨rfl, fun text rest h => by rw [seek_begins hbegins h, if_pos hp]⟩
    · exact .inr ⟨next, fun text rest h => by rw [seek_begins hbegins h, if_neg hp]⟩
  match tag with
  | none => exact .inr ⟨opened, fun text rest => seek_none⟩
  | some (.opening element) =>
    exact (hstart rfl (.opening element)).imp_left fun ⟨heq, h⟩ => ⟨.inl (heq ▸ rfl), h⟩
  | some (.empty element) =>
    exact (hstart rfl (.empty element)).imp_left fun ⟨heq, h⟩ => ⟨.inr (heq ▸ rfl), h⟩
  | some (.closing name) =>
    right
    rw [seek_closing hmarkup] at hseek
    match opened with
    | innermost :: opened =>
      by_cases hname : name = innermost
      · exact ⟨opened, fun text rest h => (seek_closing h).trans (if_pos hname)⟩
      · dsimp only at hseek
        rw [if_neg hname] at hseek
        cases hseek

end Markup

/-- Whether a search finds an element at its tag, with none before, whatever follows the tag. -/
def StartsAt (p : Element → Bool) (opened : List (List Char)) (text : List Char) (root : Element) : Prop :=
  ∃ before content after, text = before ++ '<' :: (content ++ '>' :: after) ∧
    (tagOf content = .opening root ∨ tagOf content = .empty root) ∧ seek p opened before = none ∧
    ∀ other, seek p opened (before ++ '<' :: (content ++ '>' :: other)) = some root

/-- Text that the search goes past may stand in front. -/
theorem StartsAt.append (first : List Char) {text : List Char} {next : List (List Char)}
    (hfirst : ∀ rest, seek p opened (first ++ rest) = seek p next rest) (h : StartsAt p next text root) :
    StartsAt p opened (first ++ text) root := by
  obtain ⟨before, content, after, rfl, htag, hbefore, hother⟩ := h
  refine ⟨first ++ before, content, after, by rw [List.append_assoc], htag, ?_, fun other => ?_⟩
  · rw [hfirst, hbefore]
  · rw [List.append_assoc, hfirst, hother]

/-- An element that a search finds is found at its tag. -/
theorem startsAt_of_seek {text : List Char} (h : seek p opened text = some root) :
    StartsAt p opened text root := by
  -- by the length of the text, piece by piece
  induction hlength : text.length using Nat.strongRecOn generalizing text opened with
  | ind n ih =>
  subst hlength
  match text with
  | [] => cases seek_nil.symm.trans h
  | c :: text =>
    by_cases hc : c = '<'
    · subst hc
      cases hmarkup : markup? text with
      | none => cases (seek_of_markup?_eq_none hmarkup).symm.trans h
      | some found =>
        obtain ⟨tag, rest⟩ := found
        have hcases := markup?_cases hmarkup
        rcases seek_markup_cases hmarkup h with ⟨htag, hroot⟩ | ⟨next, hnext⟩
        · rcases hcases with ⟨content, rfl, rfl, hother⟩ | ⟨hnone, -⟩
          · exact ⟨[], content, rest, rfl, htag.imp Option.some.inj Option.some.inj, seek_nil,
              fun other => hroot _ other (hother other)⟩
          · exact absurd htag (not_or.2 (hnone root))
        · -- the search goes on behind the markup, and something is there
          rw [hnext text rest hmarkup] at h
          have hrest : rest ≠ [] := by
            rintro rfl
            cases seek_nil.symm.trans h
          obtain ⟨skipped, rfl, hother⟩ : ∃ skipped, text = skipped ++ rest ∧
              ∀ other, markup? (skipped ++ other) = some (tag, other) := by
            rcases hcases with ⟨content, -, rfl, hother⟩ | ⟨-, hskipped⟩
            · exact ⟨content ++ ['>'], by simp, fun other => by
                rw [List.append_assoc, List.singleton_append, hother]⟩
            · exact hskipped hrest
          have hlength := markup?_length hmarkup
          exact (ih rest.length (Nat.lt_succ_of_le hlength) h rfl).append ('<' :: skipped)
            fun other => hnext _ other (hother other)
    · rw [seek_char hc] at h
      exact (ih text.length (Nat.lt_succ_self _) h rfl).append [c] fun rest => seek_char hc rest

end SlideDeck.Xml
