import SlideDeck.Proofs.Text.Segments

/-!
# Lines

A text is made of lines and of the line ends between them in one way only, as an LF ends its line and
takes a CR before it along (`IsLines`). Cutting at every LF once each CRLF is an LF gives these lines
(`isLines_iff`).
-/

namespace SlideDeck.Text

variable {line rest text : List Char} {lines : List (List Char)}

/-- Whether a text is made of these lines, with an LF or a CRLF between each two of them. No line holds
an LF. A CR in front of an LF belongs to it; any other one is a character like the rest. -/
inductive IsLines : List Char → List (List Char) → Prop
  | last {line : List Char} (hline : '\n' ∉ line) : IsLines line [line]
  | feed {line rest : List Char} {lines : List (List Char)} (hline : '\n' ∉ line)
      (hreturn : line.getLast? ≠ some '\r') (h : IsLines rest lines) :
      IsLines (line ++ '\n' :: rest) (line :: lines)
  | returnFeed {line rest : List Char} {lines : List (List Char)} (hline : '\n' ∉ line)
      (h : IsLines rest lines) : IsLines (line ++ '\r' :: '\n' :: rest) (line :: lines)

/-! ## Existence -/

/-- A character in front of a text, unless it ends a line or belongs to the end of one, is the start of the
first line. -/
theorem IsLines.exists_cons {c : Char} (hc : c ≠ '\n') (h : IsLines text lines)
    (hreturn : c = '\r' → text.head? ≠ some '\n') : ∃ more, IsLines (c :: text) more := by
  have hnot : ∀ {line : List Char}, '\n' ∉ line → '\n' ∉ c :: line := fun hline hmem =>
    (List.mem_cons.1 hmem).elim (fun heq => hc heq.symm) hline
  cases h with
  | last hline => exact ⟨_, .last (hnot hline)⟩
  | @feed line rest lines hline hend h =>
    refine ⟨_, .feed (hnot hline) ?_ h⟩
    match line, hend, hreturn with
    | [], _, hreturn =>
      rintro hlast
      exact hreturn (Option.some.inj hlast) rfl
    | _ :: _, hend, _ => exact hend
  | returnFeed hline h => exact ⟨_, .returnFeed (hnot hline) h⟩

/-- Every text has lines, by induction on it. -/
theorem exists_isLines (text : List Char) : ∃ lines, IsLines text lines := by
  -- an LF and a CRLF end an empty line, so that the induction may skip two characters
  fun_induction joinReturns text with
  | case1 rest ih =>
    obtain ⟨lines, h⟩ := ih
    exact ⟨_, @IsLines.returnFeed [] rest lines List.not_mem_nil h⟩
  | case2 c rest hreturn ih =>
    obtain ⟨lines, h⟩ := ih
    by_cases hc : c = '\n'
    · rw [hc]
      exact ⟨_, @IsLines.feed [] rest lines List.not_mem_nil (fun hlast => nomatch hlast) h⟩
    · refine h.exists_cons hc ?_
      rintro rfl hhead
      obtain ⟨later, rfl⟩ := List.head?_eq_some_iff.1 hhead
      exact hreturn later rfl rfl
  | case3 => exact ⟨_, .last List.not_mem_nil⟩

/-! ## Cutting -/

/-- A character that begins no line end stays. -/
theorem joinReturns_cons {c : Char} (h : c = '\r' → rest.head? ≠ some '\n') :
    joinReturns (c :: rest) = c :: joinReturns rest := by
  rw [joinReturns]
  rintro later rfl rfl
  exact h rfl rfl

/-- A text without an LF stays in front of another, unless the two make up a CRLF between them. -/
theorem joinReturns_append (hline : '\n' ∉ line)
    (hreturn : line.getLast? = some '\r' → rest.head? ≠ some '\n') :
    joinReturns (line ++ rest) = line ++ joinReturns rest := by
  induction line with
  | nil => rfl
  | cons c line ih =>
    rw [List.mem_cons, not_or] at hline
    match line, hline, hreturn, ih with
    | [], _, hreturn, _ => exact joinReturns_cons fun hc => hreturn (congrArg some hc)
    | d :: line, hline, hreturn, ih =>
      have hnext : c = '\r' → ((d :: line) ++ rest).head? ≠ some '\n' := fun _ hhead =>
        hline.2 (Option.some.inj hhead ▸ List.mem_cons_self)
      rw [List.cons_append, joinReturns_cons hnext, ih hline.2 hreturn]
      rfl

/-- An LF is an end of a line by itself, if no CR is in front of it. -/
theorem joinReturns_feed (hline : '\n' ∉ line) (hreturn : line.getLast? ≠ some '\r') (rest : List Char) :
    joinReturns (line ++ '\n' :: rest) = line ++ '\n' :: joinReturns rest :=
  joinReturns_append hline fun hlast => absurd hlast hreturn

/-- A CRLF becomes an LF. -/
theorem joinReturns_returnFeed (hline : '\n' ∉ line) (rest : List Char) :
    joinReturns (line ++ '\r' :: '\n' :: rest) = line ++ '\n' :: joinReturns rest :=
  joinReturns_append hline fun _ hhead => absurd (Option.some.inj hhead) (by decide)

/-- The text is cut into its lines, by induction on these. -/
theorem IsLines.splitAt_joinReturns (h : IsLines text lines) :
    splitAt '\n' (joinReturns text) = lines := by
  induction h with
  | @last line hline =>
    have hline' : joinReturns (line ++ []) = line ++ [] := joinReturns_append hline fun _ h => nomatch h
    rw [List.append_nil] at hline'
    rw [hline', splitAt_of_not_mem hline]
  | feed hline hreturn _ ih =>
    rw [joinReturns_feed hline hreturn, splitAt_append, splitAt_of_not_mem hline, ih]
    rfl
  | returnFeed hline _ ih =>
    rw [joinReturns_returnFeed hline, splitAt_append, splitAt_of_not_mem hline, ih]
    rfl

/-- The lines of a text are what is left between the feeds once the returns in front of them are taken
out. -/
theorem isLines_iff : IsLines text lines ↔ lines = splitAt '\n' (joinReturns text) := by
  constructor
  · exact fun h => h.splitAt_joinReturns.symm
  · rintro rfl
    obtain ⟨lines, h⟩ := exists_isLines text
    rwa [h.splitAt_joinReturns]

end SlideDeck.Text
