import SlideDeck.Proofs.Series.Tokens
import SlideDeck.Proofs.Text.Segments

/-!
# The series of a text is that of its first written line

Of a text only the first line counts that is not blank, its data line. What follows a text with a data line
behind a line end changes no result, only the warnings. The series has the values of the data line, two for
each point and the last of an odd number of them dropped (`isPaired_iff`), if all of its numbers have values
and there are at least two (`ofText_decided_by_dataLine`).
-/

namespace SlideDeck

namespace Text

/-! ## Lines that are followed by others -/

/-- A text is blank when its parts are. -/
theorem allBlank_append (a b : List Char) : allBlank (a ++ b) = (allBlank a && allBlank b) :=
  List.all_append

/-- A line that has been ended has lost nothing but a CR. -/
theorem dropReturn_cases (line : List Char) : dropReturn line = line ∨ dropReturn line ++ ['\r'] = line := by
  rw [dropReturn]
  split
  · next hlast => exact .inr (List.dropLast_append_getLast? '\r' hlast)
  · exact .inl rfl

/-- A return at the end does not change whether a line is blank. -/
theorem allBlank_dropReturn (line : List Char) : allBlank (dropReturn line) = allBlank line := by
  have hreturn : allBlank ['\r'] = true := by decide
  rcases dropReturn_cases line with h | h
  · rw [h]
  · rw [← h, allBlank_append, hreturn, Bool.and_true, h]

/-- The line after the last line end is left as it is, and is no line if it is empty. -/
theorem exists_lines_eq (text : List Char) : ∃ ended last, splitAt '\n' text = ended ++ [last] ∧
    lines text = ended.map dropReturn ++ if last = [] then [] else [last] := by
  have hne : splitAt '\n' text ≠ [] := splitWhere_ne_nil _ text
  refine ⟨_, _, (List.dropLast_append_getLast hne).symm, ?_⟩
  rw [lines, List.getLast?_eq_some_getLast hne]
  cases hlast : (splitAt '\n' text).getLast hne <;> simp

/-- Behind a line end, the lines of a text are ended, and are followed by those of the rest. -/
theorem lines_append (a b : List Char) :
    lines (a ++ '\n' :: b) = (splitAt '\n' a).map dropReturn ++ lines b := by
  obtain ⟨ended, last, hcut, hlines⟩ := exists_lines_eq b
  have hcuts : splitAt '\n' (a ++ '\n' :: b) = (splitAt '\n' a ++ ended) ++ [last] := by
    rw [splitAt_append, hcut, List.append_assoc]
  rw [hlines, lines, hcuts]
  cases last <;> simp

end Text

namespace Series

open Text (lines allBlank isDecimalDigit dropReturn)

/-! ## Characters behind the last number -/

/-- A character behind a line that belongs to no number is part of the gap at its end. -/
theorem Spaced.concat {before : Option Token} {tokens : List (List Char × Token)} {rest : List Char}
    (h : Spaced before tokens rest) {c : Char} (hdigit : isDecimalDigit c = false) (hpoint : c ≠ '.') :
    Spaced before tokens (rest ++ [c]) := by
  induction tokens generalizing before with
  | cons entry later ih => exact ⟨h.1, h.2.1, ih h.2.2⟩
  | nil =>
    refine ⟨?_, fun _ hnone => absurd hnone (Option.not_mem_none _), ?_,
      fun _ _ _ hnone => absurd hnone (Option.not_mem_none _)⟩
    · intro d hd
      rcases List.mem_append.1 hd with hd | hd
      · exact h.not_digit d hd
      · rw [List.mem_singleton.1 hd]
        exact hdigit
    · intro token htoken hnone d hd
      cases rest with
      | nil =>
        obtain rfl := Option.some.inj hd
        exact hpoint
      | cons e rest => exact h.not_point token htoken hnone d hd

/-- A character that belongs to no number, put behind a line, changes none of its tokens. -/
theorem tokens_concat (line : List Char) {c : Char} (hdigit : isDecimalDigit c = false)
    (hpoint : c ≠ '.') : tokens (line ++ [c]) = tokens line := by
  have hreads := reads_iff.2 (Eq.refl (cut line))
  have hcut := (hreads.spaced.concat hdigit hpoint).cut_chars_eq
  have hchars : (Cut.mk (cut line).tokens ((cut line).rest ++ [c])).chars = line ++ [c] := by
    rw [Cut.chars, ← List.append_assoc]
    exact congrArg (· ++ [c]) hreads.chars_eq
  rw [hchars] at hcut
  rw [tokens, hcut, tokens]

/-- A return at the end of a line is part of no token. -/
theorem tokens_dropReturn (line : List Char) : tokens (dropReturn line) = tokens line := by
  rcases Text.dropReturn_cases line with h | h
  · rw [h]
  · rw [← tokens_concat (dropReturn line) (c := '\r') (by decide) (by decide), h]

/-- What is made of a line depends on its numbers alone. -/
theorem ofLine_congr {a b : List Char} (h : tokens a = tokens b) : ofLine a = ofLine b := by
  rw [ofLine, ofLine, h]

/-! ## The data line -/

/-- Whether a line is the first of a text that is not blank, with these lines behind it. -/
structure IsDataLine (text : String) (line : List Char) (later : List (List Char)) : Prop where
  first : ∃ before, lines text.toList = before ++ line :: later ∧ ∀ blank ∈ before, allBlank blank = true
  written : allBlank line = false

/-- Whether a text has no data line. -/
def IsBlank (text : String) : Prop := ∀ line ∈ lines text.toList, allBlank line = true

/-- The data line is the first of the lines that are not blank. -/
theorem IsDataLine.filter_eq {text : String} {line : List Char} {later : List (List Char)}
    (h : IsDataLine text line later) :
    (lines text.toList).filter (!allBlank ·) = line :: later.filter (!allBlank ·) := by
  obtain ⟨before, hlines, hbefore⟩ := h.first
  have hnone : before.filter (!allBlank ·) = [] := by
    rw [List.filter_eq_nil_iff]
    intro blank hblank
    rw [hbefore blank hblank]
    exact Bool.false_ne_true
  rw [hlines, List.filter_append, hnone, List.nil_append,
    List.filter_cons_of_pos (by rw [h.written, Bool.not_false])]

/-- In a blank text no line is left. -/
theorem IsBlank.filter_eq {text : String} (h : IsBlank text) :
    (lines text.toList).filter (!allBlank ·) = [] := by
  rw [List.filter_eq_nil_iff]
  intro line hline
  rw [h line hline]
  exact Bool.false_ne_true

/-- The line that is searched for is the data line. -/
theorem find?_eq_some_iff {text : String} {line : List Char} :
    (lines text.toList).find? (!allBlank ·) = some line ↔ ∃ later, IsDataLine text line later := by
  rw [List.find?_eq_some_iff_append]
  constructor
  · rintro ⟨hwritten, before, later, hlines, hbefore⟩
    refine ⟨later, ⟨before, hlines, fun blank hblank => ?_⟩, by simpa using hwritten⟩
    simpa using hbefore blank hblank
  · rintro ⟨later, ⟨before, hlines, hbefore⟩, hwritten⟩
    refine ⟨by simpa using hwritten, before, later, hlines, fun blank hblank => ?_⟩
    simpa using hbefore blank hblank

/-- A text is blank or has a data line. -/
theorem isBlank_or_isDataLine (text : String) :
    IsBlank text ∨ ∃ line later, IsDataLine text line later := by
  cases hfind : (lines text.toList).find? (!allBlank ·) with
  | some line => exact .inr ⟨line, find?_eq_some_iff.1 hfind⟩
  | none =>
    refine .inl fun line hline => ?_
    simpa using List.find?_eq_none.1 hfind line hline

/-- A line end and what follows it leave the data line of a text as it is, but for a CR at its end. -/
theorem IsDataLine.exists_append {p : String} {line : List Char} {later : List (List Char)}
    (h : IsDataLine p line later) (s : String) :
    ∃ line' later', IsDataLine (p ++ "\n" ++ s) line' later' ∧ tokens line' = tokens line := by
  obtain ⟨ended, last, hcut, hlines⟩ := Text.exists_lines_eq p.toList
  have hboth : lines (p ++ "\n" ++ s).toList
      = ended.map dropReturn ++ dropReturn last :: lines s.toList := by
    rw [String.toList_append, String.toList_append, List.append_assoc]
    refine (Text.lines_append _ _).trans ?_
    rw [hcut, List.map_append, List.append_assoc]
    rfl
  have hfind := find?_eq_some_iff.2 ⟨later, h⟩
  rw [hlines, List.find?_append] at hfind
  -- the data line has been ended already, or else it is the last line
  cases hended : (ended.map dropReturn).find? (!allBlank ·) with
  | some first =>
    rw [hended, Option.some_or] at hfind
    obtain rfl := Option.some.inj hfind
    have hfirst : (lines (p ++ "\n" ++ s).toList).find? (!allBlank ·) = some first := by
      rw [hboth, List.find?_append, hended, Option.some_or]
    obtain ⟨later', hline⟩ := find?_eq_some_iff.1 hfirst
    exact ⟨first, later', hline, rfl⟩
  | none =>
    rw [hended, Option.none_or] at hfind
    have hlast : allBlank last = false ∧ last = line := by
      split at hfind
      · cases hfind
      · simpa using hfind
    obtain ⟨hwritten, rfl⟩ := hlast
    have hfirst : (lines (p ++ "\n" ++ s).toList).find? (!allBlank ·) = some (dropReturn last) := by
      rw [hboth, List.find?_append, hended, Option.none_or, List.find?_cons_of_pos]
      rw [Text.allBlank_dropReturn, hwritten, Bool.not_false]
    obtain ⟨later', hline⟩ := find?_eq_some_iff.1 hfirst
    exact ⟨dropReturn last, later', hline, tokens_dropReturn last⟩

/-- The result of a text is that of its data line. -/
theorem IsDataLine.ofText_fst {text : String} {line : List Char} {later : List (List Char)}
    (h : IsDataLine text line later) : (ofText text).1 = (ofLine line).1 := by
  rw [ofText, h.filter_eq]

/-- The warnings are that lines were ignored, if some were, and those of the data line. -/
theorem IsDataLine.ofText_snd {text : String} {line : List Char} {later : List (List Char)}
    (h : IsDataLine text line later) :
    (ofText text).2 = (if later.all allBlank then [] else [.linesIgnored (later.countP (!allBlank ·))])
      ++ (ofLine line).2 := by
  have hnone : (later.filter (!allBlank ·)).isEmpty = later.all allBlank := by
    rw [Bool.eq_iff_iff, List.isEmpty_iff, List.filter_eq_nil_iff, List.all_eq_true]
    simp
  rw [ofText, h.filter_eq]
  simp only [hnone, List.countP_eq_length_filter]

/-- A blank text has no data line to read, and nothing is warned of. -/
theorem IsBlank.ofText_eq {text : String} (h : IsBlank text) :
    ofText text = (.error .noDataLine, []) := by
  rw [ofText, h.filter_eq]

/-! ## Points -/

/-- Whether a series has the values, two for each point, but for the last of an odd number of them. -/
structure IsPaired (values : List Float) (series : Series) : Prop where
  length_x : series.x.length = values.length / 2
  length_y : series.y.length = values.length / 2
  x_eq : ∀ i < values.length / 2, series.x[i]? = values[2 * i]?
  y_eq : ∀ i < values.length / 2, series.y[i]? = values[2 * i + 1]?

/-- Fewer than two values make no pair. -/
theorem length_div_two_of_short {values : List Float}
    (h : ∀ x y rest, values = x :: y :: rest → False) : values.length / 2 = 0 := by
  rcases values with - | ⟨x, - | ⟨y, rest⟩⟩
  · rfl
  · rw [List.length_singleton]
  · exact absurd rfl (h x y rest)

/-- There are half as many pairs as values. -/
theorem length_pairs (values : List Float) : (pairs values).length = values.length / 2 := by
  fun_induction pairs values with
  | case1 x y rest ih =>
    rw [List.length_cons, ih, List.length_cons, List.length_cons]
    omega
  | case2 values hshort =>
    rw [List.length_nil, length_div_two_of_short hshort]

/-- A pair is of two values next to each other, the first of them at an even place. -/
theorem getElem?_pairs {values : List Float} {i : Nat} (h : i < values.length / 2) :
    ∃ x y, (pairs values)[i]? = some (x, y) ∧ values[2 * i]? = some x ∧ values[2 * i + 1]? = some y := by
  fun_induction pairs values generalizing i with
  | case1 x y rest ih =>
    cases i with
    | zero => exact ⟨x, y, rfl, rfl, rfl⟩
    | succ i =>
      rw [List.length_cons, List.length_cons] at h
      exact ih (by omega)
  | case2 values hshort =>
    rw [length_div_two_of_short hshort] at h
    exact absurd h (Nat.not_lt_zero i)

/-- The pairs of values are a series of points of them. -/
theorem isPaired_pairs (values : List Float) : IsPaired values ⟨pairs values⟩ := by
  refine ⟨?_, ?_, fun i hi => ?_, fun i hi => ?_⟩
  · rw [x, List.length_map, length_pairs]
  · rw [y, List.length_map, length_pairs]
  · obtain ⟨first, second, hpair, hfirst, -⟩ := getElem?_pairs hi
    rw [x, List.getElem?_map, hpair, hfirst]
    rfl
  · obtain ⟨first, second, hpair, -, hsecond⟩ := getElem?_pairs hi
    rw [y, List.getElem?_map, hpair, hsecond]
    rfl

/-- The coordinates of the points determine the series. -/
theorem isPaired_iff {values : List Float} {series : Series} :
    IsPaired values series ↔ series = ⟨pairs values⟩ := by
  constructor
  · intro h
    have hpairs := isPaired_pairs values
    have hx : series.points.map (·.1) = (pairs values).map (·.1) := by
      refine List.ext_getElem?' fun i hi => ?_
      have hlength : i < max series.x.length (x ⟨pairs values⟩).length := hi
      rw [h.length_x, hpairs.length_x, Nat.max_self] at hlength
      exact (h.x_eq i hlength).trans (hpairs.x_eq i hlength).symm
    have hy : series.points.map (·.2) = (pairs values).map (·.2) := by
      refine List.ext_getElem?' fun i hi => ?_
      have hlength : i < max series.y.length (y ⟨pairs values⟩).length := hi
      rw [h.length_y, hpairs.length_y, Nat.max_self] at hlength
      exact (h.y_eq i hlength).trans (hpairs.y_eq i hlength).symm
    have hpoints : series.points = pairs values :=
      (List.zip_of_prod hx hy).trans (List.zip_of_prod rfl rfl).symm
    rw [← hpoints]
  · rintro rfl
    exact isPaired_pairs values

/-- There are no pairs of fewer than two values. -/
theorem pairs_eq_nil_iff {values : List Float} : pairs values = [] ↔ values.length < 2 := by
  rw [← List.length_eq_zero_iff, length_pairs]
  omega

/-! ## What a line gives -/

/-- Whether all numbers of a line have values. -/
def IsConvertible (line : List Char) : Prop := ∀ token ∈ tokens line, token.IsAscii

/-- The values of the numbers of a line. -/
def lineValues (line : List Char) : List Float := (tokens line).map Token.decimal

/-- A line has one value for each token. -/
theorem length_lineValues (line : List Char) : (lineValues line).length = (tokens line).length :=
  List.length_map _

/-- What comes of a line with tokens in ASCII depends on how many they are. -/
theorem ofLine_of_isConvertible {line : List Char} (h : IsConvertible line) :
    ofLine line = (if (tokens line).length = 0 then .error .noNumbers
      else if (tokens line).length < 2 then .error .noPair else .ok ⟨pairs (lineValues line)⟩,
      oddWarning (lineValues line)) := by
  have hvalues : values (tokens line) = .ok (lineValues line) := values_eq_ok_iff.2 ⟨h, rfl⟩
  have hlength := length_lineValues line
  have hpairs : pairs (lineValues line) = [] ↔ (tokens line).length < 2 := by
    rw [pairs_eq_nil_iff, hlength]
  rw [ofLine, hvalues, ← hlength]
  rw [← hlength] at hpairs
  cases hempty : lineValues line with
  | nil => rfl
  | cons first rest =>
    rw [hempty] at hpairs
    have hne : (first :: rest).length ≠ 0 := Nat.succ_ne_zero _
    simp only [if_neg hne]
    by_cases hshort : (first :: rest).length < 2
    · simp only [hpairs.2 hshort, if_pos hshort]
    · rw [if_neg hshort]
      cases hpoints : pairs (first :: rest) with
      | nil => exact absurd (hpairs.1 hpoints) hshort
      | cons point points => rfl

/-- A token with no value is reported, with no warning. -/
theorem ofLine_of_values_eq_error {line : List Char} {fault : Fault}
    (h : values (tokens line) = .error fault) : ofLine line = (.error fault, []) := by
  rw [ofLine, h]

/-- In a line that cannot be converted, a token has no value. -/
theorem exists_values_eq_error {line : List Char} (h : ¬ IsConvertible line) :
    ∃ fault, values (tokens line) = .error fault := by
  cases hvalues : values (tokens line) with
  | ok found => exact absurd (values_eq_ok_iff.1 hvalues).1 h
  | error fault => exact ⟨fault, rfl⟩

/-- What a line gives whose numbers have values, by how many there are. -/
theorem ofLine_cases {line : List Char} (h : IsConvertible line) :
    (tokens line = [] ∧ (ofLine line).1 = .error .noNumbers) ∨
    (∃ token, tokens line = [token] ∧ (ofLine line).1 = .error .noPair) ∨
    (2 ≤ (tokens line).length ∧ (ofLine line).1 = .ok ⟨pairs (lineValues line)⟩) := by
  rw [ofLine_of_isConvertible h]
  rcases tokens line with _ | ⟨first, _ | ⟨second, rest⟩⟩
  · exact .inl ⟨rfl, rfl⟩
  · exact .inr (.inl ⟨first, rfl, rfl⟩)
  · have hlong : 2 ≤ (first :: second :: rest).length := by simp
    refine .inr (.inr ⟨hlong, ?_⟩)
    rw [if_neg (Nat.ne_of_gt (Nat.lt_of_lt_of_le Nat.two_pos hlong)), if_neg (Nat.not_lt.2 hlong)]

/-- A line gives a series when its tokens are in ASCII and two or more, and the series is of their pairs. -/
theorem ofLine_eq_ok_iff {line : List Char} {series : Series} : (ofLine line).1 = .ok series ↔
    IsConvertible line ∧ 2 ≤ (tokens line).length ∧ IsPaired (lineValues line) series := by
  by_cases h : IsConvertible line
  · rw [isPaired_iff]
    rcases ofLine_cases h with ⟨hnone, hresult⟩ | ⟨token, hone, hresult⟩ | ⟨hlong, hresult⟩
    · simp [hresult, hnone]
    · simp [hresult, hone]
    · simp [hresult, h, hlong, eq_comm]
  · obtain ⟨fault, hvalues⟩ := exists_values_eq_error h
    simp [ofLine_of_values_eq_error hvalues, h]

/-- Why a line gives no series: a number that has no value, or too few numbers. -/
inductive LineFails (line : List Char) : Fault → Prop where
  | badNumber {before after : List Token} {token : Token} (split : tokens line = before ++ token :: after)
      (earlier : ∀ number ∈ before, number.IsAscii) (bad : ¬ token.IsAscii) :
      LineFails line (.badNumber (String.ofList token.chars))
  | noNumbers (none : tokens line = []) : LineFails line .noNumbers
  | noPair {token : Token} (one : tokens line = [token]) (converted : token.IsAscii) :
      LineFails line .noPair

/-- A line fails for the reason that is laid down for it. -/
theorem ofLine_eq_error_iff {line : List Char} {fault : Fault} :
    (ofLine line).1 = .error fault ↔ LineFails line fault := by
  constructor
  · intro hfault
    by_cases h : IsConvertible line
    · rcases ofLine_cases h with ⟨hnone, hresult⟩ | ⟨token, hone, hresult⟩ | ⟨-, hresult⟩
      · obtain rfl := Except.error.inj (hresult.symm.trans hfault)
        exact .noNumbers hnone
      · obtain rfl := Except.error.inj (hresult.symm.trans hfault)
        exact .noPair hone (h token (hone ▸ List.mem_singleton_self token))
      · cases hresult.symm.trans hfault
    · obtain ⟨found, hvalues⟩ := exists_values_eq_error h
      rw [ofLine_of_values_eq_error hvalues] at hfault
      obtain rfl := Except.error.inj hfault
      obtain ⟨before, token, after, hsplit, hbefore, hbad, rfl⟩ := values_eq_error_iff.1 hvalues
      exact .badNumber hsplit hbefore hbad
  · intro hfails
    cases hfails with
    | badNumber hsplit hbefore hbad =>
      have hvalues := values_eq_error_iff.2 ⟨_, _, _, hsplit, hbefore, hbad, rfl⟩
      rw [ofLine_of_values_eq_error hvalues]
    | noNumbers hnone =>
      have hconvertible : IsConvertible line := by
        rw [IsConvertible, hnone]
        exact List.forall_mem_nil _
      rw [ofLine_of_isConvertible hconvertible, hnone]
      rfl
    | noPair hone hconverted =>
      have hconvertible : IsConvertible line := by
        rw [IsConvertible, hone]
        exact List.forall_mem_singleton.2 hconverted
      rw [ofLine_of_isConvertible hconvertible, hone]
      rfl

/-- The warning about the last value of a line, if all of its numbers have values and their count is odd. -/
inductive WarnsOfLast (line : List Char) : List Warning → Prop where
  | dropped {before : List Token} {last : Token} (converted : IsConvertible line)
      (split : tokens line = before ++ [last]) (odd : (tokens line).length % 2 = 1) :
      WarnsOfLast line [.valueDropped (tokens line).length last.decimal]
  | none (kept : ¬ (IsConvertible line ∧ (tokens line).length % 2 = 1)) : WarnsOfLast line []

/-- Of an unpaired value at the end of the line there is a warning. -/
theorem warnsOfLast_ofLine (line : List Char) : WarnsOfLast line (ofLine line).2 := by
  by_cases h : IsConvertible line
  · have hlength := length_lineValues line
    rw [ofLine_of_isConvertible h]
    show WarnsOfLast line (oddWarning (lineValues line))
    rcases List.eq_nil_or_concat (tokens line) with hnone | ⟨before, last, hsplit⟩
    · rw [oddWarning, lineValues, hnone]
      refine .none fun hodd => ?_
      rw [hnone] at hodd
      cases hodd.2
    · have hlast : (lineValues line).getLast? = some last.decimal := by
        rw [lineValues, hsplit, List.concat_eq_append, List.map_append]
        exact List.getLast?_concat
      rw [oddWarning, hlast]
      simp only [hlength]
      split
      · next hodd =>
        rw [List.concat_eq_append] at hsplit
        exact .dropped h hsplit hodd
      · next heven => exact .none fun hodd => heven hodd.2
  · obtain ⟨fault, hvalues⟩ := exists_values_eq_error h
    rw [ofLine_of_values_eq_error hvalues]
    exact .none fun hodd => h hodd.1

/-! ## What a text gives -/

/-- Why a text gives no series: it has no data line, or this gives none. -/
inductive Fails (text : String) : Fault → Prop where
  | noDataLine (blank : IsBlank text) : Fails text .noDataLine
  | dataLine {line : List Char} {later : List (List Char)} {fault : Fault}
      (data : IsDataLine text line later) (fails : LineFails line fault) : Fails text fault

/-- The warning about the lines behind the data line, if some of them are not blank. -/
inductive WarnsOfLater (later : List (List Char)) : List Warning → Prop where
  | ignored (written : 0 < later.countP (!allBlank ·)) :
      WarnsOfLater later [.linesIgnored (later.countP (!allBlank ·))]
  | none (blank : later.countP (!allBlank ·) = 0) : WarnsOfLater later []

/-- A text gives a series when its data line does. -/
theorem ofText_eq_ok_iff {text : String} {series : Series} : (ofText text).1 = .ok series ↔
    ∃ line later, IsDataLine text line later ∧ IsConvertible line ∧ 2 ≤ (tokens line).length ∧
      IsPaired (lineValues line) series := by
  constructor
  · intro hseries
    rcases isBlank_or_isDataLine text with hblank | ⟨line, later, hline⟩
    · rw [hblank.ofText_eq] at hseries
      cases hseries
    · rw [hline.ofText_fst] at hseries
      exact ⟨line, later, hline, ofLine_eq_ok_iff.1 hseries⟩
  · rintro ⟨line, later, hline, hseries⟩
    rw [hline.ofText_fst]
    exact ofLine_eq_ok_iff.2 hseries

/-- A text fails for the reason that is laid down for it. -/
theorem ofText_eq_error_iff {text : String} {fault : Fault} :
    (ofText text).1 = .error fault ↔ Fails text fault := by
  constructor
  · intro hfault
    rcases isBlank_or_isDataLine text with hblank | ⟨line, later, hline⟩
    · rw [hblank.ofText_eq] at hfault
      obtain rfl := Except.error.inj hfault
      exact .noDataLine hblank
    · rw [hline.ofText_fst] at hfault
      exact .dataLine hline (ofLine_eq_error_iff.1 hfault)
  · intro hfails
    cases hfails with
    | noDataLine hblank => rw [hblank.ofText_eq]
    | dataLine hline hfails =>
      rw [hline.ofText_fst]
      exact ofLine_eq_error_iff.2 hfails

/-- The warnings of later lines come in front of that of the last value. -/
theorem IsDataLine.exists_warnings {text : String} {line : List Char} {later : List (List Char)}
    (h : IsDataLine text line later) : ∃ ofLater ofLast, (ofText text).2 = ofLater ++ ofLast ∧
      WarnsOfLater later ofLater ∧ WarnsOfLast line ofLast := by
  refine ⟨_, _, h.ofText_snd, ?_, warnsOfLast_ofLine line⟩
  split
  · next hblank =>
    refine .none ?_
    rw [List.countP_eq_zero]
    intro blank hmem
    rw [List.all_eq_true.1 hblank blank hmem]
    exact Bool.false_ne_true
  · next hwritten =>
    refine .ignored ?_
    rw [List.countP_pos_iff]
    simpa using hwritten

/-- The series of a text. The data line alone decides it, whatever follows behind a line end. There is one
if there is a data line of at least two numbers that all have values, and its points are the pairs of these
values. The warnings are about the later lines, if any is not blank, and then about a last value without
partner. -/
theorem ofText_decided_by_dataLine :
    (∀ p s : String, (∃ line ∈ lines p.toList, allBlank line = false) →
      (ofText (p ++ "\n" ++ s)).1 = (ofText p).1) ∧
    ∀ text : String,
      (∀ series, (ofText text).1 = .ok series ↔ ∃ line later, IsDataLine text line later ∧
        IsConvertible line ∧ 2 ≤ (tokens line).length ∧ IsPaired (lineValues line) series) ∧
      (∀ fault, (ofText text).1 = .error fault ↔ Fails text fault) ∧
      (∀ line later, IsDataLine text line later → ∃ ofLater ofLast,
        (ofText text).2 = ofLater ++ ofLast ∧ WarnsOfLater later ofLater ∧ WarnsOfLast line ofLast) ∧
      (IsBlank text → (ofText text).2 = []) := by
  constructor
  · rintro p s ⟨line, hline, hwritten⟩
    rcases isBlank_or_isDataLine p with hblank | ⟨data, later, hdata⟩
    · rw [hblank line hline] at hwritten
      cases hwritten
    · obtain ⟨data', later', hdata', htokens⟩ := hdata.exists_append s
      rw [hdata.ofText_fst, hdata'.ofText_fst, ofLine_congr htokens]
  · intro text
    refine ⟨fun _ => ofText_eq_ok_iff, fun _ => ofText_eq_error_iff, fun _ _ h => h.exists_warnings, ?_⟩
    intro hblank
    rw [hblank.ofText_eq]

/-- A text whose data line stands behind a blank one and ends in a CR, first without anything behind it and
then with another line. -/
theorem ofText_decided_odd :
    let p := "\u3000\n1,2;3\r"
    (∃ line ∈ lines p.toList, allBlank line = false) ∧
      (ofText (p ++ "\n" ++ "x 9")).1 = (ofText p).1 ∧
      IsDataLine (p ++ "\n" ++ "x 9") "1,2;3".toList ["x 9".toList] ∧
      (∃ ofLater ofLast, (ofText (p ++ "\n" ++ "x 9")).2 = ofLater ++ ofLast ∧
        WarnsOfLater ["x 9".toList] ofLater ∧ WarnsOfLast "1,2;3".toList ofLast) ∧
      IsBlank "\n" ∧ (ofText "\n").2 = [] := by
  intro p
  have hwritten : ∃ line ∈ lines p.toList, allBlank line = false :=
    ⟨"1,2;3\r".toList, by decide, by decide⟩
  have hlines : lines (p ++ "\n" ++ "x 9").toList
      = ["\u3000".toList] ++ "1,2;3".toList :: ["x 9".toList] := by decide
  have hdata : IsDataLine (p ++ "\n" ++ "x 9") "1,2;3".toList ["x 9".toList] :=
    ⟨⟨_, hlines, List.forall_mem_singleton.2 (by decide)⟩, by decide⟩
  have hblank : IsBlank "\n" := List.forall_mem_singleton.2 (by decide)
  obtain ⟨hsame, htext⟩ := ofText_decided_by_dataLine
  exact ⟨hwritten, hsame p "x 9" hwritten, hdata, (htext _).2.2.1 _ _ hdata, hblank,
    (htext "\n").2.2.2 hblank⟩

end Series

end SlideDeck
