import SlideDeck.Proofs.Number.Digits
import SlideDeck.Xml.Markup
import SlideDeck.Xml.Scan

/-!
# Documents that can be read back

A printed tree can be read back if its names are names and no value of an attribute ends its own
quotes. For such a tree this module says what the readers of tags and of attributes make of each tag:
`takeTag_opening`, `tagOf_opening`, `tagOf_empty` and `readAttributes_chars`.
-/

namespace SlideDeck.Xml

/-! ## Names and attributes -/

/-- Whether a character ends no name, wherever it stands. -/
def isNameChar (c : Char) : Bool :=
  !isSpace c && c != '<' && c != '>' && c != '/' && c != '=' && c != '"' && c != '\''

/-- Whether a text is a name: there is something of it, and it does not start other markup. -/
def isName (name : List Char) : Bool :=
  !name.isEmpty && name.all isNameChar && name.head? != some '!' && name.head? != some '?'

/-- Whether an attribute can be read back: its value does not end the quotes around it. -/
def Attribute.isPlain (a : Attribute) : Bool :=
  isName a.name.toList && a.written.toList.all (· != '"')

/-- Whether attributes can be read back: no name occurs twice. -/
def arePlain (attributes : List Attribute) : Bool :=
  attributes.all Attribute.isPlain && decide (attributes.map fun a => a.name.toList).Nodup

mutual

/-- Whether a piece of a document can be read back. -/
def Node.isPlain : Node → Bool
  | .text _ => true
  | .empty name attributes => isName name.toList && arePlain attributes
  | .element name attributes children =>
    isName name.toList && arePlain attributes && allPlain children

/-- Whether pieces of a document can be read back. -/
def allPlain : List Node → Bool
  | [] => true
  | node :: rest => node.isPlain && allPlain rest

end

/-- Nodes in two lists are plain when those of each are. -/
theorem allPlain_append (a b : List Node) : allPlain (a ++ b) = (allPlain a && allPlain b) := by
  induction a with
  | nil => simp [allPlain]
  | cons node rest ih => simp [allPlain, ih, Bool.and_assoc]

/-- A list is plain when every node of it is. -/
theorem allPlain_eq_true_iff {nodes : List Node} :
    allPlain nodes = true ↔ ∀ node ∈ nodes, node.isPlain = true := by
  induction nodes with
  | nil => simp [allPlain]
  | cons node rest ih => simp [allPlain, ih]

/-- A name is of name characters and begins like no other markup. -/
theorem isName_iff {name : List Char} : isName name = true ↔
    ∃ first rest, name = first :: rest ∧ (∀ c ∈ name, isNameChar c = true) ∧ first ≠ '!' ∧
      first ≠ '?' := by
  cases name with
  | nil => simp [isName]
  | cons first rest => simp [isName, and_assoc]

/-- No name character is a blank. -/
theorem isSpace_eq_false_of_isNameChar {c : Char} (h : isNameChar c = true) : isSpace c = false := by
  simp only [isNameChar, Bool.and_eq_true, Bool.not_eq_true', bne_iff_ne] at h
  exact h.1.1.1.1.1.1

/-- A name character differs from one that is none. -/
theorem ne_of_isNameChar {c d : Char} (h : isNameChar c = true) (hd : isNameChar d = false) :
    c ≠ d := by
  rintro rfl
  rw [h] at hd
  exact absurd hd (by decide)

/-! ## Escaped text -/

/-- Escaping leaves none of the characters with a meaning in markup, but for the start of entities. -/
theorem not_mem_escape {c : Char} (hc : c = '<' ∨ c = '>' ∨ c = '"' ∨ c = '\'') (text : List Char) :
    c ∉ escape text := by
  intro h
  obtain ⟨d, -, hd⟩ := List.mem_flatMap.1 h
  by_cases hentity : d = '<' ∨ d = '>' ∨ d = '\'' ∨ d = '&' ∨ d = '"'
  · rcases hentity with rfl | rfl | rfl | rfl | rfl <;> rcases hc with rfl | rfl | rfl | rfl <;>
      simp [escapeChar] at hd
  · simp only [not_or] at hentity
    obtain ⟨h₁, h₂, h₃, h₄, h₅⟩ := hentity
    have hcd : c = d := by simpa [escapeChar, h₁, h₂, h₃, h₄, h₅] using hd
    rcases hc with hc | hc | hc | hc
    · exact h₁ (hcd ▸ hc)
    · exact h₂ (hcd ▸ hc)
    · exact h₅ (hcd ▸ hc)
    · exact h₃ (hcd ▸ hc)

/-- An attribute with an escaped value is plain if its name is one. -/
theorem Attribute.isPlain_escaped {name : String} (h : isName name.toList = true) (value : String) :
    (Attribute.escaped name value).isPlain = true := by
  have hquote : '"' ∉ escape value.toList := not_mem_escape (by simp) _
  simp only [isPlain, escaped, String.toList_ofList, h, Bool.true_and, List.all_eq_true, bne_iff_ne]
  rintro c hc rfl
  exact hquote hc

/-- Whether a character is a control character of the first column of the code table, and neither a tab nor
one of the two that end lines. Those from U+007F on may stand in a document. -/
def isControl (c : Char) : Bool := decide (c.toNat < 0x20) && c != '\t' && c != '\n' && c != '\r'

/-- The text that is left of a text when it is written into a document and read back: that without control
characters. -/
def carried (text : String) : String := String.ofList (text.toList.filter fun c => !isControl c)

/-- Whether a document can carry all of a text. -/
def IsCarried (text : String) : Prop := ∀ c ∈ text.toList, isCarried c = true

/-- The characters that escaping keeps are those that are no control characters. -/
theorem isCarried_eq_not_isControl (c : Char) : isCarried c = !isControl c := by
  by_cases htab : c = '\t'
  · simp [isCarried, isControl, htab]
  by_cases hfeed : c = '\n'
  · simp [isCarried, isControl, hfeed]
  by_cases hreturn : c = '\r'
  · simp [isCarried, isControl, hreturn]
  by_cases hlow : c.toNat < 0x20
  · have hnot : ¬0x20 ≤ c.toNat := by omega
    simp [isCarried, isControl, htab, hfeed, hreturn, hlow, hnot]
  · have hhigh : 0x20 ≤ c.toNat := by omega
    simp [isCarried, isControl, hlow, hhigh]

/-- What is carried of a text is all but its control characters. -/
theorem toList_carried (text : String) :
    (carried text).toList = text.toList.filter fun c => !isControl c := String.toList_ofList

/-- Escaping keeps of a text what a document carries of it. -/
theorem filter_isCarried (text : String) : text.toList.filter isCarried = (carried text).toList := by
  have hsame : isCarried = fun c => !isControl c := funext isCarried_eq_not_isControl
  rw [toList_carried, hsame]

/-- Unescaping gives back what a document carries of a text. -/
theorem unescape?_escape_toList (text : String) :
    (unescape? (escape text.toList)).map String.ofList = some (carried text) := by
  rw [unescape?_escape, filter_isCarried, Option.map_some, String.ofList_toList]

/-- A text that can be carried whole is. -/
theorem carried_eq_self {text : String} (h : IsCarried text) : carried text = text := by
  rw [← String.ofList_toList (s := carried text), ← filter_isCarried, List.filter_eq_self.2 h,
    String.ofList_toList]

/-- The value of an escaped attribute reads back as what is carried of it. -/
theorem unescape?_escaped (name value : String) :
    (unescape? (Attribute.escaped name value).written.toList).map String.ofList
      = some (carried value) := by
  rw [Attribute.escaped, String.toList_ofList, unescape?_escape_toList]

instance (text : String) : Decidable (IsCarried text) :=
  List.decidableBAll (isCarried · = true) text.toList

/-- Two texts that are carried whole are so in one. -/
theorem IsCarried.append {a b : String} (ha : IsCarried a) (hb : IsCarried b) : IsCarried (a ++ b) := by
  intro c hc
  rw [String.toList_append, List.mem_append] at hc
  exact hc.elim (ha c) (hb c)

/-- Digits are carried. -/
theorem isCarried_of_isDigit {c : Char} (h : c.isDigit = true) : isCarried c = true := by
  rw [Char.isDigit, Bool.and_eq_true, decide_eq_true_eq, decide_eq_true_eq] at h
  have hlow : '0'.toNat ≤ c.toNat := h.1
  have hzero : '0'.toNat = 48 := by decide
  simp [isCarried]
  omega

/-- So numbers are carried whole. -/
theorem isCarried_toString (n : Nat) : IsCarried (toString n) := fun _ hc =>
  isCarried_of_isDigit (Number.isDigit_of_mem_toString hc)

/-! ## Tags -/

/-- Text without quotes and without `>` is part of the tag. -/
theorem takeTag_append {text : List Char} (h : ∀ c ∈ text, c ≠ '>' ∧ c ≠ '"' ∧ c ≠ '\'')
    (rest : List Char) :
    takeTag none (text ++ rest) = (takeTag none rest).map fun (a, b) => (text ++ a, b) := by
  induction text with
  | nil => simp
  | cons c text ih =>
    obtain ⟨hangle, hdouble, hsingle⟩ := h c List.mem_cons_self
    rw [List.cons_append, takeTag]
    simp only [hangle, hdouble, hsingle, or_self, ite_false]
    rw [ih fun d hd => h d (List.mem_cons_of_mem c hd), Option.map_map]
    rfl

/-- A value and the quote behind it are part of the tag. -/
theorem takeTag_value {value : List Char} (h : '"' ∉ value) (rest : List Char) :
    takeTag (some '"') (value ++ '"' :: rest)
      = (takeTag none rest).map fun (a, b) => (value ++ '"' :: a, b) := by
  induction value with
  | nil => simp [takeTag]
  | cons c value ih =>
    rw [List.mem_cons, not_or] at h
    rw [List.cons_append, takeTag]
    simp only [Ne.symm h.1, ite_false]
    rw [ih h.2, Option.map_map]
    rfl

/-- Names are made of name characters. -/
theorem nameChars_of_isName {name : List Char} (h : isName name = true) :
    ∀ c ∈ name, isNameChar c = true := by
  obtain ⟨_, _, _, hall, _, _⟩ := isName_iff.1 h
  exact hall

/-- An attribute is plain when its name is one and no quote stands in its value. -/
theorem Attribute.isPlain_iff {a : Attribute} :
    a.isPlain = true ↔ isName a.name.toList = true ∧ '"' ∉ a.written.toList := by
  rw [isPlain, Bool.and_eq_true, List.all_eq_true]
  refine and_congr_right fun _ => ⟨fun h hmem => by simpa using h _ hmem, fun h c hc => ?_⟩
  rw [bne_iff_ne]
  rintro rfl
  exact h hc

/-- A tag is read on behind a plain attribute. -/
theorem takeTag_attribute {a : Attribute} (h : a.isPlain = true) (rest : List Char) :
    takeTag none (a.chars ++ rest) = (takeTag none rest).map fun (x, y) => (a.chars ++ x, y) := by
  obtain ⟨hname, hvalue⟩ := Attribute.isPlain_iff.1 h
  have hstart : ∀ c ∈ ' ' :: (a.name.toList ++ ['=']), c ≠ '>' ∧ c ≠ '"' ∧ c ≠ '\'' := by
    intro c hc
    rcases List.mem_cons.1 hc with rfl | hc
    · decide
    rcases List.mem_append.1 hc with hc | hc
    · have hchar := nameChars_of_isName hname c hc
      exact ⟨ne_of_isNameChar hchar (by decide), ne_of_isNameChar hchar (by decide),
        ne_of_isNameChar hchar (by decide)⟩
    · rw [List.mem_singleton] at hc
      subst hc
      decide
  have hchars : ∀ x, a.chars ++ x
      = (' ' :: (a.name.toList ++ ['='])) ++ '"' :: (a.written.toList ++ '"' :: x) := by
    intro x
    simp [Attribute.chars]
  rw [hchars, takeTag_append hstart, takeTag]
  simp only [ite_false, true_or, ite_true, show ('"' : Char) ≠ '>' by decide]
  rw [takeTag_value hvalue, Option.map_map, Option.map_map]
  refine congrArg (fun f => (takeTag none rest).map f) (funext fun p => ?_)
  simp [hchars p.1]

/-- So it is behind all attributes. -/
theorem takeTag_attributes {attributes : List Attribute}
    (h : ∀ a ∈ attributes, a.isPlain = true) (rest : List Char) :
    takeTag none (attributes.flatMap Attribute.chars ++ rest)
      = (takeTag none rest).map fun (x, y) => (attributes.flatMap Attribute.chars ++ x, y) := by
  induction attributes with
  | nil => simp
  | cons a attributes ih =>
    rw [List.flatMap_cons, List.append_assoc, takeTag_attribute (h a List.mem_cons_self),
      ih fun b hb => h b (List.mem_cons_of_mem a hb), Option.map_map]
    refine congrArg (fun f => (takeTag none rest).map f) (funext fun p => ?_)
    simp

/-- Plain attributes are each plain. -/
theorem isPlain_of_arePlain {attributes : List Attribute} (h : arePlain attributes = true) :
    ∀ a ∈ attributes, a.isPlain = true := by
  rw [arePlain, Bool.and_eq_true, List.all_eq_true] at h
  exact h.1

/-- The inside of a start tag is part of the tag. -/
theorem takeTag_opening {name : String} {attributes : List Attribute}
    (hname : isName name.toList = true) (hattributes : arePlain attributes = true)
    (rest : List Char) :
    takeTag none (openingChars name attributes ++ rest)
      = (takeTag none rest).map fun (x, y) => (openingChars name attributes ++ x, y) := by
  have hchars : ∀ c ∈ name.toList, c ≠ '>' ∧ c ≠ '"' ∧ c ≠ '\'' := by
    intro c hc
    have hchar := nameChars_of_isName hname c hc
    exact ⟨ne_of_isNameChar hchar (by decide), ne_of_isNameChar hchar (by decide),
      ne_of_isNameChar hchar (by decide)⟩
  rw [openingChars, List.append_assoc, takeTag_append hchars,
    takeTag_attributes (isPlain_of_arePlain hattributes), Option.map_map]
  refine congrArg (fun f => (takeTag none rest).map f) (funext fun p => ?_)
  simp

/-! ## The name and the attributes of a tag -/

/-- Attributes begin with a blank, if there are any. -/
theorem flatMap_chars_eq (attributes : List Attribute) :
    attributes.flatMap Attribute.chars = [] ∨
      ∃ rest, attributes.flatMap Attribute.chars = ' ' :: rest := by
  cases attributes with
  | nil => exact .inl rfl
  | cons a attributes => exact .inr ⟨_, rfl⟩

/-- The name of a tag ends at its first attribute. -/
theorem takeWhile_opening {name : String} (hname : isName name.toList = true)
    (attributes : List Attribute) :
    (openingChars name attributes).takeWhile (!isSpace ·) = name.toList ∧
      (openingChars name attributes).dropWhile (!isSpace ·) = attributes.flatMap Attribute.chars := by
  have hchars : ∀ c ∈ name.toList, (!isSpace c) = true := fun c hc => by
    rw [isSpace_eq_false_of_isNameChar (nameChars_of_isName hname c hc), Bool.not_false]
  rw [openingChars, List.takeWhile_append_of_pos hchars, List.dropWhile_append_of_pos hchars]
  rcases flatMap_chars_eq attributes with h | ⟨rest, h⟩
  · simp [h]
  · have hblank : isSpace ' ' = true := by decide
    simp [h, hblank]

/-- An opening tag does not end in a slash. -/
theorem getLast?_opening {name : String} (hname : isName name.toList = true)
    (attributes : List Attribute) : (openingChars name attributes).getLast? ≠ some '/' := by
  intro hlast
  rw [openingChars] at hlast
  -- the last character is one of the name, or the quote behind the last value
  rcases List.eq_nil_or_concat attributes with rfl | ⟨before, a, rfl⟩
  · rw [List.flatMap_nil, List.append_nil] at hlast
    have hchar := nameChars_of_isName hname '/' (List.mem_of_getLast? hlast)
    exact absurd hchar (by decide)
  · have hquote : name.toList ++ (before.concat a).flatMap Attribute.chars
        = (name.toList ++ before.flatMap Attribute.chars
          ++ ' ' :: (a.name.toList ++ ['=', '"'] ++ a.written.toList)) ++ ['"'] := by
      simp [Attribute.chars]
    rw [hquote, List.getLast?_concat, Option.some.injEq] at hlast
    exact absurd hlast (by decide)

/-- It is read as opening, with its name and attributes. -/
theorem tagOf_opening {name : String} (hname : isName name.toList = true)
    (attributes : List Attribute) :
    tagOf (openingChars name attributes)
      = .opening ⟨name.toList, attributes.flatMap Attribute.chars⟩ := by
  obtain ⟨htake, hdrop⟩ := takeWhile_opening hname attributes
  rw [tagOf, if_neg (getLast?_opening hname attributes)]
  simp only [htake, hdrop]

/-- With a slash behind, it is read as empty. -/
theorem tagOf_empty {name : String} (hname : isName name.toList = true)
    (attributes : List Attribute) :
    tagOf (openingChars name attributes ++ ['/'])
      = .empty ⟨name.toList, attributes.flatMap Attribute.chars⟩ := by
  obtain ⟨htake, hdrop⟩ := takeWhile_opening hname attributes
  rw [tagOf, if_pos (by simp), List.dropLast_concat]
  simp only [htake, hdrop]

/-! ## Attributes -/

/-- The name of an attribute ends at the equals sign. -/
theorem takeWhile_key {tail : List Char} (h : ∀ c ∈ tail, isNameChar c = true) (rest : List Char) :
    (tail ++ '=' :: rest).takeWhile (!endsKey ·) = tail ∧
      (tail ++ '=' :: rest).dropWhile (!endsKey ·) = '=' :: rest := by
  have hkeys : ∀ c ∈ tail, (!endsKey c) = true := by
    intro c hc
    simp [endsKey, isSpace_eq_false_of_isNameChar (h c hc), ne_of_isNameChar (h c hc) (d := '=') (by decide)]
  have hends : endsKey '=' = true := by decide
  constructor
  · rw [List.takeWhile_append_of_pos hkeys, List.takeWhile_cons_of_neg (by simp [hends]), List.append_nil]
  · rw [List.dropWhile_append_of_pos hkeys, List.dropWhile_cons_of_neg (by simp [hends])]

/-- A value in quotes ends at the next quote. -/
theorem afterEquals_value {value : List Char} (h : '"' ∉ value) (rest : List Char) :
    afterEquals ('"' :: (value ++ '"' :: rest)) = .value value rest := by
  have hquote : isSpace '"' = false := by decide
  have hinside : ∀ c ∈ value, (c != '"') = true := by
    intro c hc
    rw [bne_iff_ne]
    rintro rfl
    exact h hc
  simp [afterEquals, hquote, List.takeWhile_append_of_pos hinside, List.dropWhile_append_of_pos hinside]

/-- The reader of attributes takes a printed attribute whose name is new. -/
theorem readAttributes_cons {a : Attribute} (ha : a.isPlain = true) {seen : List (List Char)}
    (hnew : a.name.toList ∉ seen) (rest : List Char) :
    readAttributes seen (a.chars ++ rest)
      = (a.name.toList, a.written.toList) :: readAttributes (a.name.toList :: seen) rest := by
  obtain ⟨hname, hvalue⟩ := Attribute.isPlain_iff.1 ha
  obtain ⟨first, tail, hcons, hchars, -, -⟩ := isName_iff.1 hname
  have hfirst : isSpace first = false :=
    isSpace_eq_false_of_isNameChar (hchars first (hcons ▸ List.mem_cons_self))
  obtain ⟨htake, hdrop⟩ := takeWhile_key (fun c hc => hchars c (hcons ▸ List.mem_cons_of_mem first hc))
    ('"' :: (a.written.toList ++ '"' :: rest))
  have hstart : (a.chars ++ rest).dropWhile isSpace
      = first :: (tail ++ '=' :: '"' :: (a.written.toList ++ '"' :: rest)) := by
    have hblank : isSpace ' ' = true := by decide
    simp [Attribute.chars, hcons, hblank, hfirst]
  have hequals : afterKey ('=' :: '"' :: (a.written.toList ++ '"' :: rest))
      = .equals ('"' :: (a.written.toList ++ '"' :: rest)) := by
    have hnot : isSpace '=' = false := by decide
    simp [afterKey, hnot]
  have htaken := afterEquals_value hvalue rest
  have hkey : first :: (tail ++ '=' :: '"' :: (a.written.toList ++ '"' :: rest)).takeWhile
      (!endsKey ·) = a.name.toList := by
    rw [htake, hcons]
  -- of each test only the branch of the printed text is left
  rw [readAttributes]
  split
  · next h => simp [hstart] at h
  · next h =>
    rw [hstart, List.cons.injEq] at h
    obtain ⟨rfl, rfl⟩ := h
    simp only [hkey]
    split
    · next h =>
      rw [hdrop, hequals] at h
      cases h
    · next h =>
      rw [hdrop, hequals] at h
      cases h
    · next h =>
      rw [hdrop, hequals, AfterKey.equals.injEq] at h
      subst h
      rw [if_neg hnew]
      split
      · next h => simp [htaken] at h
      · next h =>
        rw [htaken, AfterEquals.value.injEq] at h
        obtain ⟨rfl, rfl⟩ := h
        rfl
      · next h => simp [htaken] at h

/-- Plain attributes with new and different names are read back behind those already seen. -/
theorem readAttributes_chars_of_seen {attributes : List Attribute} {seen : List (List Char)}
    (hplain : ∀ a ∈ attributes, a.isPlain = true)
    (hnew : ∀ a ∈ attributes, a.name.toList ∉ seen)
    (hnodup : (attributes.map fun a => a.name.toList).Nodup) :
    readAttributes seen (attributes.flatMap Attribute.chars)
      = attributes.map fun a => (a.name.toList, a.written.toList) := by
  induction attributes generalizing seen with
  | nil =>
    rw [List.flatMap_nil, readAttributes]
    split
    · rfl
    · next h => simp at h
  | cons a attributes ih =>
    rw [List.map_cons, List.nodup_cons] at hnodup
    rw [List.flatMap_cons, readAttributes_cons (hplain a List.mem_cons_self) (hnew a List.mem_cons_self),
      List.map_cons, ih (fun b hb => hplain b (List.mem_cons_of_mem a hb)) _ hnodup.2]
    intro b hb hseen
    -- a later name is neither that of this attribute nor one seen before
    rcases List.mem_cons.1 hseen with h | h
    · exact hnodup.1 (h ▸ List.mem_map_of_mem hb)
    · exact hnew b (List.mem_cons_of_mem a hb) h

/-- The attributes of a printed tag are read back in order, with their values as they are written. -/
theorem readAttributes_chars {attributes : List Attribute} (h : arePlain attributes = true) :
    readAttributes [] (attributes.flatMap Attribute.chars)
      = attributes.map fun a => (a.name.toList, a.written.toList) := by
  have hplain := isPlain_of_arePlain h
  rw [arePlain, Bool.and_eq_true, decide_eq_true_eq] at h
  exact readAttributes_chars_of_seen hplain (fun _ _ => List.not_mem_nil) h.2

/-! ## Attributes with fixed names -/

/-- Attributes can be read back if their names are fine and no value has a quote in it. -/
theorem arePlain_of_names {attributes : List Attribute} (names : List String)
    (hplain : arePlain (names.map fun name => ⟨name, ""⟩) = true)
    (hnames : attributes.map (·.name) = names)
    (hvalues : ∀ a ∈ attributes, '"' ∉ a.written.toList) : arePlain attributes = true := by
  subst hnames
  rw [arePlain, Bool.and_eq_true, List.all_eq_true, decide_eq_true_eq] at hplain ⊢
  rw [List.map_map, List.map_map] at hplain
  refine ⟨fun a ha => ?_, hplain.2⟩
  have hname := hplain.1 _ (List.mem_map_of_mem ha)
  rw [Attribute.isPlain_iff] at hname ⊢
  exact ⟨hname.1, hvalues a ha⟩

/-- No quote stands in a natural number. -/
theorem not_mem_toString_nat (n : Nat) : '"' ∉ (toString n).toList := fun h =>
  absurd (Number.isDigit_of_mem_toString h) (by decide)

/-- Nor in an integer. -/
theorem not_mem_toString_int (n : Int) : '"' ∉ (toString n).toList := by
  cases n with
  | ofNat n => exact not_mem_toString_nat n
  | negSucc n =>
    intro h
    have htext : (toString (Int.negSucc n)).toList = '-' :: (toString (n + 1)).toList := by
      show ("-" ++ toString (n + 1)).toList = _
      rw [String.toList_append]
      rfl
    rw [htext] at h
    rcases List.mem_cons.1 h with h | h
    · exact absurd h (by decide)
    · exact not_mem_toString_nat _ h

/-- Nor in an escaped value. -/
theorem not_mem_escaped (name value : String) : '"' ∉ (Attribute.escaped name value).written.toList := by
  rw [Attribute.escaped, String.toList_ofList]
  exact not_mem_escape (by simp) _

end SlideDeck.Xml
