import SlideDeck.Text.Find

/-!
# The tags of an XML document

`tags` finds the tags of a document one after the other, without a check that they nest. What stands
between two pieces of markup is ignored, as are comments, character data, document types and
processing instructions, each of which must be well formed. The list ends early at the first piece
of markup that is not.
-/

namespace SlideDeck.Xml

/-- The blanks of XML. -/
def isSpace (c : Char) : Bool := c = ' ' || c = '\t' || c = '\n' || c = '\r'

/-- An element as its tag shows it: its name, and the rest of the tag, where the attributes are. -/
structure Element where
  name : List Char
  rest : List Char
deriving Repr, DecidableEq

/-- A tag. -/
inductive Tag where
  | opening (element : Element)
  | empty (element : Element)
  | closing (name : List Char)
deriving Repr, DecidableEq

/-- What precedes and what follows the first `>` that is not between quotes. -/
def takeTag (quote : Option Char) : List Char → Option (List Char × List Char)
  | [] => none
  | c :: rest =>
    let continueWith (quote : Option Char) := (takeTag quote rest).map fun (a, b) => (c :: a, b)
    match quote with
    | some q => continueWith (if c = q then none else some q)
    | none =>
      if c = '>' then some ([], rest)
      else continueWith (if c = '"' ∨ c = '\'' then some c else none)

/-- What precedes and what follows the first `>` before which as many `<` as `>` stand. -/
def takeBalanced (depth : Nat) : List Char → Option (List Char × List Char)
  | [] => none
  | c :: rest =>
    let continueWith (depth : Nat) := (takeBalanced depth rest).map fun (a, b) => (c :: a, b)
    if c = '<' then continueWith (depth + 1)
    else if c = '>' then if depth = 0 then some ([], rest) else continueWith (depth - 1)
    else continueWith depth

/-- What precedes and what follows the first `>`; without one, the whole text precedes it. -/
def takeAngle (text : List Char) : List Char × List Char :=
  (text.takeWhile (· != '>'), (text.dropWhile (· != '>')).drop 1)

/-- Whether a text starts with a word, in any mixture of ASCII cases. -/
def startsWithWord (word text : List Char) : Bool :=
  (text.take word.length).map Char.toUpper == word

/-- The rest after a declaration whose `<!` has been read: a comment, a section of character data or
a document type. -/
def skipDeclaration? : List Char → Option (List Char)
  | '-' :: '-' :: rest => (Text.cutFirst ['-', '-', '>'] rest).map (·.2)
  | '[' :: rest => do
    let (content, after) ← Text.cutFirst [']', ']', '>'] rest
    if startsWithWord "CDATA[".toList content then some after else none
  | c :: rest =>
    if c = 'D' ∨ c = 'd' then do
      let (content, after) ← takeBalanced 0 rest
      let isType := startsWithWord "OCTYPE".toList content && !(content.drop 6).all isSpace
      if isType then some after else none
    else none
  | [] => none

/-- The rest after a processing instruction whose `<?` has been read. It ends in `?` and holds
something before that. -/
def skipInstruction? (text : List Char) : Option (List Char) :=
  let (content, after) := takeAngle text
  if 2 ≤ content.length ∧ content.getLast? = some '?' then some after else none

/-- The name at the end of an end tag, without the blanks behind it; a name of blanks only stays. -/
def closingName (content : List Char) : List Char :=
  let name := (content.reverse.dropWhile isSpace).reverse
  if name.isEmpty then content else name

/-- The tag with this content between `<` and `>`. A slash at the end makes it an empty tag. -/
def tagOf (content : List Char) : Tag :=
  let element (content : List Char) : Element :=
    ⟨content.takeWhile (!isSpace ·), content.dropWhile (!isSpace ·)⟩
  if content.getLast? = some '/' then .empty (element content.dropLast)
  else .opening (element content)

/-- The piece of markup at the start of a text whose `<` has been read: the tag, if it is one, and
the rest. -/
def markup? : List Char → Option (Option Tag × List Char)
  | '!' :: rest => (skipDeclaration? rest).map (none, ·)
  | '?' :: rest => (skipInstruction? rest).map (none, ·)
  | '/' :: rest =>
    let (content, after) := takeAngle rest
    some (some (.closing (closingName content)), after)
  | text => (takeTag none text).map fun (content, after) => (some (tagOf content), after)

/-! ## Every piece of markup shortens the text -/

/-- Reading a tag takes text. -/
theorem takeTag_length {quote : Option Char} {text a b : List Char}
    (h : takeTag quote text = some (a, b)) : b.length < text.length := by
  induction text generalizing quote a with
  | nil => simp [takeTag] at h
  | cons c rest ih =>
    have hmap : ∀ {q}, (takeTag q rest).map (fun (a, b) => (c :: a, b)) = some (a, b) →
        b.length < (c :: rest).length := by
      intro q hq
      obtain ⟨⟨a', b'⟩, hrest, heq⟩ := Option.map_eq_some_iff.1 hq
      obtain ⟨rfl, rfl⟩ := by simpa using heq
      exact Nat.lt_succ_of_lt (ih hrest)
    cases quote with
    | some q => exact hmap h
    | none =>
      simp only [takeTag] at h
      split at h
      · obtain ⟨rfl, rfl⟩ := by simpa using h
        simp
      · exact hmap h

/-- So does reading to a balanced angle. -/
theorem takeBalanced_length {depth : Nat} {text a b : List Char}
    (h : takeBalanced depth text = some (a, b)) : b.length < text.length := by
  induction text generalizing depth a with
  | nil => simp [takeBalanced] at h
  | cons c rest ih =>
    have hmap : ∀ {d}, (takeBalanced d rest).map (fun (a, b) => (c :: a, b)) = some (a, b) →
        b.length < (c :: rest).length := by
      intro q hq
      obtain ⟨⟨a', b'⟩, hrest, heq⟩ := Option.map_eq_some_iff.1 hq
      obtain ⟨rfl, rfl⟩ := by simpa using heq
      exact Nat.lt_succ_of_lt (ih hrest)
    simp only [takeBalanced] at h
    split at h
    · exact hmap h
    · split at h
      · split at h
        · obtain ⟨rfl, rfl⟩ := by simpa using h
          simp
        · exact hmap h
      · exact hmap h

/-- Reading to an angle leaves no more text than there was. -/
theorem takeAngle_length (text : List Char) : (takeAngle text).2.length ≤ text.length := by
  have hsplit := congrArg List.length
    (List.takeWhile_append_dropWhile (p := (· != '>')) (l := text))
  rw [List.length_append] at hsplit
  simp only [takeAngle, List.length_drop]
  omega

/-- Nor does searching a pattern. -/
theorem cutFirst_length {pattern text a b : List Char}
    (h : Text.cutFirst pattern text = some (a, b)) : b.length ≤ text.length := by
  rw [Text.eq_of_cutFirst h]
  simp only [List.length_append]
  omega

/-- Nor does skipping a declaration. -/
theorem skipDeclaration?_length {text rest : List Char} (h : skipDeclaration? text = some rest) :
    rest.length ≤ text.length := by
  unfold skipDeclaration? at h
  split at h
  · obtain ⟨⟨a, b⟩, hcut, rfl⟩ := Option.map_eq_some_iff.1 h
    have := cutFirst_length hcut
    simp only [List.length_cons]
    omega
  · simp only [Option.bind_eq_bind, Option.bind_eq_some_iff, Prod.exists] at h
    obtain ⟨a, b, hcut, h⟩ := h
    have := cutFirst_length hcut
    split at h
    · simp only [Option.some.injEq] at h
      simp only [List.length_cons, ← h]
      omega
    · simp at h
  · split at h
    · simp only [Option.bind_eq_bind, Option.bind_eq_some_iff, Prod.exists] at h
      obtain ⟨a, b, hcut, h⟩ := h
      have := takeBalanced_length hcut
      split at h
      · simp only [Option.some.injEq] at h
        simp only [List.length_cons, ← h]
        omega
      · simp at h
    · simp at h
  · simp at h

/-- Nor does skipping an instruction. -/
theorem skipInstruction?_length {text rest : List Char} (h : skipInstruction? text = some rest) :
    rest.length ≤ text.length := by
  simp only [skipInstruction?] at h
  split at h
  · simp only [Option.some.injEq] at h
    exact h ▸ takeAngle_length text
  · simp at h

/-- Nor does reading markup. -/
theorem markup?_length {text rest : List Char} {tag : Option Tag}
    (h : markup? text = some (tag, rest)) : rest.length ≤ text.length := by
  unfold markup? at h
  split at h
  · obtain ⟨_, hskip, heq⟩ := Option.map_eq_some_iff.1 h
    obtain ⟨rfl, rfl⟩ := by simpa using heq
    exact Nat.le_succ_of_le (skipDeclaration?_length hskip)
  · obtain ⟨_, hskip, heq⟩ := Option.map_eq_some_iff.1 h
    obtain ⟨rfl, rfl⟩ := by simpa using heq
    exact Nat.le_succ_of_le (skipInstruction?_length hskip)
  · next rest₀ =>
    obtain ⟨_, rfl⟩ := by simpa using h
    exact Nat.le_succ_of_le (takeAngle_length rest₀)
  · obtain ⟨_, htag, heq⟩ := Option.map_eq_some_iff.1 h
    obtain ⟨_, rfl⟩ := by simpa using heq
    exact Nat.le_of_lt (takeTag_length htag)

/-! ## The tags of a text -/

/-- The tags of a document, and whether all of it was well formed. -/
structure Tags where
  tags : List Tag
  complete : Bool
deriving Repr, DecidableEq

/-- A further piece of markup before these. -/
def Tags.cons (tag : Option Tag) (rest : Tags) : Tags := { rest with tags := tag.toList ++ rest.tags }

/-- The tags of a document in order, up to the first piece of markup that is not well formed. A `<`
at the very end is no markup. -/
def tags (text : List Char) : Tags :=
  match text with
  | [] => ⟨[], true⟩
  | c :: rest =>
    if c = '<' then
      if rest = [] then ⟨[], true⟩
      else match _h : markup? rest with
        | none => ⟨[], false⟩
        | some (tag, after) => (tags after).cons tag
    else tags rest
termination_by text.length
decreasing_by
  · have := markup?_length _h
    simp only [List.length_cons]
    omega
  · simp

end SlideDeck.Xml
