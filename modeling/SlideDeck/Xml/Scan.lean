import SlideDeck.Xml.Escape
import SlideDeck.Xml.Tag

/-!
# Elements and their attributes

`scan` lists the elements of a document in the order of their start tags, up to the first piece of
markup that is not well formed or the first end tag that does not end the innermost open element.
Elements that are still open at the end are no fault. The attributes of an element are read one by
one, and what is no attribute is passed over.
-/

namespace SlideDeck.Xml

/-! ## Elements -/

/-- The elements of a document, and whether the whole document could be read. -/
structure Scan where
  elements : List Element
  complete : Bool
deriving Repr, DecidableEq

/-- A further element before these. -/
def Scan.cons (element : Element) (rest : Scan) : Scan :=
  { rest with elements := element :: rest.elements }

/-- The elements of a sequence of tags, with the names of the elements that are open before it, the
innermost first. -/
def nest (opened : List (List Char)) (complete : Bool) : List Tag → Scan
  | [] => ⟨[], complete⟩
  | .opening element :: rest => (nest (element.name :: opened) complete rest).cons element
  | .empty element :: rest => (nest opened complete rest).cons element
  | .closing name :: rest =>
    match opened with
    | [] => ⟨[], false⟩
    | innermost :: opened => if name = innermost then nest opened complete rest else ⟨[], false⟩

/-- The elements of a document. -/
def scan (text : String) : Scan :=
  let found := tags text.toList
  nest [] found.complete found.tags

/-- What follows the first colon of a name, or the whole name if there is none. -/
def localName (name : List Char) : List Char :=
  match name.dropWhile (· != ':') with
  | [] => name
  | _ :: rest => rest

/-- Whether the local name of an element is the given one. -/
def Element.isNamed (element : Element) (name : String) : Bool :=
  localName element.name == name.toList

/-! ## Attributes -/

/-- Whether a character ends the name of an attribute. -/
def endsKey (c : Char) : Bool := c = '=' || isSpace c

theorem length_dropWhile_le (p : Char → Bool) (text : List Char) :
    (text.dropWhile p).length ≤ text.length := (List.dropWhile_sublist p).length_le

/-- What the text after the name of an attribute holds. -/
inductive AfterKey where
  /-- Nothing more. -/
  | nothing
  /-- An equals sign, and what follows it. -/
  | equals (rest : List Char)
  /-- Something else, from the next character that is not blank. -/
  | other (rest : List Char)

/-- What follows the name of an attribute, past blanks. -/
def afterKey (text : List Char) : AfterKey :=
  match text.dropWhile isSpace with
  | [] => .nothing
  | c :: rest => if c = '=' then .equals rest else .other (c :: rest)

/-- What the text after the equals sign of an attribute holds. -/
inductive AfterEquals where
  /-- No value, or one whose closing quote is missing. -/
  | nothing
  /-- A value between quotes, and what follows it. -/
  | value (written rest : List Char)
  /-- Something without quotes, and what follows it from the next blank on. -/
  | other (rest : List Char)

/-- What follows the equals sign of an attribute, past blanks. -/
def afterEquals (text : List Char) : AfterEquals :=
  match text.dropWhile isSpace with
  | [] => .nothing
  | quote :: rest =>
    if quote = '"' ∨ quote = '\'' then
      match rest.dropWhile (· != quote) with
      | [] => .nothing
      | _ :: after => .value (rest.takeWhile (· != quote)) after
    else .other (rest.dropWhile (!isSpace ·))

/-- Reading past the equals sign of an attribute leaves no more text than there was. -/
theorem length_of_afterKey_equals {text rest : List Char} (h : afterKey text = .equals rest) :
    rest.length ≤ text.length := by
  have hle := length_dropWhile_le isSpace text
  unfold afterKey at h
  split at h
  · simp at h
  · next heq =>
    rw [heq] at hle
    split at h
    · simp only [AfterKey.equals.injEq] at h
      subst h
      exact Nat.le_of_succ_le hle
    · simp at h

/-- Nor does reading past a key with no equals sign. -/
theorem length_of_afterKey_other {text rest : List Char} (h : afterKey text = .other rest) :
    rest.length ≤ text.length := by
  have hle := length_dropWhile_le isSpace text
  unfold afterKey at h
  split at h
  · simp at h
  · next heq =>
    rw [heq] at hle
    split at h
    · simp at h
    · simp only [AfterKey.other.injEq] at h
      exact h ▸ hle

/-- Nor does reading a quoted value. -/
theorem length_of_afterEquals_value {text written rest : List Char}
    (h : afterEquals text = .value written rest) : rest.length ≤ text.length := by
  have hle := length_dropWhile_le isSpace text
  unfold afterEquals at h
  split at h
  · simp at h
  · next quote tail heq =>
    rw [heq] at hle
    have hquote := length_dropWhile_le (· != quote) tail
    split at h
    · split at h
      · simp at h
      · next hdrop =>
        rw [hdrop] at hquote
        simp only [AfterEquals.value.injEq] at h
        simp only [List.length_cons] at hle hquote
        rw [← h.2]
        omega
    · simp at h

/-- Nor does reading past a value that is not quoted. -/
theorem length_of_afterEquals_other {text rest : List Char}
    (h : afterEquals text = .other rest) : rest.length ≤ text.length := by
  have hle := length_dropWhile_le isSpace text
  unfold afterEquals at h
  split at h
  · simp at h
  · next quote tail heq =>
    rw [heq] at hle
    have hblank := length_dropWhile_le (!isSpace ·) tail
    split at h
    · split at h <;> simp at h
    · simp only [AfterEquals.other.injEq] at h
      simp only [List.length_cons] at hle
      rw [← h]
      omega

/-- The attributes in the rest of a tag, with their values as they are written. A name without a
value, a value without quotes and a name that was there before are passed over, the latter with all
up to the next blank behind its equals sign. -/
def readAttributes (seen : List (List Char)) (text : List Char) : List (List Char × List Char) :=
  match _htext : text.dropWhile isSpace with
  | [] => []
  | first :: tail =>
    let key := first :: tail.takeWhile (!endsKey ·)
    match _hkey : afterKey (tail.dropWhile (!endsKey ·)) with
    | .nothing => []
    | .other rest => readAttributes seen rest
    | .equals rest =>
      if key ∈ seen then readAttributes seen (rest.dropWhile (!isSpace ·))
      else match _hvalue : afterEquals rest with
        | .nothing => []
        | .value written after => (key, written) :: readAttributes (key :: seen) after
        | .other after => readAttributes (key :: seen) after
termination_by text.length
decreasing_by
  all_goals
    have hstart := length_dropWhile_le isSpace text
    have hname := length_dropWhile_le (!endsKey ·) tail
    rw [_htext, List.length_cons] at hstart
  · have := length_of_afterKey_other _hkey
    omega
  · have := length_of_afterKey_equals _hkey
    have := length_dropWhile_le (!isSpace ·) rest
    omega
  · have := length_of_afterKey_equals _hkey
    have := length_of_afterEquals_value _hvalue
    omega
  · have := length_of_afterKey_equals _hkey
    have := length_of_afterEquals_other _hvalue
    omega

/-- The attributes of an element in order, with their values as they are written. -/
def Element.attributes (element : Element) : List (List Char × List Char) :=
  readAttributes [] element.rest

/-- The value of an attribute, named with its prefix, if it is there and can be read. -/
def Element.attribute? (element : Element) (name : String) : Option String := do
  let written ← element.attributes.lookup name.toList
  let value ← unescape? written
  pure (String.ofList value)

end SlideDeck.Xml
