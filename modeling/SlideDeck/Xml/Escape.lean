/-!
# Escaping text in XML

`escape` writes a text so that it can stand between tags and between quotes: control characters that
XML cannot carry are dropped and the five characters with a meaning in markup become entities.
`unescape?` reads entities back, and `unescape?_escape` says that it gives the text without the
dropped characters.
-/

namespace SlideDeck.Xml

/-- Whether a character is kept: tab, line feed, carriage return and all from the space on. -/
def isCarried (c : Char) : Bool := c = '\t' || c = '\n' || c = '\r' || 0x20 ≤ c.toNat

/-- A character as it is written: one with a meaning in markup as an entity. -/
def escapeChar (c : Char) : List Char :=
  if c = '<' then ['&', 'l', 't', ';']
  else if c = '>' then ['&', 'g', 't', ';']
  else if c = '\'' then ['&', 'a', 'p', 'o', 's', ';']
  else if c = '&' then ['&', 'a', 'm', 'p', ';']
  else if c = '"' then ['&', 'q', 'u', 'o', 't', ';']
  else [c]

/-- A text as it is written between tags or quotes. -/
def escape (text : List Char) : List Char := (text.filter isCarried).flatMap escapeChar

/-! ## Reading entities -/

/-- The value of a digit in the given base, which is ten or sixteen. -/
def digitIn? (base : Nat) (c : Char) : Option Nat :=
  let value? :=
    if c.isDigit then some (c.toNat - '0'.toNat)
    else if 'a' ≤ c ∧ c ≤ 'f' then some (c.toNat - 'a'.toNat + 10)
    else if 'A' ≤ c ∧ c ≤ 'F' then some (c.toNat - 'A'.toNat + 10)
    else none
  value?.filter (· < base)

/-- The number written by digits in the given base; no digits count as zero. -/
def numberIn? (base : Nat) (digits : List Char) : Option Nat :=
  digits.foldlM (fun value c => (digitIn? base c).map (base * value + ·)) 0

/-- The character with a code point, unless there is none or it is the zero character. -/
def charOf? (code : Nat) : Option Char :=
  if h : code.isValidChar then if code = 0 then none else some (Char.ofNatAux code h) else none

/-- The character of a numeric reference whose `#` has been read: at most seven decimal digits, or
`x` and at most six hexadecimal digits. -/
def reference? : List Char → Option Char
  | 'x' :: digits =>
    if digits.length ≤ 6 then (numberIn? 16 digits).bind charOf? else none
  | digits =>
    if digits.length ≤ 7 then (numberIn? 10 digits).bind charOf? else none

/-- The character of an entity, named by what stands between `&` and `;`. -/
def entity? : List Char → Option Char
  | ['l', 't'] => some '<'
  | ['g', 't'] => some '>'
  | ['a', 'm', 'p'] => some '&'
  | ['a', 'p', 'o', 's'] => some '\''
  | ['q', 'u', 'o', 't'] => some '"'
  | '#' :: digits => reference? digits
  | _ => none

/-- The text with its entities replaced. An `&` that no `;` ends before the next `&` makes it
unreadable, as does an unknown entity. `name` holds what has been read of an entity, in
reverse. -/
def unescapeFrom? (name : Option (List Char)) : List Char → Option (List Char)
  | [] => if name.isNone then some [] else none
  | c :: rest =>
    match name with
    | none =>
      if c = '&' then unescapeFrom? (some []) rest else (unescapeFrom? none rest).map (c :: ·)
    | some read =>
      if c = ';' then do
        let character ← entity? read.reverse
        let text ← unescapeFrom? none rest
        pure (character :: text)
      else if c = '&' then none
      else unescapeFrom? (some (c :: read)) rest

/-- The text with its entities replaced, or nothing if one of them cannot be read. -/
def unescape? (text : List Char) : Option (List Char) := unescapeFrom? none text

/-! ## Unescaping undoes escaping -/

/-- An escaped character is read back, whatever follows. -/
theorem unescapeFrom?_escapeChar (c : Char) (rest : List Char) :
    unescapeFrom? none (escapeChar c ++ rest) = (unescapeFrom? none rest).map (c :: ·) := by
  unfold escapeChar
  split
  · next h => subst h; cases h' : unescapeFrom? none rest <;> simp [unescapeFrom?, entity?, h']
  split
  · next h => subst h; cases h' : unescapeFrom? none rest <;> simp [unescapeFrom?, entity?, h']
  split
  · next h => subst h; cases h' : unescapeFrom? none rest <;> simp [unescapeFrom?, entity?, h']
  split
  · next h => subst h; cases h' : unescapeFrom? none rest <;> simp [unescapeFrom?, entity?, h']
  split
  · next h => subst h; cases h' : unescapeFrom? none rest <;> simp [unescapeFrom?, entity?, h']
  · next h _ => simp [unescapeFrom?, *]

/-- Escaped text reads back as the characters of it that are carried. -/
theorem unescape?_escape (text : List Char) : unescape? (escape text) = some (text.filter isCarried) := by
  unfold unescape? escape
  induction text.filter isCarried with
  | nil => simp [unescapeFrom?]
  | cons c rest ih => simp [unescapeFrom?_escapeChar, ih]

end SlideDeck.Xml
