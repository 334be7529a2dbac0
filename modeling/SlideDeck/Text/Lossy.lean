/-!
# Faulty UTF-8

Bytes that should be UTF-8 are read as text even if they are not: what begins like a character and cannot
be finished counts as one replacement character, and so does a byte that begins none.
-/

namespace SlideDeck.Text.Lossy

/-- A character that has begun: the value of its bits so far, how many bytes are owed, and the least and
the greatest that the next byte may be. -/
structure Begun where
  value : Nat
  owed : Nat
  least : Nat
  greatest : Nat
deriving Repr, DecidableEq

/-- The character that stands for what is faulty. -/
def replacement : Char := Char.ofNat 0xFFFD

/-- The characters that are finished by the first byte of a character, and the one it begins. The
bounds of the byte after it leave out long forms, surrogates and what lies above all characters. -/
def first (byte : Nat) : List Char × Option Begun :=
  if byte < 0x80 then ([Char.ofNat byte], none)
  else if 0xC2 ≤ byte && byte < 0xE0 then ([], some ⟨byte % 32, 1, 0x80, 0xBF⟩)
  else if byte = 0xE0 then ([], some ⟨0, 2, 0xA0, 0xBF⟩)
  else if byte = 0xED then ([], some ⟨13, 2, 0x80, 0x9F⟩)
  else if 0xE1 ≤ byte && byte < 0xF0 then ([], some ⟨byte % 16, 2, 0x80, 0xBF⟩)
  else if byte = 0xF0 then ([], some ⟨0, 3, 0x90, 0xBF⟩)
  else if byte = 0xF4 then ([], some ⟨4, 3, 0x80, 0x8F⟩)
  else if 0xF1 ≤ byte && byte < 0xF4 then ([], some ⟨byte % 8, 3, 0x80, 0xBF⟩)
  else ([replacement], none)

/-- The characters that are finished by a byte, and the one that has begun. -/
def next (begun : Option Begun) (byte : Nat) : List Char × Option Begun :=
  match begun with
  | none => first byte
  | some ⟨value, owed, least, greatest⟩ =>
    if least ≤ byte && byte ≤ greatest then
      let value := 64 * value + byte % 64
      if owed = 1 then ([Char.ofNat value], none) else ([], some ⟨value, owed - 1, 0x80, 0xBF⟩)
    else
      let (chars, begun) := first byte
      (replacement :: chars, begun)

/-- The characters of bytes behind a character that has begun. -/
def charsFrom (begun : Option Begun) : List UInt8 → List Char
  | [] => if begun.isSome then [replacement] else []
  | byte :: rest =>
    let (chars, begun) := next begun byte.toNat
    chars ++ charsFrom begun rest

/-- The text that bytes stand for. -/
def decode (bytes : ByteArray) : String := String.ofList (charsFrom none bytes.toList)

end SlideDeck.Text.Lossy
