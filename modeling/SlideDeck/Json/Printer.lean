import SlideDeck.Json.Basic
import SlideDeck.Number.Shortest

/-!
# JSON as text

A value is printed without any blanks, with the members of an object in the order of their keys. A
binary64 number is printed as the shortest decimal that reads back, with a point or a signed exponent,
so that it does not look like an integer.
-/

namespace SlideDeck.Json

/-- An exponent, which always has its sign. -/
def exponentChars (exponent : Int) : List Char :=
  'e' :: (if exponent < 0 then '-' else '+') :: (toString exponent.natAbs).toList

/-- The digits of a decimal with a point after `point` of them: positional when the point falls
among the first sixteen places or up to five places before the digits, with an exponent otherwise. -/
def layout (digits : List Char) (point : Int) : List Char :=
  let zeros (n : Int) : List Char := List.replicate n.toNat '0'
  if digits.length ≤ point ∧ point ≤ 16 then digits ++ zeros (point - digits.length) ++ ['.', '0']
  else if 0 < point ∧ point ≤ 16 then
    digits.take point.toNat ++ ['.'] ++ digits.drop point.toNat
  else if -5 < point ∧ point ≤ 0 then ['0', '.'] ++ zeros (-point) ++ digits
  else
    match digits with
    | [digit] => digit :: exponentChars (point - 1)
    | _ => digits.take 1 ++ ['.'] ++ digits.drop 1 ++ exponentChars (point - 1)

/-- A finite binary64 number as text. -/
def floatChars (x : Float) : List Char :=
  let sign : List Char := if SlideDeck.Number.isNegative x then ['-'] else []
  let decimal := SlideDeck.Number.shortest (SlideDeck.Number.magnitudeBits x)
  let digits := Nat.toDigits 10 decimal.digits
  sign ++
    if decimal.digits = 0 then ['0', '.', '0']
    else layout digits (digits.length + decimal.exponent)

/-- A number as text. -/
def Number.chars : Number → List Char
  | .integer value => (toString value).toList
  | .float value => floatChars value

/-- A character as it stands within a string: quotes, backslashes and control characters are
escaped, by a letter where there is one. -/
def stringChar (c : Char) : List Char :=
  if c = '"' then ['\\', '"']
  else if c = '\\' then ['\\', '\\']
  else if 0x20 ≤ c.toNat then [c]
  else if c = '\n' then ['\\', 'n']
  else if c = '\r' then ['\\', 'r']
  else if c = '\t' then ['\\', 't']
  else if c.toNat = 8 then ['\\', 'b']
  else if c.toNat = 12 then ['\\', 'f']
  else ['\\', 'u', '0', '0', Nat.digitChar (c.toNat / 16), Nat.digitChar (c.toNat % 16)]

/-- A string between its quotes. -/
def stringChars (value : String) : List Char :=
  '"' :: (value.toList.flatMap stringChar ++ ['"'])

mutual

/-- A value as text. -/
def chars : Json → List Char
  | .null => "null".toList
  | .bool true => "true".toList
  | .bool false => "false".toList
  | .number value => value.chars
  | .string value => stringChars value
  | .array elements => '[' :: (elementChars elements ++ [']'])
  | .object members => '\x7b' :: (memberChars members ++ ['\x7d'])

/-- The elements of an array as text, with commas between them. -/
def elementChars : List Json → List Char
  | [] => []
  | [element] => chars element
  | element :: rest => chars element ++ ',' :: elementChars rest

/-- The members of an object as text, with commas between them. -/
def memberChars : List (String × Json) → List Char
  | [] => []
  | [(key, value)] => stringChars key ++ ':' :: chars value
  | (key, value) :: rest => stringChars key ++ ':' :: (chars value ++ ',' :: memberChars rest)

end

/-- A value as text without blanks. -/
def compact (value : Json) : String := String.ofList value.chars

end SlideDeck.Json
