import SlideDeck.Ascending
import SlideDeck.Number.Power

/-!
# JSON values

A JSON document as a value. Numbers without fraction and exponent are integers as far as 64 bits
reach, all others are binary64. The members of an object are kept in ascending order of their keys,
and of two members with one key the later counts.
-/

namespace SlideDeck

/-- A number of a JSON document. -/
inductive Json.Number where
  /-- A number written without fraction and exponent that fits into 64 bits. -/
  | integer (value : Int)
  /-- Any other number, minus zero included. -/
  | float (value : Float)

/-- A JSON document. -/
inductive Json where
  | null
  | bool (value : Bool)
  | number (value : Json.Number)
  | string (value : String)
  | array (elements : List Json)
  | object (members : List (String × Json))
deriving Inhabited

namespace Json

/-- The object with these members, of which a later one replaces an earlier one with its key. -/
def ofMembers (members : List (String × Json)) : Json := .object (Ascending.ofList members)

/-- The member of an object with this key. -/
def get? (key : String) : Json → Option Json
  | .object members => Ascending.find? key members
  | _ => none

/-- The text of a string value. -/
def string? : Json → Option String
  | .string value => some value
  | _ => none

/-- The elements of an array value. -/
def array? : Json → Option (List Json)
  | .array elements => some elements
  | _ => none

/-- The value of an integer that is not negative and lies below `2 ^ 32`. -/
def unsigned32? : Json → Option UInt32
  | .number (.integer value) =>
    if 0 ≤ value ∧ value < 2 ^ 32 then some (UInt32.ofNat value.toNat) else none
  | _ => none

/-- The fields of a record with these keys: the members of an object with these keys, whatever other
members it has, or the elements of an array that has one for each key. -/
def fields? (keys : List String) : Json → Option (List Json)
  | .object members => keys.mapM fun key => Ascending.find? key members
  | .array elements => if elements.length = keys.length then some elements else none
  | _ => none

end Json

end SlideDeck
