import SlideDeck.Json.Lexeme

/-!
# Reading JSON

The lexemes of a document drive a push-down automaton: the stack holds the arrays and objects that
are still open, and the state says what may follow. A document is read when the automaton ends with a
finished value. At most 127 arrays and objects may be open at one time.
-/

namespace SlideDeck.Json

/-- An array or object that is still open, its elements or members in reverse. -/
inductive Frame where
  | array (elements : List Json)
  /-- An object, with the key whose value is being read. -/
  | object (members : List (String × Json)) (key : String)

/-- What may follow, within the open arrays and objects, the innermost first. -/
inductive State where
  /-- A value. -/
  | value (frames : List Frame)
  /-- The first element of an array, or its end. -/
  | firstElement (frames : List Frame)
  /-- The first key of an object, or its end. -/
  | firstKey (frames : List Frame)
  /-- A key of an object. -/
  | key (frames : List Frame)
  /-- The colon behind a key. -/
  | colon (frames : List Frame)
  /-- A comma, or the end of the innermost array or object. -/
  | next (frames : List Frame)
  /-- Nothing. -/
  | finished (value : Json)

/-- How many arrays and objects may be open at one time. -/
def maxDepth : Nat := 127

/-- The state after a complete value. -/
def complete (value : Json) : List Frame → State
  | [] => .finished value
  | .array elements :: frames => .next (.array (value :: elements) :: frames)
  | .object members key :: frames => .next (.object ((key, value) :: members) key :: frames)

/-- The state after the end of an array or object. -/
def close? : Lexeme → List Frame → Option State
  | .closeBracket, .array elements :: frames => some (complete (.array elements.reverse) frames)
  | .closeBrace, .object members _ :: frames =>
    some (complete (ofMembers members.reverse) frames)
  | _, _ => none

/-- The state after the first lexeme of a value. -/
def openValue? (frames : List Frame) : Lexeme → Option State
  | .null => some (complete .null frames)
  | .true => some (complete (.bool true) frames)
  | .false => some (complete (.bool false) frames)
  | .number value => some (complete (.number value) frames)
  | .string value => some (complete (.string value) frames)
  | .openBracket =>
    if frames.length < maxDepth then some (.firstElement (.array [] :: frames)) else none
  | .openBrace =>
    if frames.length < maxDepth then some (.firstKey (.object [] "" :: frames)) else none
  | _ => none

/-- The state after a key. -/
def takeKey? : List Frame → Lexeme → Option State
  | .object members _ :: frames, .string key => some (.colon (.object members key :: frames))
  | _, _ => none

/-- The state after one more lexeme, if it may follow. -/
def State.step? : State → Lexeme → Option State
  | .value frames, lexeme => openValue? frames lexeme
  | .firstElement frames, lexeme => (close? lexeme frames).or (openValue? frames lexeme)
  | .firstKey frames, lexeme => (close? lexeme frames).or (takeKey? frames lexeme)
  | .key frames, lexeme => takeKey? frames lexeme
  | .colon frames, .colon => some (.value frames)
  | .next (.array elements :: frames), .comma => some (.value (.array elements :: frames))
  | .next (.object members name :: frames), .comma => some (.key (.object members name :: frames))
  | .next frames, lexeme => close? lexeme frames
  | _, _ => none

/-- The value of a JSON document, or nothing if the text is none. -/
def ofText? (text : String) : Option Json := do
  let lexemes ← lexemes? text.toList
  match ← lexemes.foldlM State.step? (.value []) with
  | .finished value => some value
  | _ => none

end SlideDeck.Json
