import SlideDeck.Json.Printer
import SlideDeck.Slide.Basic
import SlideDeck.Text.Quoted

/-!
# Reading slides from JSON

An entry of a configuration is an object with the kind of the slide, its title and its content, and
for a plot the labels of its axes. `Slide.ofJson` reads one and names the first thing that is wrong
with it. Members with other keys are ignored.
-/

namespace SlideDeck

/-! ## Axis labels -/

/-- What is wrong with the labels of a plot. -/
inductive AxisLabels.Fault where
  /-- The value is neither an object nor an array. -/
  | notLabels (found : Json)
  /-- A label is no string. -/
  | notAString (found : Json)
  | missing (key : String)
  /-- An array of fewer than two elements. -/
  | tooShort (length : Nat)
  /-- An array of more than two elements. -/
  | tooLong (length : Nat)

/-- What a JSON value is, for a message. -/
def Json.described : Json → String
  | .null => "null"
  | .bool value => "boolean `" ++ toString value ++ "`"
  | .number (.integer value) => "integer `" ++ toString value ++ "`"
  | .number (.float value) => "floating point `" ++ String.ofList (Json.floatChars value) ++ "`"
  | .string value => "string " ++ String.ofList (Text.quoted value.toList)
  | .array _ => "sequence"
  | .object _ => "map"

/-- The wording of a fault. -/
def AxisLabels.Fault.message : AxisLabels.Fault → String
  | .notLabels found => "invalid type: " ++ found.described ++ ", expected struct AxisLabels"
  | .notAString found => "invalid type: " ++ found.described ++ ", expected a string"
  | .missing key => "missing field `" ++ key ++ "`"
  | .tooShort length =>
    "invalid length " ++ toString length ++ ", expected struct AxisLabels with 2 elements"
  | .tooLong length =>
    "invalid length " ++ toString length ++ ", expected fewer elements in array"

namespace AxisLabels

/-- The key of the label of the x axis. -/
def xKey : String := "x-label"

/-- The key of the label of the y axis. -/
def yKey : String := "y-label"

/-- A label that must be a string. -/
def label : Json → Except Fault String
  | .string value => .ok value
  | found => .error (.notAString found)

/-- The label with a key, if the key is there. -/
def member (key : String) (members : List (String × Json)) : Except Fault (Option String) :=
  match Ascending.find? key members with
  | none => .ok none
  | some value => (label value).map some

/-- The labels in an object or in an array of two. A label that is no string is reported before one
that is missing, and the x axis before the y axis. -/
def ofJson : Json → Except Fault AxisLabels
  | .object members => do
    let x ← member xKey members
    let y ← member yKey members
    match x, y with
    | none, _ => .error (.missing xKey)
    | _, none => .error (.missing yKey)
    | some x, some y => .ok ⟨x, y⟩
  | .array [] => .error (.tooShort 0)
  | .array [x] => do
    let _ ← label x
    .error (.tooShort 1)
  | .array (x :: y :: rest) => do
    let x ← label x
    let y ← label y
    if rest.isEmpty then .ok ⟨x, y⟩ else .error (.tooLong (rest.length + 2))
  | found => .error (.notLabels found)

/-- The labels as an object. -/
def toJson (labels : AxisLabels) : Json :=
  .ofMembers [(xKey, .string labels.x), (yKey, .string labels.y)]

end AxisLabels

/-! ## List items -/

/-- An item as a record of its level and its text. -/
def ListItem.ofJson? (json : Json) : Option ListItem :=
  match json.fields? ["level", "text"] with
  | some [level, text] => do
    let level ← level.unsigned32?
    let text ← text.string?
    pure ⟨level, text⟩
  | _ => none

/-- An item in an object with its level and its text. -/
def ListItem.ofObject? : Json → Option ListItem
  | .object members => do
    let level ← Ascending.find? "level" members
    let text ← Ascending.find? "text" members
    pure ⟨← level.unsigned32?, ← text.string?⟩
  | _ => none

/-- An item in an array of its level and its text. -/
def ListItem.ofPair? : Json → Option ListItem
  | .array [level, text] => do pure ⟨← level.unsigned32?, ← text.string?⟩
  | _ => none

/-- An item as an entry of a list, in either of its spellings. -/
def ListItem.ofElement? (entry : Json) : Option ListItem := (ofObject? entry).or (ofPair? entry)

/-- An item as an object. -/
def ListItem.toJson (item : ListItem) : Json :=
  .ofMembers [("level", .number (.integer item.level.toNat)), ("text", .string item.text)]

/-- The kind with a name; an object may name it by its only key, with the value null. -/
def Slide.Kind.ofJson? : Json → Option Slide.Kind
  | .string name => ofName? name
  | .object [(name, .null)] => ofName? name
  | _ => none

/-! ## Slides -/

/-- What is wrong with an entry of a configuration. -/
inductive Slide.Fault where
  | notAnObject
  | missingKind
  | kindNotString
  | unrecognizedKind (name : String)
  | missingTitle
  | titleNotString
  | missingContent
  /-- The content must be a string, which is what a slide of this kind calls it. -/
  | contentNotString (kind : Slide.Kind)
  | contentNotList
  | badListItem (index : Nat)
  | missingConfiguration
  | badConfiguration (fault : AxisLabels.Fault)
  /-- A fault that a back end words itself. -/
  | other (text : String)

/-- What the content of a slide is called. -/
def Slide.Kind.contentName : Slide.Kind → String
  | .title => "subtitle"
  | .text => "body text"
  | .list => "list entries"
  | .picture => "image path"
  | .plot => "data source path"

/-- The wording of a fault. -/
def Slide.Fault.message : Slide.Fault → String
  | .notAnObject => "slide entry must be an object"
  | .missingKind => "missing 'kind'"
  | .kindNotString => "'kind' must be a string"
  | .unrecognizedKind _ => "unrecognized slide kind"
  | .missingTitle => "missing 'title'"
  | .titleNotString => "'title' must be a string"
  | .missingContent => "missing 'content'"
  | .contentNotString kind => "'content' must be the " ++ kind.contentName ++ " (a string)"
  | .contentNotList => "'content' must be an array of list entries"
  | .badListItem index => "list entry " ++ toString index ++
      " must be \x7b\"level\": <non-negative integer>, \"text\": <string>\x7d"
  | .missingConfiguration => "missing 'configuration'"
  | .badConfiguration fault => "'configuration' must hold 'x-label' and 'y-label': " ++ fault.message
  | .other text => text

/-- An entry that is not the description of a slide: what is known of its kind, and what is wrong. -/
structure Slide.Invalid where
  kind : String
  fault : Slide.Fault

namespace Slide

/-- The items of a list, the first of which has the given index. -/
def itemsFrom (index : Nat) : List Json → Except Fault (List ListItem)
  | [] => .ok []
  | entry :: rest =>
    match ListItem.ofElement? entry with
    | none => .error (.badListItem index)
    | some item => (itemsFrom (index + 1) rest).map (item :: ·)

/-- The content of a slide that is a string. -/
def stringContent (kind : Kind) : Json → Except Fault String
  | .string value => .ok value
  | _ => .error (.contentNotString kind)

/-- The content of a slide of a kind, from the content and the members of its entry. -/
def contentOfJson (kind : Kind) (content : Json) (members : List (String × Json)) :
    Except Fault Content :=
  match kind with
  | .title => (stringContent kind content).map .title
  | .text => (stringContent kind content).map .text
  | .picture => (stringContent kind content).map fun path => .picture ⟨path⟩
  | .list =>
    match content with
    | .array entries => (itemsFrom 0 entries).map .list
    | _ => .error .contentNotList
  | .plot => do
    let source ← stringContent kind content
    match Ascending.find? "configuration" members with
    | none => .error .missingConfiguration
    | some configuration =>
      match AxisLabels.ofJson configuration with
      | .error fault => .error (.badConfiguration fault)
      | .ok labels => .ok (.plot ⟨source⟩ labels)

/-- A slide of a kind, from the members of its entry. -/
def ofMembers (kind : Kind) (members : List (String × Json)) : Except Fault Slide := do
  let title ← match Ascending.find? "title" members with
    | some (.string title) => .ok title
    | some _ => .error .titleNotString
    | none => .error .missingTitle
  match Ascending.find? "content" members with
  | none => .error .missingContent
  | some content => return ⟨title, ← contentOfJson kind content members⟩

/-- The member of an entry that names the kind of the slide. -/
def kindMember? (members : List (String × Json)) : Option Json :=
  (Ascending.find? "kind" members).or (Ascending.find? "type" members)

/-- The slide that an entry describes. -/
def ofJson : Json → Except Invalid Slide
  | .object members =>
    match kindMember? members with
    | none => .error ⟨"?", .missingKind⟩
    | some (.string name) =>
      match Kind.ofName? name with
      | none => .error ⟨name, .unrecognizedKind name⟩
      | some kind =>
        match ofMembers kind members with
        | .error fault => .error ⟨kind.name, fault⟩
        | .ok slide => .ok slide
    | some other => .error ⟨other.compact, .kindNotString⟩
  | _ => .error ⟨"?", .notAnObject⟩

end Slide

end SlideDeck
