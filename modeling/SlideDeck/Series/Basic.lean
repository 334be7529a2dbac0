import SlideDeck.Number.Positional
import SlideDeck.Series.Token
import SlideDeck.Text.Blank
import SlideDeck.Text.Lines

/-!
# Coordinate series

A series of points is read from the first line of a text that is not blank. The numbers of the line
are alternately an x and a y coordinate; a last number without partner is dropped, and so are all
later lines, with a warning each.
-/

namespace SlideDeck

/-- A series of points. -/
structure Series where
  points : List (Float × Float)

namespace Series

/-- The x coordinates of the points. -/
def x (series : Series) : List Float := series.points.map (·.1)

/-- The y coordinates of the points. -/
def y (series : Series) : List Float := series.points.map (·.2)

/-- Why a text has no series. -/
inductive Fault where
  | noDataLine
  | badNumber (written : String)
  | noNumbers
  | noPair
deriving Repr, DecidableEq

/-- The wording of a fault. -/
def Fault.message : Fault → String
  | .noDataLine => "no data line found"
  | .badNumber written => "bad number '" ++ written ++ "': invalid float literal"
  | .noNumbers => "the data line contains no numbers"
  | .noPair => "the data line holds no complete (x, y) pair"

/-- What of a text does not enter its series. -/
inductive Warning where
  /-- Later lines that are not blank. -/
  | linesIgnored (count : Nat)
  /-- The last of an odd count of numbers. -/
  | valueDropped (count : Nat) (value : Float)

/-- The wording of a warning. -/
def Warning.message : Warning → String
  | .linesIgnored count =>
    "Ignoring " ++ toString count ++ " line(s) after the first data record"
  | .valueDropped count value =>
    "Odd number of values (" ++ toString count ++ "), dropping trailing value " ++
      String.ofList (Number.positional value)

/-- The values of numbers, or the first number that has none. -/
def values : List Token → Except Fault (List Float)
  | [] => .ok []
  | token :: rest =>
    match token.value? with
    | none => .error (.badNumber (String.ofList token.chars))
    | some value => (values rest).map (value :: ·)

/-- The values in pairs; a last value without partner is dropped. -/
def pairs : List Float → List (Float × Float)
  | x :: y :: rest => (x, y) :: pairs rest
  | _ => []

/-- The warning about an odd count of values. -/
def oddWarning (values : List Float) : List Warning :=
  match values.getLast? with
  | some last => if values.length % 2 = 1 then [.valueDropped values.length last] else []
  | none => []

/-- The series of a line, with the warnings about it. -/
def ofLine (line : List Char) : Except Fault Series × List Warning :=
  match values (tokens line) with
  | .error fault => (.error fault, [])
  | .ok [] => (.error .noNumbers, [])
  | .ok values =>
    let series :=
      match pairs values with
      | [] => .error .noPair
      | points => .ok ⟨points⟩
    (series, oddWarning values)

/-- The series of a text, with the warnings about it. -/
def ofText (text : String) : Except Fault Series × List Warning :=
  match (Text.lines text.toList).filter (!Text.allBlank ·) with
  | [] => (.error .noDataLine, [])
  | line :: later =>
    let (series, warnings) := ofLine line
    (series, (if later.isEmpty then [] else [.linesIgnored later.length]) ++ warnings)

end Series

end SlideDeck
