import SlideDeck.Number.Decimal
import SlideDeck.Number.Scalar
import SlideDeck.Picture.Format
import SlideDeck.Text.Blank
import SlideDeck.Text.Lines
import SlideDeck.Xml.Scan

/-!
# The size of vector images

An SVG image has the size that its root element gives by its width and height, both in pixels, or
else by its view box. Sizes are rounded to whole pixels, and what comes behind the root does not
matter.
-/

namespace SlideDeck.Picture.Vector

/-- The greatest count of pixels. -/
def maxPixels : Int := 2 ^ 32 - 1

/-- A positive length in whole pixels, up to the greatest one. -/
def wholePixels (length : Float) : Nat := (Number.clamp 0 maxPixels (Number.roundAway length)).toNat

/-- The text without `px` at its end. -/
def dropUnit (text : List Char) : List Char :=
  match text.reverse with
  | 'x' :: 'p' :: rest => rest.reverse
  | _ => text

/-- A length of more than zero pixels, with or without its unit. -/
def length? (text : String) : Option Nat := do
  let length ← Number.float? (Text.trim (dropUnit (Text.trim text.toList)))
  if 0 < length then some (wholePixels length) else none

/-- The size of a view box, whose last two numbers are its width and height. What is no number does
not count. -/
def viewBox? (text : String) : Option Pixels :=
  let items := Text.splitWhere (fun c => c = ',' || Text.isBlank c) text.toList
  match items.filterMap Number.float? with
  | [_, _, width, height] =>
    if 0 < width ∧ 0 < height then some ⟨wholePixels width, wholePixels height⟩ else none
  | _ => none

/-- The size that the root element of an image gives. -/
def rootSize? (root : Xml.Element) : Option Pixels :=
  match (root.attribute? "width").bind length?, (root.attribute? "height").bind length? with
  | some width, some height => some ⟨width, height⟩
  | _, _ => (root.attribute? "viewBox").bind viewBox?

/-- The size of an SVG image. -/
def size? (svg : String) : Option Pixels := do
  let root ← (Xml.scan svg).elements.find? (·.isNamed "svg")
  rootSize? root

end SlideDeck.Picture.Vector
