import SlideDeck.Picture.Vector
import SlideDeck.Proofs.Number.Value
import SlideDeck.Proofs.Text.Items
import SlideDeck.Proofs.Xml.First

/-!
# The size of vector images

Which numbers the root element gives as the size of a vector image (`Takes`), and which of them it means to
give (`Declares`): infinite lengths and what is no number among the items of a view box make the difference
(`takes_iff_declares_iff`). The numbers are rounded as they are, without any rounding before (`pixels`).
-/

namespace SlideDeck.Picture.Vector

/-! ## Whole pixels -/

/-- A number above zero in whole pixels: the integer nearest to it, a tie going up, unless that is above the
greatest count. -/
def pixels (x : Float) : Nat :=
  match Number.value? x with
  | some value => (min maxPixels (round value)).toNat
  | none => maxPixels.toNat

/-- A positive length is rounded to at least one pixel. -/
theorem wholePixels_eq {x : Float} (h : 0 < x) : wholePixels x = pixels x := by
  rcases Number.pos_iff.1 h with hinfinite | ⟨m, q, hm, hfinite⟩
  · have hmax : maxPixels ≤ Number.roundAway x :=
      le_trans (by decide) (Number.le_roundAway_of_infinity hinfinite)
    rw [wholePixels, pixels, Number.value?, hinfinite, Number.clamp, min_eq_left hmax]
    rfl
  · have hvalue : Number.value? x = some ((m : Rat) * (2 : Rat) ^ q) := by
      rw [Number.value?, hfinite]
      rfl
    have hround : 0 ≤ round ((m : Rat) * (2 : Rat) ^ q) := by
      rw [← Number.roundScaled_eq_round]
      exact Int.natCast_nonneg _
    rw [wholePixels, pixels, hvalue, Number.roundAway_of_finite hfinite, Number.clamp,
      max_eq_right (le_min (by decide) hround)]

/-! ## Lengths -/

/-- Whether a number stands in a text, with or without the unit of pixels. -/
def Writes (text : String) (x : Float) : Prop :=
  ∃ number, (Text.trim text.toList = number ++ "px".toList ∨
      Text.trim text.toList = number ∧ ¬ "px".toList <:+ number) ∧
    Number.float? (Text.trim number) = some x

/-- A unit of pixels is dropped. -/
theorem dropUnit_append (number : List Char) : dropUnit (number ++ "px".toList) = number := by
  have hreverse : (number ++ "px".toList).reverse = 'x' :: 'p' :: number.reverse := by simp
  rw [dropUnit, hreverse]
  exact List.reverse_reverse number

/-- A text without that unit is taken whole. -/
theorem dropUnit_of_not_suffix {text : List Char} (h : ¬ "px".toList <:+ text) : dropUnit text = text := by
  rw [dropUnit]
  split
  · next rest hreverse =>
    refine absurd ⟨rest.reverse, ?_⟩ h
    rw [← List.reverse_reverse text, hreverse]
    simp
  · rfl

/-- A text writes the number that is read of it, and no other. -/
theorem writes_iff {text : String} {x : Float} :
    Writes text x ↔ Number.float? (Text.trim (dropUnit (Text.trim text.toList))) = some x := by
  constructor
  · rintro ⟨number, htext | ⟨htext, hunit⟩, hnumber⟩
    · rwa [htext, dropUnit_append]
    · rwa [htext, dropUnit_of_not_suffix hunit]
  · intro h
    by_cases hunit : "px".toList <:+ Text.trim text.toList
    · obtain ⟨number, htext⟩ := hunit
      rw [← htext, dropUnit_append] at h
      exact ⟨number, .inl htext.symm, h⟩
    · rw [dropUnit_of_not_suffix hunit] at h
      exact ⟨_, .inr ⟨rfl, hunit⟩, h⟩

/-- A length is read of a text that writes a positive number. -/
theorem length?_eq_some_iff {text : String} {n : Nat} :
    length? text = some n ↔ ∃ x, Writes text x ∧ 0 < x ∧ n = pixels x := by
  simp only [writes_iff, length?, Option.bind_eq_bind, Option.bind_eq_some_iff]
  refine exists_congr fun x => and_congr_right fun _ => ?_
  by_cases hpos : 0 < x
  · rw [if_pos hpos, wholePixels_eq hpos, Option.some.injEq, eq_comm]
    exact (and_iff_right hpos).symm
  · rw [if_neg hpos]
    exact iff_of_false nofun fun h => hpos h.1

variable {root : Xml.Element}

/-- Whether an attribute of the root gives a length above zero. -/
def HasLength (root : Xml.Element) (name : String) (x : Float) : Prop :=
  ∃ text, root.attribute? name = some text ∧ Writes text x ∧ 0 < x

/-- The number in an attribute of the root. -/
def number? (root : Xml.Element) (name : String) : Option Float :=
  (root.attribute? name).bind fun text =>
    Number.float? (Text.trim (dropUnit (Text.trim text.toList)))

/-- The root has a length if its attribute writes one. -/
theorem hasLength_iff {name : String} {x : Float} :
    HasLength root name x ↔ number? root name = some x ∧ 0 < x := by
  simp only [HasLength, writes_iff, number?, Option.bind_eq_some_iff]
  grind

/-- It has one length of each name at most. -/
theorem HasLength.unique {name : String} {x y : Float} (h : HasLength root name x)
    (h' : HasLength root name y) : x = y :=
  Option.some.inj ((hasLength_iff.1 h).1.symm.trans (hasLength_iff.1 h').1)

/-- A length of the root is read in whole pixels. -/
theorem bind_length?_eq_some_iff {name : String} {n : Nat} :
    (root.attribute? name).bind length? = some n ↔ ∃ x, HasLength root name x ∧ n = pixels x := by
  simp only [Option.bind_eq_some_iff, length?_eq_some_iff, HasLength]
  grind

/-- Whether the root gives a width and a height. -/
def HasLengths (root : Xml.Element) (width height : Float) : Prop :=
  HasLength root "width" width ∧ HasLength root "height" height

/-! ## View boxes -/

/-- Whether a character separates the items of a view box. -/
def separates (c : Char) : Bool := c = ',' || Text.isBlank c

/-- Whether the view box of the root is made of these items. -/
def HasItems (root : Xml.Element) (items : List (List Char)) : Prop :=
  ∃ text, root.attribute? "viewBox" = some text ∧ Text.Items separates text.toList items

/-- The items of the view box are determined. -/
theorem HasItems.unique {items others : List (List Char)} (h : HasItems root items)
    (h' : HasItems root others) : items = others := by
  obtain ⟨text, htext, hitems⟩ := h
  obtain ⟨other, hother, hothers⟩ := h'
  obtain rfl := Option.some.inj (htext.symm.trans hother)
  rw [Text.items_iff.1 hitems, Text.items_iff.1 hothers]

/-- Whether the numbers among the items of the view box are four, the last two of them the width and the
height. -/
def HasBox (root : Xml.Element) (width height : Float) : Prop :=
  ∃ items x y, HasItems root items ∧ items.filterMap Number.float? = [x, y, width, height] ∧
    0 < width ∧ 0 < height

/-- Empty items are no numbers. -/
theorem filterMap_float?_of_items {text : List Char} {items : List (List Char)}
    (h : Text.Items separates text items) :
    items.filterMap Number.float? = (Text.splitWhere separates text).filterMap Number.float? := by
  rw [Text.items_iff.1 h, List.filterMap_filter]
  congr 1
  funext item
  by_cases hitem : item = []
  · rw [hitem]
    rfl
  · rw [if_pos (by simpa using hitem)]

/-- A view box is taken if exactly four of its items write numbers, the last two of them positive ones. -/
theorem viewBox?_eq_some_iff {text : String} {size : Pixels} :
    viewBox? text = some size ↔ ∃ items x y width height, Text.Items separates text.toList items ∧
      items.filterMap Number.float? = [x, y, width, height] ∧ (0 < width ∧ 0 < height) ∧
      size = ⟨pixels width, pixels height⟩ := by
  have hsize : ∀ {width height : Float}, 0 < width ∧ 0 < height →
      (⟨wholePixels width, wholePixels height⟩ : Pixels) = ⟨pixels width, pixels height⟩ :=
    fun hpos => by rw [wholePixels_eq hpos.1, wholePixels_eq hpos.2]
  constructor
  · intro h
    simp only [viewBox?] at h
    split at h
    · next x y width height hnumbers =>
      split at h
      · next hpos =>
        obtain ⟨items, hitems⟩ := Text.exists_items separates text.toList
        refine ⟨items, x, y, width, height, hitems, ?_, hpos, ?_⟩
        · exact (filterMap_float?_of_items hitems).trans hnumbers
        · rw [← hsize hpos, Option.some.inj h]
      · cases h
    · cases h
  · rintro ⟨items, x, y, width, height, hitems, hnumbers, hpos, rfl⟩
    have hread : (Text.splitWhere (fun c => c = ',' || Text.isBlank c) text.toList).filterMap Number.float?
        = [x, y, width, height] := (filterMap_float?_of_items hitems).symm.trans hnumbers
    simp only [viewBox?, hread]
    exact (if_pos hpos).trans (congrArg some (hsize hpos))

/-- The view box of the root is taken as a size in whole pixels. -/
theorem bind_viewBox?_eq_some_iff {size : Pixels} :
    (root.attribute? "viewBox").bind viewBox? = some size ↔
      ∃ width height, HasBox root width height ∧ size = ⟨pixels width, pixels height⟩ := by
  simp only [Option.bind_eq_some_iff, viewBox?_eq_some_iff, HasBox, HasItems]
  constructor
  · rintro ⟨text, htext, items, x, y, width, height, hitems, hnumbers, hpos, hsize⟩
    exact ⟨width, height, ⟨items, x, y, ⟨text, htext, hitems⟩, hnumbers, hpos⟩, hsize⟩
  · rintro ⟨width, height, ⟨items, x, y, ⟨text, htext, hitems⟩, hnumbers, hpos⟩, hsize⟩
    exact ⟨text, htext, items, x, y, width, height, hitems, hnumbers, hpos, hsize⟩

/-! ## The size of the root -/

/-- Whether these are the width and the height that are taken from the root: its own, or else those of its
view box. -/
def Takes (root : Xml.Element) (width height : Float) : Prop :=
  HasLengths root width height ∨
    (¬ ∃ width height, HasLengths root width height) ∧ HasBox root width height

/-- The size of the root is what is taken from it in whole pixels. -/
theorem rootSize?_eq_some_iff {size : Pixels} : rootSize? root = some size ↔
    ∃ width height, Takes root width height ∧ size = ⟨pixels width, pixels height⟩ := by
  rw [rootSize?]
  split
  · next w h hw hh =>
    obtain ⟨x, hx, rfl⟩ := bind_length?_eq_some_iff.1 hw
    obtain ⟨y, hy, rfl⟩ := bind_length?_eq_some_iff.1 hh
    constructor
    · rintro hsize
      exact ⟨x, y, .inl ⟨hx, hy⟩, (Option.some.inj hsize).symm⟩
    · rintro ⟨width, height, ⟨hwidth, hheight⟩ | ⟨hnone, -⟩, rfl⟩
      · rw [hx.unique hwidth, hy.unique hheight]
      · exact absurd ⟨x, y, hx, hy⟩ hnone
  · next hnone =>
    -- one of the lengths is missing
    have hmissing : ¬ ∃ width height, HasLengths root width height := by
      rintro ⟨x, y, hx, hy⟩
      exact hnone _ _ (bind_length?_eq_some_iff.2 ⟨x, hx, rfl⟩) (bind_length?_eq_some_iff.2 ⟨y, hy, rfl⟩)
    rw [bind_viewBox?_eq_some_iff]
    refine exists₂_congr fun width height => and_congr_left fun _ => ?_
    exact ⟨fun hbox => .inr ⟨hmissing, hbox⟩,
      fun htakes => (htakes.resolve_left fun h => hmissing ⟨width, height, h⟩).2⟩

/-! ## What the root declares -/

/-- Whether the root gives a width and a height that are finite. -/
def HasFiniteLengths (root : Xml.Element) (width height : Float) : Prop :=
  HasLengths root width height ∧ width.isFinite = true ∧ height.isFinite = true

/-- Whether the view box of the root is made of four finite numbers, the last two of them the width and the
height. -/
def HasFiniteBox (root : Xml.Element) (width height : Float) : Prop :=
  ∃ items x y, HasItems root items ∧
    items.map Number.float? = [some x, some y, some width, some height] ∧
    (∀ number ∈ [x, y, width, height], number.isFinite = true) ∧ 0 < width ∧ 0 < height

/-- Whether these are the width and the height that the root declares. -/
def Declares (root : Xml.Element) (width height : Float) : Prop :=
  HasFiniteLengths root width height ∨
    (¬ ∃ width height, HasFiniteLengths root width height) ∧ HasFiniteBox root width height

/-- Whether all that is taken from the root consists of finite numbers and nothing else. -/
structure IsSound (root : Xml.Element) : Prop where
  lengths : ∀ width height, HasLengths root width height →
    width.isFinite = true ∧ height.isFinite = true
  box : (¬ ∃ width height, HasLengths root width height) → ∀ width height, HasBox root width height →
    ∀ items, HasItems root items → ∀ item ∈ items, ∃ x, Number.float? item = some x ∧ x.isFinite = true

/-- Items that are all numbers are numbers one by one. -/
theorem map_eq_of_forall {items : List (List Char)}
    (h : ∀ item ∈ items, ∃ x, Number.float? item = some x ∧ x.isFinite = true) :
    items.map Number.float? = (items.filterMap Number.float?).map some ∧
      ∀ x ∈ items.filterMap Number.float?, x.isFinite = true := by
  induction items with
  | nil => exact ⟨rfl, nofun⟩
  | cons item items ih =>
    obtain ⟨x, hx, hfinite⟩ := h item List.mem_cons_self
    obtain ⟨hmap, hall⟩ := ih fun other hother => h other (List.mem_cons_of_mem item hother)
    rw [List.filterMap_cons_some hx]
    refine ⟨by rw [List.map_cons, hx, hmap]; rfl, fun y hy => ?_⟩
    rcases List.mem_cons.1 hy with rfl | hy
    · exact hfinite
    · exact hall y hy

/-- A view box of four finite numbers is one that is taken. -/
theorem HasFiniteBox.hasBox {width height : Float} (h : HasFiniteBox root width height) :
    HasBox root width height := by
  obtain ⟨items, x, y, hitems, hmap, -, hpos⟩ := h
  refine ⟨items, x, y, hitems, ?_, hpos⟩
  have hnumbers : items.filterMap Number.float? = (items.map Number.float?).filterMap id := by
    rw [List.filterMap_map]
    rfl
  rw [hnumbers, hmap]
  rfl

/-- The items of a finite view box are finite numbers. -/
theorem HasFiniteBox.forall_items {width height : Float} (h : HasFiniteBox root width height)
    {items : List (List Char)} (hitems : HasItems root items) :
    ∀ item ∈ items, ∃ x, Number.float? item = some x ∧ x.isFinite = true := by
  obtain ⟨others, x, y, hothers, hmap, hfinite, -⟩ := h
  obtain rfl := hitems.unique hothers
  intro item hitem
  have hmem : Number.float? item ∈ [x, y, width, height].map some := by
    show _ ∈ [some x, some y, some width, some height]
    rw [← hmap]
    exact List.mem_map_of_mem hitem
  obtain ⟨number, hnumber, heq⟩ := List.mem_map.1 hmem
  exact ⟨number, heq.symm, hfinite number hnumber⟩

/-- A view box that is taken has four finite numbers if nothing else is among its items. -/
theorem hasFiniteBox_of_forall {width height : Float} (h : HasBox root width height)
    (hall : ∀ items, HasItems root items → ∀ item ∈ items,
      ∃ x, Number.float? item = some x ∧ x.isFinite = true) : HasFiniteBox root width height := by
  obtain ⟨items, x, y, hitems, hnumbers, hpos⟩ := h
  obtain ⟨hmap, hfinite⟩ := map_eq_of_forall (hall items hitems)
  rw [hnumbers] at hmap hfinite
  exact ⟨items, x, y, hitems, hmap, hfinite, hpos⟩

/-- What is taken from the root is what it declares exactly if it consists of finite numbers and nothing
else. -/
theorem takes_iff_declares_iff :
    (∀ width height, Takes root width height ↔ Declares root width height) ↔ IsSound root := by
  constructor
  · refine fun hsame => ⟨fun width height hlengths => ?_, fun hnone width height hbox items hitems => ?_⟩
    · rcases (hsame width height).1 (.inl hlengths) with h | ⟨-, items, x, y, -, -, hfinite, -⟩
      · exact h.2
      · exact ⟨hfinite width (by simp), hfinite height (by simp)⟩
    · rcases (hsame width height).1 (.inr ⟨hnone, hbox⟩) with h | ⟨-, h⟩
      · exact absurd ⟨width, height, h.1⟩ hnone
      · exact h.forall_items hitems
  · intro hsound width height
    have hlengths : ∀ {width height}, HasLengths root width height ↔ HasFiniteLengths root width height :=
      fun {width height} => ⟨fun h => ⟨h, hsound.lengths width height h⟩, And.left⟩
    rw [Takes, Declares]
    simp only [← hlengths]
    refine or_congr_right (and_congr_right fun hnone => ?_)
    exact ⟨fun h => hasFiniteBox_of_forall h (hsound.box hnone width height h), HasFiniteBox.hasBox⟩

/-! ## The size of an image -/

/-- Whether an element is the first one of its kind that a scan finds. -/
def Reaches (svg : String) (root : Xml.Element) : Prop :=
  (Xml.scan svg).elements.find? (·.isNamed "svg") = some root

/-- The size of an image is that of its root. -/
theorem size?_of_reaches {svg : String} (h : Reaches svg root) : size? svg = rootSize? root := by
  rw [size?, h]
  rfl

/-- Whether a count of pixels is a finite number rounded, a tie going up and all beyond the greatest count
being that. -/
def IsRounded (x : Float) (count : Nat) : Prop :=
  ∃ value, Number.value? x = some value ∧ count = (min maxPixels (round value)).toNat

/-- A finite length is rounded to its whole pixels and to nothing else. -/
theorem isRounded_iff {x : Float} (h : x.isFinite = true) {count : Nat} :
    IsRounded x count ↔ count = pixels x := by
  rw [← Number.isSome_value?] at h
  obtain ⟨value, hvalue⟩ := Option.isSome_iff_exists.1 h
  simp only [IsRounded, pixels, hvalue, Option.some.injEq, exists_eq_left']

/-- Only finite lengths are declared. -/
theorem Declares.isFinite {width height : Float} (h : Declares root width height) :
    width.isFinite = true ∧ height.isFinite = true := by
  rcases h with h | ⟨-, items, x, y, -, -, hfinite, -⟩
  · exact h.2
  · exact ⟨hfinite width (by simp), hfinite height (by simp)⟩

/-- The size of an image is what its root declares, rounded, if that consists of finite numbers and nothing
else; otherwise something is taken that the root does not declare. What follows the tag of the root does not
matter. -/
theorem size?_eq_iff_declared {svg : String} (h : Reaches svg root) :
    (IsSound root → ∀ size, size? svg = some size ↔ ∃ width height, Declares root width height ∧
      IsRounded width size.width ∧ IsRounded height size.height) ∧
    (∀ size, size? svg = some size ↔
      ∃ width height, Takes root width height ∧ size = ⟨pixels width, pixels height⟩) ∧
    ((∀ width height, Takes root width height ↔ Declares root width height) ↔ IsSound root) ∧
    ∃ before content after, svg.toList = before ++ '<' :: (content ++ '>' :: after) ∧
      (Xml.tagOf content = .opening root ∨ Xml.tagOf content = .empty root) ∧
      (Xml.scan (String.ofList before)).elements.find? (·.isNamed "svg") = none ∧
      ∀ other, size? (String.ofList (before ++ '<' :: (content ++ '>' :: other))) = size? svg := by
  have htaken : ∀ size, size? svg = some size ↔
      ∃ width height, Takes root width height ∧ size = ⟨pixels width, pixels height⟩ := fun size => by
    rw [size?_of_reaches h, rootSize?_eq_some_iff]
  refine ⟨fun hsound size => ?_, htaken, takes_iff_declares_iff, ?_⟩
  · rw [htaken]
    refine exists₂_congr fun width height => ?_
    rw [takes_iff_declares_iff.2 hsound]
    refine and_congr_right fun hdeclares => ?_
    rw [isRounded_iff hdeclares.isFinite.1, isRounded_iff hdeclares.isFinite.2]
    exact iff_of_eq (Pixels.mk.injEq ..)
  · obtain ⟨before, content, after, htext, htag, hbefore, hother⟩ := Xml.startsAt_of_seek h
    refine ⟨before, content, after, htext, htag, ?_, fun other => ?_⟩
    · rw [Xml.scan, String.toList_ofList]
      exact hbefore
    · have hreaches : Reaches (String.ofList (before ++ '<' :: (content ++ '>' :: other))) root := by
        rw [Reaches, Xml.scan, String.toList_ofList]
        exact hother other
      rw [size?_of_reaches hreaches, size?_of_reaches h]

/-- An image whose root has a width and a height, with something that is not well formed behind it. -/
theorem size?_declared_lengths :
    let root : Xml.Element := ⟨"svg".toList, " width='800' height=' 600.5px '".toList⟩
    Reaches "<svg width='800' height=' 600.5px '><g" root ∧ IsSound root ∧
      ∃ width height, Declares root width height ∧ IsRounded width 800 ∧ IsRounded height 601 := by
  intro root
  have hreaches : Reaches "<svg width='800' height=' 600.5px '><g" root := by
    rw [Reaches]
    decide +kernel
  have hsize : size? "<svg width='800' height=' 600.5px '><g" = some ⟨800, 601⟩ := by decide +kernel
  have hwidth : (number? root "width").all Float.isFinite = true := by decide +kernel
  have hheight : (number? root "height").all Float.isFinite = true := by decide +kernel
  have hbox : root.attribute? "viewBox" = none := by decide +kernel
  have hsound : IsSound root := by
    refine ⟨fun width height ⟨hw, hh⟩ => ?_, ?_⟩
    · rw [(hasLength_iff.1 hw).1] at hwidth
      rw [(hasLength_iff.1 hh).1] at hheight
      exact ⟨hwidth, hheight⟩
    · rintro - width height - items ⟨text, htext, -⟩
      cases hbox.symm.trans htext
  exact ⟨hreaches, hsound, ((size?_eq_iff_declared hreaches).1 hsound _).1 hsize⟩

/-- A width that is infinite is taken, and so is a view box with something among its items that is no number,
though neither is declared. -/
theorem not_declares_junk :
    let endless : Xml.Element := ⟨"svg".toList, " width='inf' height='10'".toList⟩
    let mixed : Xml.Element := ⟨"svg".toList, " viewBox='0 0 junk 320 240'".toList⟩
    (Reaches "<svg width='inf' height='10'/>" endless ∧
      size? "<svg width='inf' height='10'/>" = some ⟨4294967295, 10⟩ ∧
      ¬ ∃ width height, Declares endless width height) ∧
    (Reaches "<svg viewBox='0 0 junk 320 240'/>" mixed ∧
      size? "<svg viewBox='0 0 junk 320 240'/>" = some ⟨320, 240⟩ ∧
      ¬ ∃ width height, Declares mixed width height) := by
  intro endless mixed
  have hwidth : (number? endless "width").all Float.isFinite = false := by decide +kernel
  have hnobox : endless.attribute? "viewBox" = none := by decide +kernel
  have hnowidth : number? mixed "width" = none := by decide +kernel
  have hbox : mixed.attribute? "viewBox" = some "0 0 junk 320 240" := by decide +kernel
  refine ⟨⟨?_, ?_, ?_⟩, ?_, ?_, ?_⟩
  · rw [Reaches]
    decide +kernel
  · decide +kernel
  · rintro ⟨width, height, ⟨⟨hlength, -⟩, hfinite, -⟩ | ⟨-, items, x, y, ⟨text, htext, -⟩, -⟩⟩
    · rw [(hasLength_iff.1 hlength).1] at hwidth
      cases hfinite.symm.trans hwidth
    · cases hnobox.symm.trans htext
  · rw [Reaches]
    decide +kernel
  · decide +kernel
  · rintro ⟨width, height, ⟨⟨hlength, -⟩, -⟩ | ⟨-, items, x, y, ⟨text, htext, hitems⟩, hmap, -⟩⟩
    · cases hnowidth.symm.trans (hasLength_iff.1 hlength).1
    · obtain rfl := Option.some.inj (hbox.symm.trans htext)
      have hfive : ((Text.splitWhere separates "0 0 junk 320 240".toList).filter (· ≠ [])).length = 5 := by
        decide
      rw [← Text.items_iff.1 hitems, ← List.length_map (f := Number.float?), hmap] at hfive
      cases hfive

end SlideDeck.Picture.Vector
