import SlideDeck.Error
import SlideDeck.Proofs.Outcome

/-!
# Entries that describe slides

`Described` says what an entry of a configuration must be to describe a slide, by the members that count
and nothing else. The reader of entries accepts exactly these (`ofJson_eq_ok_iff`), blames a kind only if
it is a string that names none (`ofSlideFault?_of_ofJson`), and looks at no other member
(`ofJson_of_agree`).
-/

namespace SlideDeck

/-! ## Values -/

/-- Only a string is read as one. -/
theorem Json.string?_eq_some_iff {json : Json} {text : String} :
    json.string? = some text ↔ json = .string text := by
  cases json <;> simp [string?]

/-- The unsigned numbers of 32 bits are the integers that fit into them. -/
theorem Json.unsigned32?_eq_some_iff {json : Json} {n : UInt32} :
    json.unsigned32? = some n ↔ json = .number (.integer n.toNat) := by
  constructor
  · intro h
    unfold unsigned32? at h
    split at h
    · next value =>
      split at h
      · next hrange =>
        obtain rfl := Option.some.inj h
        have hsize : value.toNat < 2 ^ 32 := by omega
        rw [UInt32.toNat_ofNat_of_lt' hsize, Int.toNat_of_nonneg hrange.1]
      · cases h
    · cases h
  · rintro rfl
    have hsize := n.toNat_lt
    have hrange : 0 ≤ (n.toNat : Int) ∧ (n.toNat : Int) < 2 ^ 32 := by omega
    rw [unsigned32?, if_pos hrange, Int.toNat_natCast, UInt32.ofNat_toNat]

/-! ## List items -/

/-- An entry of a list describes an item. -/
inductive ListItem.Described : Json → ListItem → Prop
  /-- An object with the level and the text under their names. -/
  | object {members : List (String × Json)} {level : UInt32} {text : String}
      (hlevel : Ascending.find? "level" members = some (.number (.integer level.toNat)))
      (htext : Ascending.find? "text" members = some (.string text)) :
      Described (.object members) ⟨level, text⟩
  /-- An array of the level and the text. -/
  | pair {level : UInt32} {text : String} :
      Described (.array [.number (.integer level.toNat), .string text]) ⟨level, text⟩

namespace ListItem

/-- An item is read from an object with a level and a text. -/
theorem ofObject?_eq_some_iff {entry : Json} {item : ListItem} :
    ofObject? entry = some item ↔ ∃ members, entry = .object members ∧
      Ascending.find? "level" members = some (.number (.integer item.level.toNat)) ∧
      Ascending.find? "text" members = some (.string item.text) := by
  cases entry with
  | object members =>
    simp only [ofObject?, Option.bind_eq_bind, Option.bind_eq_some_iff, Option.pure_def,
      Json.unsigned32?_eq_some_iff, Json.string?_eq_some_iff, Option.some.injEq]
    constructor
    · rintro ⟨level, hlevel, text, htext, n, rfl, s, rfl, rfl⟩
      exact ⟨members, rfl, hlevel, htext⟩
    · rintro ⟨_, heq, hlevel, htext⟩
      obtain rfl := Json.object.inj heq
      exact ⟨_, hlevel, _, htext, _, rfl, _, rfl, rfl⟩
  | null | bool | number | string | array => simp [ofObject?]

/-- It is read from a pair of these in the same way. -/
theorem ofPair?_eq_some_iff {entry : Json} {item : ListItem} :
    ofPair? entry = some item ↔
      entry = .array [.number (.integer item.level.toNat), .string item.text] := by
  constructor
  · intro h
    unfold ofPair? at h
    split at h
    · simp only [Option.bind_eq_bind, Option.bind_eq_some_iff, Option.pure_def,
        Json.unsigned32?_eq_some_iff, Json.string?_eq_some_iff, Option.some.injEq] at h
      obtain ⟨n, rfl, s, rfl, rfl⟩ := h
      rfl
    · cases h
  · rintro rfl
    rw [ofPair?, Json.unsigned32?_eq_some_iff.2 rfl]
    rfl

/-- An entry of a list is read as the item that it describes. -/
theorem ofElement?_eq_some_iff {entry : Json} {item : ListItem} :
    ofElement? entry = some item ↔ Described entry item := by
  rw [ofElement?, Option.or_eq_some_iff, ofObject?_eq_some_iff, ofPair?_eq_some_iff]
  constructor
  · rintro (⟨members, rfl, hlevel, htext⟩ | ⟨-, rfl⟩)
    · exact .object hlevel htext
    · exact .pair
  · intro h
    cases h with
    | object hlevel htext => exact .inl ⟨_, rfl, hlevel, htext⟩
    | pair => exact .inr ⟨rfl, rfl⟩

end ListItem

/-! ## Axis labels -/

/-- A value describes the labels of a plot. -/
inductive AxisLabels.Described : Json → AxisLabels → Prop
  /-- An object with both labels under their names. -/
  | object {members : List (String × Json)} {x y : String}
      (hx : Ascending.find? "x-label" members = some (.string x))
      (hy : Ascending.find? "y-label" members = some (.string y)) :
      Described (.object members) ⟨x, y⟩
  /-- An array of both labels. -/
  | pair {x y : String} : Described (.array [.string x, .string y]) ⟨x, y⟩

namespace AxisLabels

/-- Only a string is a label. -/
theorem label_eq_ok_iff {json : Json} {text : String} :
    label json = .ok text ↔ json = .string text := by
  cases json <;> simp [label]

/-- A label may be missing, but it is nothing but a string. -/
theorem member_eq_ok_iff {key : String} {members : List (String × Json)} {found : Option String} :
    member key members = .ok found ↔
      Ascending.find? key members = found.map Json.string := by
  unfold member
  split
  · next hfind =>
    rw [hfind]
    cases found <;> simp
  · next value hfind =>
    rw [hfind, map_eq_ok_iff]
    constructor
    · rintro ⟨text, htext, rfl⟩
      rw [label_eq_ok_iff.1 htext]
      rfl
    · intro h
      obtain ⟨text, rfl, rfl⟩ := Option.map_eq_some_iff.1 h.symm
      exact ⟨text, rfl, rfl⟩

/-- Labels that are read are described. -/
theorem described_of_ofJson {json : Json} {labels : AxisLabels} (h : ofJson json = .ok labels) :
    Described json labels := by
  unfold ofJson at h
  split at h
  · -- both members are read before one is missed
    obtain ⟨x, hx, h⟩ := exists_of_bind_eq_ok h
    obtain ⟨y, hy, h⟩ := exists_of_bind_eq_ok h
    rw [member_eq_ok_iff] at hx hy
    match x, y, hx, hy, h with
    | some x, some y, hx, hy, h =>
      obtain rfl := Except.ok.inj h
      exact .object hx hy
  · cases h
  · obtain ⟨_, -, h⟩ := exists_of_bind_eq_ok h
    cases h
  · obtain ⟨x, hx, h⟩ := exists_of_bind_eq_ok h
    obtain ⟨y, hy, h⟩ := exists_of_bind_eq_ok h
    obtain rfl := label_eq_ok_iff.1 hx
    obtain rfl := label_eq_ok_iff.1 hy
    split at h
    · next hrest =>
      obtain rfl := Except.ok.inj h
      obtain rfl := List.isEmpty_iff.1 hrest
      exact .pair
    · cases h
  · cases h

/-- A value is read as the labels that it describes. -/
theorem ofJson_eq_ok_iff {json : Json} {labels : AxisLabels} :
    ofJson json = .ok labels ↔ Described json labels := by
  refine ⟨described_of_ofJson, fun h => ?_⟩
  cases h with
  | @object members x y hx hy =>
    have hreadX : member xKey members = .ok (some x) := member_eq_ok_iff.2 hx
    have hreadY : member yKey members = .ok (some y) := member_eq_ok_iff.2 hy
    rw [ofJson, hreadX, ok_bind, hreadY, ok_bind]
  | pair => rfl

end AxisLabels

/-! ## Slides -/

namespace Slide

/-- The members of an entry describe a content. -/
inductive Content.Described (members : List (String × Json)) : Content → Prop
  | title {subtitle : String}
      (hcontent : Ascending.find? "content" members = some (.string subtitle)) :
      Described members (.title subtitle)
  | text {body : String} (hcontent : Ascending.find? "content" members = some (.string body)) :
      Described members (.text body)
  | list {entries : List Json} {items : List ListItem}
      (hcontent : Ascending.find? "content" members = some (.array entries))
      (hitems : List.Forall₂ ListItem.Described entries items) : Described members (.list items)
  | picture {path : String} (hcontent : Ascending.find? "content" members = some (.string path)) :
      Described members (.picture ⟨path⟩)
  | plot {source : String} {configuration : Json} {labels : AxisLabels}
      (hcontent : Ascending.find? "content" members = some (.string source))
      (hconfiguration : Ascending.find? "configuration" members = some configuration)
      (hlabels : AxisLabels.Described configuration labels) : Described members (.plot ⟨source⟩ labels)

/-- A value stands for the kind of an entry: under the key `kind`, or under `type` if there is no such
key. -/
def StandsForKind (members : List (String × Json)) (value : Json) : Prop :=
  Ascending.find? "kind" members = some value ∨
    Ascending.find? "kind" members = none ∧ Ascending.find? "type" members = some value

/-- An entry describes a slide. -/
inductive Described : Json → Slide → Prop
  | object {members : List (String × Json)} {slide : Slide}
      (hkind : StandsForKind members (.string slide.kind.name))
      (htitle : Ascending.find? "title" members = some (.string slide.title))
      (hcontent : slide.content.Described members) : Described (.object members) slide

/-- The kind is read from the member that stands for it. -/
theorem kindMember?_eq_some_iff {members : List (String × Json)} {value : Json} :
    kindMember? members = some value ↔ StandsForKind members value := Option.or_eq_some_iff

/-- Only one member stands for the kind. -/
theorem StandsForKind.unique {members : List (String × Json)} {value other : Json}
    (h : StandsForKind members value) (hother : StandsForKind members other) : value = other := by
  rw [← kindMember?_eq_some_iff] at h hother
  exact Option.some.inj (h.symm.trans hother)

/-- A kind that is found has the name that was looked for. -/
theorem Kind.name_of_ofName? {name : String} {kind : Kind} (h : Kind.ofName? name = some kind) :
    kind.name = name :=
  beq_iff_eq.1 (List.find?_some (p := fun kind : Kind => kind.name == name) h)

/-- None is found for a name that no kind has. -/
theorem Kind.ofName?_eq_none_iff {name : String} :
    Kind.ofName? name = none ↔ ∀ kind : Kind, kind.name ≠ name := by
  rw [Kind.ofName?, List.find?_eq_none]
  constructor
  · intro h kind
    have hmem : kind ∈ Kind.all := by cases kind <;> decide
    simpa using h kind hmem
  · intro h kind _
    simpa using h kind

/-! ### Contents -/

/-- Entries give items if each of them describes its own. -/
theorem itemsFrom_eq_ok_iff {index : Nat} {entries : List Json} {items : List ListItem} :
    itemsFrom index entries = .ok items ↔ List.Forall₂ ListItem.Described entries items := by
  induction entries generalizing index items with
  | nil =>
    rw [itemsFrom, List.forall₂_nil_left_iff]
    exact ⟨fun h => (Except.ok.inj h).symm, fun h => congrArg Except.ok h.symm⟩
  | cons entry rest ih =>
    rw [itemsFrom, List.forall₂_cons_left_iff]
    split
    · next hentry =>
      constructor
      · exact fun h => nomatch h
      · rintro ⟨item, _, hitem, -, -⟩
        exact nomatch hentry.symm.trans (ListItem.ofElement?_eq_some_iff.2 hitem)
    · next item hentry =>
      rw [map_eq_ok_iff]
      constructor
      · rintro ⟨tail, htail, rfl⟩
        exact ⟨item, tail, ListItem.ofElement?_eq_some_iff.1 hentry, ih.1 htail, rfl⟩
      · rintro ⟨other, tail, hother, htail, rfl⟩
        obtain rfl := Option.some.inj (hentry.symm.trans (ListItem.ofElement?_eq_some_iff.2 hother))
        exact ⟨tail, ih.2 htail, rfl⟩

/-- The content of most slides is a string. -/
theorem stringContent_eq_ok_iff {kind : Kind} {json : Json} {text : String} :
    stringContent kind json = .ok text ↔ json = .string text := by
  cases json <;> simp [stringContent]

/-- A content that is read is of the right kind, and described. -/
theorem described_of_contentOfJson {kind : Kind} {json : Json} {members : List (String × Json)}
    {content : Content} (hjson : Ascending.find? "content" members = some json)
    (h : contentOfJson kind json members = .ok content) :
    content.kind = kind ∧ content.Described members := by
  cases kind with
  | title =>
    obtain ⟨text, htext, rfl⟩ := map_eq_ok_iff.1 h
    exact ⟨rfl, .title (stringContent_eq_ok_iff.1 htext ▸ hjson)⟩
  | text =>
    obtain ⟨text, htext, rfl⟩ := map_eq_ok_iff.1 h
    exact ⟨rfl, .text (stringContent_eq_ok_iff.1 htext ▸ hjson)⟩
  | picture =>
    obtain ⟨text, htext, rfl⟩ := map_eq_ok_iff.1 h
    exact ⟨rfl, .picture (stringContent_eq_ok_iff.1 htext ▸ hjson)⟩
  | list =>
    cases json with
    | array entries =>
      obtain ⟨items, hitems, rfl⟩ := map_eq_ok_iff.1 h
      exact ⟨rfl, .list hjson (itemsFrom_eq_ok_iff.1 hitems)⟩
    | null | bool | number | string | object => cases h
  | plot =>
    rw [contentOfJson] at h
    obtain ⟨source, hsource, h⟩ := exists_of_bind_eq_ok h
    split at h
    · cases h
    · next configuration hconfiguration =>
      split at h
      · cases h
      · next labels hlabels =>
        obtain rfl := Except.ok.inj h
        exact ⟨rfl, .plot (stringContent_eq_ok_iff.1 hsource ▸ hjson) hconfiguration
          (AxisLabels.ofJson_eq_ok_iff.1 hlabels)⟩

/-- The content that the members of an entry give for a kind. -/
def contentOfMembers (kind : Kind) (members : List (String × Json)) : Except Fault Content :=
  match Ascending.find? "content" members with
  | none => .error .missingContent
  | some json => contentOfJson kind json members

/-- A content that is described is read. -/
theorem contentOfMembers_of_described {members : List (String × Json)} {content : Content}
    (h : content.Described members) : contentOfMembers content.kind members = .ok content := by
  cases h with
  | title hcontent | text hcontent | picture hcontent =>
    rw [contentOfMembers, hcontent]
    rfl
  | list hcontent hitems =>
    rw [contentOfMembers, hcontent]
    exact map_eq_ok_iff.2 ⟨_, itemsFrom_eq_ok_iff.2 hitems, rfl⟩
  | @plot source _ _ hcontent hconfiguration hlabels =>
    have hsource : stringContent .plot (.string source) = .ok source := rfl
    rw [contentOfMembers, hcontent, Content.kind]
    simp only [contentOfJson, hsource, ok_bind, hconfiguration, AxisLabels.ofJson_eq_ok_iff.2 hlabels]

/-- A content is read for its kind where it is described. -/
theorem contentOfMembers_eq_ok_iff {kind : Kind} {members : List (String × Json)} {content : Content} :
    contentOfMembers kind members = .ok content ↔ content.kind = kind ∧ content.Described members := by
  constructor
  · intro h
    unfold contentOfMembers at h
    split at h
    · cases h
    · next json hjson => exact described_of_contentOfJson hjson h
  · rintro ⟨rfl, h⟩
    exact contentOfMembers_of_described h

/-! ### Entries -/

/-- The title of an entry is read before its content. -/
theorem ofMembers_eq (kind : Kind) (members : List (String × Json)) : ofMembers kind members =
    match Ascending.find? "title" members with
    | some (.string title) => (contentOfMembers kind members).map (⟨title, ·⟩)
    | some _ => .error .titleNotString
    | none => .error .missingTitle := by
  unfold ofMembers contentOfMembers
  cases Ascending.find? "title" members with
  | none => rfl
  | some value =>
    cases value with
    | string title =>
      cases Ascending.find? "content" members with
      | none => rfl
      | some json =>
        simp only [ok_bind]
        cases contentOfJson kind json members <;> rfl
    | null | bool | number | array | object => rfl

/-- A slide of a kind is read from members that describe its title and its content. -/
theorem ofMembers_eq_ok_iff {kind : Kind} {members : List (String × Json)} {slide : Slide} :
    ofMembers kind members = .ok slide ↔ slide.kind = kind ∧
      Ascending.find? "title" members = some (.string slide.title) ∧ slide.content.Described members := by
  rw [ofMembers_eq]
  constructor
  · intro h
    split at h
    · next title htitle =>
      obtain ⟨content, hcontent, rfl⟩ := map_eq_ok_iff.1 h
      obtain ⟨hkind, hdescribed⟩ := contentOfMembers_eq_ok_iff.1 hcontent
      exact ⟨hkind, htitle, hdescribed⟩
    · cases h
    · cases h
  · rintro ⟨hkind, htitle, hdescribed⟩
    rw [htitle]
    exact map_eq_ok_iff.2 ⟨_, contentOfMembers_eq_ok_iff.2 ⟨hkind, hdescribed⟩, rfl⟩

/-- An entry is read as the slide that it describes. -/
theorem ofJson_eq_ok_iff {entry : Json} {slide : Slide} :
    ofJson entry = .ok slide ↔ Described entry slide := by
  constructor
  · intro h
    unfold ofJson at h
    split at h
    · split at h
      · cases h
      · next name hmember =>
        split at h
        · cases h
        · next kind hname =>
          split at h
          · cases h
          · next found hfound =>
            obtain rfl := Except.ok.inj h
            obtain ⟨rfl, htitle, hcontent⟩ := ofMembers_eq_ok_iff.1 hfound
            rw [← Kind.name_of_ofName? hname] at hmember
            exact .object (kindMember?_eq_some_iff.1 hmember) htitle hcontent
      · cases h
    · cases h
  · rintro ⟨hkind, htitle, hcontent⟩
    have hfound := ofMembers_eq_ok_iff.2 ⟨rfl, htitle, hcontent⟩
    rw [ofJson]
    simp only [kindMember?_eq_some_iff.2 hkind, Kind.ofName?_name, hfound]

/-! ### Kinds that are blamed -/

/-- No fault of an item is about the kind of a slide. -/
theorem ofSlideFault?_of_itemsFrom {index : Nat} {entries : List Json} {fault : Fault}
    (h : itemsFrom index entries = .error fault) : Error.ofSlideFault? fault = none := by
  induction entries generalizing index with
  | nil => cases h
  | cons entry rest ih =>
    rw [itemsFrom] at h
    split at h
    · obtain rfl := Except.error.inj h
      rfl
    · exact ih (map_eq_error_iff.1 h)

/-- Nor is one of a text. -/
theorem ofSlideFault?_of_stringContent {kind : Kind} {json : Json} {fault : Fault}
    (h : stringContent kind json = .error fault) : Error.ofSlideFault? fault = none := by
  unfold stringContent at h
  split at h
  · cases h
  · obtain rfl := Except.error.inj h
    rfl

/-- So no fault of a content is. -/
theorem ofSlideFault?_of_contentOfJson {kind : Kind} {json : Json} {members : List (String × Json)}
    {fault : Fault} (h : contentOfJson kind json members = .error fault) :
    Error.ofSlideFault? fault = none := by
  cases kind with
  | title | text | picture => exact ofSlideFault?_of_stringContent (map_eq_error_iff.1 h)
  | list =>
    cases json with
    | array entries => exact ofSlideFault?_of_itemsFrom (map_eq_error_iff.1 h)
    | null | bool | number | string | object =>
      obtain rfl := Except.error.inj h
      rfl
  | plot =>
    rw [contentOfJson] at h
    rcases error_of_bind_eq_error h with hsource | ⟨source, -, h⟩
    · exact ofSlideFault?_of_stringContent hsource
    · split at h
      · obtain rfl := Except.error.inj h
        rfl
      · split at h
        · obtain rfl := Except.error.inj h
          rfl
        · cases h

/-- Once the kind is known, it is not blamed. -/
theorem ofSlideFault?_of_ofMembers {kind : Kind} {members : List (String × Json)} {fault : Fault}
    (h : ofMembers kind members = .error fault) : Error.ofSlideFault? fault = none := by
  rw [ofMembers_eq] at h
  split at h
  · have hcontent := map_eq_error_iff.1 h
    unfold contentOfMembers at hcontent
    split at hcontent
    · obtain rfl := Except.error.inj hcontent
      rfl
    · exact ofSlideFault?_of_contentOfJson hcontent
  · obtain rfl := Except.error.inj h
    rfl
  · obtain rfl := Except.error.inj h
    rfl

/-- The kind of an entry is a string that names none. -/
def HasUnknownKind (entry : Json) (name : String) : Prop :=
  ∃ members, entry = .object members ∧ StandsForKind members (.string name) ∧
    ∀ kind : Kind, kind.name ≠ name

/-- The error behind an entry that is not valid is that its kind is unknown, if it is, and else there is
none. -/
theorem ofSlideFault?_of_ofJson {entry : Json} {invalid : Invalid} (h : ofJson entry = .error invalid)
    (source : Error) : Error.ofSlideFault? invalid.fault = some source ↔
      ∃ name, HasUnknownKind entry name ∧ source = .unknownKind name := by
  -- in every case but that of a string that names no kind, neither side holds
  have hother : (∀ name, ¬HasUnknownKind entry name) → Error.ofSlideFault? invalid.fault = none →
      (Error.ofSlideFault? invalid.fault = some source ↔
        ∃ name, HasUnknownKind entry name ∧ source = .unknownKind name) := by
    intro hnot hfault
    rw [hfault]
    constructor
    · intro h
      cases h
    · rintro ⟨name, hname, -⟩
      exact absurd hname (hnot name)
  unfold ofJson at h
  split at h
  · next members =>
    split at h
    · next hmember =>
      obtain rfl := Except.error.inj h
      refine hother ?_ rfl
      rintro name ⟨_, heq, hkind, -⟩
      obtain rfl := Json.object.inj heq
      exact nomatch hmember.symm.trans (kindMember?_eq_some_iff.2 hkind)
    · next name hmember =>
      rw [kindMember?_eq_some_iff] at hmember
      split at h
      · next hname =>
        obtain rfl := Except.error.inj h
        rw [Error.ofSlideFault?, Option.some.injEq]
        constructor
        · rintro rfl
          exact ⟨name, ⟨members, rfl, hmember, Kind.ofName?_eq_none_iff.1 hname⟩, rfl⟩
        · rintro ⟨other, ⟨_, heq, hkind, -⟩, rfl⟩
          obtain rfl := Json.object.inj heq
          rw [Json.string.inj (hmember.unique hkind)]
      · next kind hname =>
        split at h
        · next fault hfault =>
          obtain rfl := Except.error.inj h
          refine hother ?_ (ofSlideFault?_of_ofMembers hfault)
          rintro other ⟨_, heq, hkind, hunknown⟩
          obtain rfl := Json.object.inj heq
          obtain rfl := Json.string.inj (hmember.unique hkind)
          exact hunknown kind (Kind.name_of_ofName? hname)
        · cases h
    · next value hstring hmember =>
      obtain rfl := Except.error.inj h
      refine hother ?_ rfl
      rintro name ⟨_, heq, hkind, -⟩
      obtain rfl := Json.object.inj heq
      exact hstring name ((kindMember?_eq_some_iff.1 hmember).unique hkind)
  · next hobject =>
    obtain rfl := Except.error.inj h
    refine hother ?_ rfl
    rintro name ⟨members, rfl, -⟩
    exact hobject members rfl

end Slide

/-! ## Members that count -/

/-- Two values are the same, or objects that are the same under these keys. -/
inductive Json.Alike (keys : List String) : Json → Json → Prop
  | same {json : Json} : Alike keys json json
  | object {members other : List (String × Json)}
      (h : ∀ key ∈ keys, Ascending.find? key members = Ascending.find? key other) :
      Alike keys (.object members) (.object other)

/-- Items are read alike if their level and their text are. -/
theorem ListItem.ofElement?_of_alike {entry other : Json} (h : Json.Alike ["level", "text"] entry other) :
    ofElement? entry = ofElement? other := by
  cases h with
  | same => rfl
  | object h =>
    rw [ofElement?, ofElement?, ofObject?, ofObject?, h "level" (by simp), h "text" (by simp)]
    rfl

/-- Labels are read alike if both of them are. -/
theorem AxisLabels.ofJson_of_alike {json other : Json}
    (h : Json.Alike ["x-label", "y-label"] json other) : ofJson json = ofJson other := by
  cases h with
  | same => rfl
  | object h =>
    rw [ofJson, ofJson, member, member, member, member, xKey, yKey, h "x-label" (by simp),
      h "y-label" (by simp)]

namespace Slide

/-- Two contents of entries are the same, apart from members of list items that do not count. -/
inductive ContentAlike : Option Json → Option Json → Prop
  | same {content : Option Json} : ContentAlike content content
  | list {entries others : List Json}
      (h : List.Forall₂ (Json.Alike ["level", "text"]) entries others) :
      ContentAlike (some (.array entries)) (some (.array others))

/-- Two objects agree in all that an entry is read from. -/
structure Agree (members other : List (String × Json)) : Prop where
  kind : Ascending.find? "kind" members = Ascending.find? "kind" other
  type : Ascending.find? "kind" members = none →
    Ascending.find? "type" members = Ascending.find? "type" other
  title : Ascending.find? "title" members = Ascending.find? "title" other
  content : ContentAlike (Ascending.find? "content" members) (Ascending.find? "content" other)
  configuration : Option.Rel (Json.Alike ["x-label", "y-label"])
    (Ascending.find? "configuration" members) (Ascending.find? "configuration" other)

/-- So are lists of items. -/
theorem itemsFrom_of_alike (index : Nat) {entries others : List Json}
    (h : List.Forall₂ (Json.Alike ["level", "text"]) entries others) :
    itemsFrom index entries = itemsFrom index others := by
  induction h generalizing index with
  | nil => rfl
  | cons halike _ ih => rw [itemsFrom, itemsFrom, ListItem.ofElement?_of_alike halike, ih]

namespace Agree

variable {members other : List (String × Json)}

/-- Entries that agree have the same kind. -/
theorem kindMember?_eq (h : Agree members other) : kindMember? members = kindMember? other := by
  rw [kindMember?, kindMember?, ← h.kind]
  cases hkind : Ascending.find? "kind" members with
  | none => exact h.type hkind
  | some value => rfl

/-- Their contents are read alike. -/
theorem contentOfJson_eq (h : Agree members other) (kind : Kind) (json : Json) :
    contentOfJson kind json members = contentOfJson kind json other := by
  cases kind with
  | title | text | list | picture => rfl
  | plot =>
    have hconfiguration := h.configuration
    rw [contentOfJson, contentOfJson]
    generalize Ascending.find? "configuration" members = configuration at hconfiguration ⊢
    generalize Ascending.find? "configuration" other = configuration' at hconfiguration ⊢
    cases hconfiguration with
    | none => rfl
    | some halike => simp only [AxisLabels.ofJson_of_alike halike]

/-- So are those that are looked for among the members. -/
theorem contentOfMembers_eq (h : Agree members other) (kind : Kind) :
    contentOfMembers kind members = contentOfMembers kind other := by
  have hcontent := h.content
  rw [contentOfMembers, contentOfMembers]
  generalize Ascending.find? "content" members = content at hcontent ⊢
  generalize Ascending.find? "content" other = content' at hcontent ⊢
  cases hcontent with
  | same => simp only [h.contentOfJson_eq]
  | list hitems =>
    simp only [h.contentOfJson_eq]
    cases kind with
    | list => exact congrArg (Except.map Content.list) (itemsFrom_of_alike 0 hitems)
    | title | text | picture | plot => rfl

end Agree

/-- An entry is read from nothing but what counts. -/
theorem ofJson_of_agree {members other : List (String × Json)} (h : Agree members other) :
    ofJson (.object members) = ofJson (.object other) := by
  have hmembers : ∀ kind, ofMembers kind members = ofMembers kind other := by
    intro kind
    rw [ofMembers_eq, ofMembers_eq, h.title, h.contentOfMembers_eq]
  rw [ofJson, ofJson, h.kindMember?_eq]
  simp only [hmembers]

end Slide

end SlideDeck
