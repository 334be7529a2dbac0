import SlideDeck.Proofs.Slide.Described

/-!
# Two readers of list items

As an entry of a list an item is tried as an object and then as a pair. By itself it is read as a record of
two fields, for which objects and arrays count alike. Both readers accept a value exactly if it describes an
item, and what is written is read back by both (`readings_agree`).
-/

namespace SlideDeck

namespace Json

variable {first second : String}

/-- The fields of a record of two that is an object. -/
theorem fields?_object_eq_some_iff {members : List (String × Json)} {fields : List Json} :
    (object members).fields? [first, second] = some fields ↔
      ∃ a b, Ascending.find? first members = some a ∧ Ascending.find? second members = some b ∧
        fields = [a, b] := by
  simp only [fields?, List.mapM_cons, List.mapM_nil, Option.bind_eq_bind, Option.pure_def,
    Option.bind_some, Option.bind_eq_some_iff, Option.some.injEq]
  constructor
  · rintro ⟨a, ha, _, ⟨b, hb, rfl⟩, rfl⟩
    exact ⟨a, b, ha, hb, rfl⟩
  · rintro ⟨a, b, ha, hb, rfl⟩
    exact ⟨a, ha, [b], ⟨b, hb, rfl⟩, rfl⟩

/-- The fields of a record of two that is an array are its elements. -/
theorem fields?_array_eq_some_iff {elements fields : List Json} :
    (array elements).fields? [first, second] = some fields ↔
      ∃ a b, elements = [a, b] ∧ fields = [a, b] := by
  rw [fields?]
  constructor
  · intro h
    split at h
    · next hlength =>
      obtain rfl := Option.some.inj h
      obtain ⟨a, b, rfl⟩ := List.length_eq_two.1 hlength
      exact ⟨a, b, rfl, rfl⟩
    · cases h
  · rintro ⟨a, b, rfl, rfl⟩
    exact if_pos rfl

end Json

namespace ListItem

/-- A record is read as an item if its fields are a level and a text. -/
theorem ofJson?_eq_some_iff_fields {json : Json} {item : ListItem} :
    ofJson? json = some item ↔
      json.fields? ["level", "text"]
        = some [.number (.integer item.level.toNat), .string item.text] := by
  constructor
  · intro h
    unfold ofJson? at h
    split at h
    · next level text hfields =>
      simp only [Option.bind_eq_bind, Option.bind_eq_some_iff, Option.pure_def,
        Json.unsigned32?_eq_some_iff, Json.string?_eq_some_iff, Option.some.injEq] at h
      obtain ⟨n, rfl, s, rfl, rfl⟩ := h
      exact hfields
    · cases h
  · intro h
    unfold ofJson?
    rw [h]
    simp only [Json.unsigned32?_eq_some_iff.2 rfl, Json.string?_eq_some_iff.2 rfl, Option.bind_eq_bind,
      Option.bind_some, Option.pure_def]

/-- A record is read as the item that it describes. -/
theorem ofJson?_eq_some_iff {json : Json} {item : ListItem} :
    ofJson? json = some item ↔ Described json item := by
  rw [ofJson?_eq_some_iff_fields]
  cases json with
  | object members =>
    rw [Json.fields?_object_eq_some_iff]
    constructor
    · rintro ⟨level, text, hlevel, htext, hfields⟩
      obtain ⟨rfl, htexts⟩ := List.cons.inj hfields
      obtain ⟨rfl, -⟩ := List.cons.inj htexts
      exact .object hlevel htext
    · intro h
      cases h with
      | object hlevel htext => exact ⟨_, _, hlevel, htext, rfl⟩
  | array elements =>
    rw [Json.fields?_array_eq_some_iff]
    constructor
    · rintro ⟨level, text, rfl, hfields⟩
      rw [← hfields]
      exact .pair
    · intro h
      cases h with
      | pair => exact ⟨_, _, rfl, rfl⟩
  | null | bool | number | string =>
    constructor
    · intro h
      cases h
    · intro h
      cases h

/-- The values that describe an item are the objects and the arrays with an integer of 32 bits without a sign
and a string. Other members of an object do not count. -/
theorem exists_described_iff {json : Json} :
    (∃ item, Described json item) ↔ ∃ (level : Int) (text : String), (0 ≤ level ∧ level < 2 ^ 32) ∧
      (json.get? "level" = some (.number (.integer level)) ∧ json.get? "text" = some (.string text) ∨
        json = .array [.number (.integer level), .string text]) := by
  constructor
  · rintro ⟨item, h⟩
    cases h with
    | @object members level text hlevel htext =>
      have hsize := level.toNat_lt
      exact ⟨level.toNat, text, by omega, .inl ⟨hlevel, htext⟩⟩
    | @pair level text =>
      have hsize := level.toNat_lt
      exact ⟨level.toNat, text, by omega, .inr rfl⟩
  · rintro ⟨level, text, ⟨hpos, hsize⟩, h⟩
    -- a level in this range is that of an item
    have hbelow : level.toNat < UInt32.size := by
      rw [UInt32.size]
      omega
    have hword : ((UInt32.ofNat level.toNat).toNat : Int) = level := by
      rw [UInt32.toNat_ofNat_of_lt' hbelow, Int.toNat_of_nonneg hpos]
    refine ⟨⟨UInt32.ofNat level.toNat, text⟩, ?_⟩
    rcases h with ⟨hlevel, htext⟩ | rfl
    · rw [← hword] at hlevel
      cases json with
      | object members => exact .object hlevel htext
      | null | bool | number | string | array => cases hlevel
    · nth_rewrite 1 [← hword]
      exact .pair

/-- An item is written as an object that describes it. -/
theorem described_toJson (item : ListItem) : Described item.toJson item := by
  have hne : "level" ≠ "text" := by decide
  refine .object ?_ ?_
  · exact (Ascending.find?_insert_of_ne hne _ _).trans (Ascending.find?_insert_self _ _ _)
  · exact Ascending.find?_insert_self _ _ _

/-- Both readers of an item accept the same values, which are those that describe an item, and yield that
item. It does not matter whether arrays are read as records, too, before they are tried as pairs. The level is
an integer of 32 bits without a sign. So the entries of a list are those that are read as items by themselves,
and every item is read back by both readers from what is written. -/
theorem readings_agree :
    (∀ json, ofElement? json = ofJson? json) ∧
    (∀ json, (ofJson? json).or (ofPair? json) = ofJson? json) ∧
    (∀ json item, ofJson? json = some item ↔ Described json item) ∧
    (∀ json, (ofJson? json).isSome = true ↔
      ∃ (level : Int) (text : String), (0 ≤ level ∧ level < 2 ^ 32) ∧
        (json.get? "level" = some (.number (.integer level)) ∧ json.get? "text" = some (.string text) ∨
          json = .array [.number (.integer level), .string text])) ∧
    (∀ index entries items, Slide.itemsFrom index entries = .ok items ↔
      List.Forall₂ (fun entry item => ofJson? entry = some item) entries items) ∧
    ∀ item, ofElement? item.toJson = some item ∧ ofJson? item.toJson = some item := by
  have hsame : ∀ json, ofElement? json = ofJson? json := fun json => by
    ext item
    rw [ofElement?_eq_some_iff, ofJson?_eq_some_iff]
  refine ⟨hsame, fun json => ?_, fun json item => ofJson?_eq_some_iff, fun json => ?_,
    fun index entries items => ?_, fun item => ?_⟩
  · ext item
    rw [Option.or_eq_some_iff, ofPair?_eq_some_iff]
    refine ⟨fun h => h.elim id fun hpair => ?_, .inl⟩
    rw [hpair.2, ofJson?_eq_some_iff]
    exact .pair
  · rw [Option.isSome_iff_exists, ← exists_described_iff]
    simp only [ofJson?_eq_some_iff]
  · simp only [Slide.itemsFrom_eq_ok_iff, ofJson?_eq_some_iff]
  · rw [hsame, and_self, ofJson?_eq_some_iff]
    exact described_toJson item

end ListItem

end SlideDeck
