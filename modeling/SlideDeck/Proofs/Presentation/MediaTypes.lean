import SlideDeck.Proofs.Presentation.Record

/-!
# The types of added media

A deck holds the content type of every format of which it was given media, and of no other
(`typed_addAll`).
-/

namespace SlideDeck

namespace Ascending

variable {ν : Type}

/-- The keys after an insertion are those before it and the new one. -/
theorem mem_keys_insert {key other : String} {value : ν} {table : List (String × ν)} :
    other ∈ (insert key value table).map (·.1) ↔ other = key ∨ other ∈ table.map (·.1) := by
  rw [← find?_isSome_iff, ← find?_isSome_iff]
  by_cases h : other = key
  · subst h
    simp
  · rw [find?_insert_of_ne h]
    simp [h]

end Ascending

namespace Deck

section Media

variable (deck : Deck) (media : List (Picture.Format × File.Contents))

/-- Adding images gives types to their extensions and to no others. -/
theorem mem_mediaTypes_addMediaAll {extension : String} :
    extension ∈ (deck.addMediaAll media).2.mediaTypes.map (·.1) ↔
      (∃ entry ∈ media, extension = entry.1.extension) ∨ extension ∈ deck.mediaTypes.map (·.1) := by
  induction media generalizing deck with
  | nil => simp [addMediaAll]
  | cons entry media ih =>
    refine (ih (deck.addMedia entry.1 entry.2).2).trans ?_
    rw [List.exists_mem_cons_iff, or_assoc, or_left_comm]
    exact or_congr_right Ascending.mem_keys_insert

/-- The extensions with types stay in order. -/
theorem sorted_mediaTypes_addMediaAll (h : Ascending.Sorted deck.mediaTypes) :
    Ascending.Sorted (deck.addMediaAll media).2.mediaTypes := by
  induction media generalizing deck with
  | nil => exact h
  | cons entry media ih => exact ih _ (Ascending.insert_sorted _ _ h)

/-- Each new type is that of an image format. -/
theorem exists_format_of_mem_addMediaAll {held : String × String}
    (h : held ∈ (deck.addMediaAll media).2.mediaTypes) :
    (∃ format : Picture.Format, held = (format.extension, format.contentType)) ∨
      held ∈ deck.mediaTypes := by
  induction media generalizing deck with
  | nil => exact .inr h
  | cons entry media ih =>
    rcases ih _ h with hformat | hheld
    · exact .inl hformat
    · exact (Ascending.mem_insert hheld).imp_left fun heq => ⟨entry.1, heq⟩

end Media

/-- The types that a deck holds are those of the formats of the media of its slides. -/
structure Typed (record : Record) : Prop where
  sorted : Ascending.Sorted record.deck.mediaTypes
  exists_format : ∀ held ∈ record.deck.mediaTypes,
    ∃ format : Picture.Format, held = (format.extension, format.contentType)
  mem_mediaTypes : ∀ m ∈ record.made, ∀ entry ∈ m.addition.media,
    entry.1.extension ∈ record.deck.mediaTypes.map (·.1)

/-- A deck without types of images has typed all the images added, as there are none. -/
theorem typed_start {deck : Deck} (h : deck.mediaTypes = []) : Typed (Record.start deck) := by
  have hnil : (Record.start deck).deck.mediaTypes = [] := h
  refine ⟨?_, ?_, fun _ hm => absurd hm List.not_mem_nil⟩
  · rw [hnil]
    exact List.Pairwise.nil
  · rw [hnil]
    exact fun _ hheld => absurd hheld List.not_mem_nil

/-- The types of the media of an added slide are held with the others. -/
theorem Typed.next {record : Record} (h : Typed record) (a : Addition) :
    Typed ⟨(Made.mk a record.deck).after, record.made ++ [⟨a, record.deck⟩]⟩ where
  sorted := sorted_mediaTypes_addMediaAll _ _ h.sorted
  exists_format := fun held hheld =>
    (exists_format_of_mem_addMediaAll _ _ hheld).elim id (h.exists_format held)
  mem_mediaTypes := by
    intro m hm entry hentry
    refine (mem_mediaTypes_addMediaAll record.deck a.media).2 ?_
    rcases List.mem_append.1 hm with hm | hm
    · exact .inr (h.mem_mediaTypes m hm entry hentry)
    · rw [List.mem_singleton.1 hm] at hentry
      exact .inl ⟨entry, hentry, rfl⟩

/-- All images that were added have their types, by induction on the additions. -/
theorem typed_addAll {start : Deck} (hnone : start.mediaTypes = []) (additions : List Addition) :
    Typed ((Record.start start).addAll additions) :=
  Record.addAll_induction (typed_start hnone) (fun _ a h _ => h.next a) additions

/-- The types that are held are those of the formats of the media of the slides. -/
theorem mem_mediaTypes_iff {start : Deck} (hnone : start.mediaTypes = []) (additions : List Addition)
    (extension : String) :
    extension ∈ ((Record.start start).addAll additions).deck.mediaTypes.map (·.1) ↔
      ∃ m ∈ ((Record.start start).addAll additions).made, ∃ entry ∈ m.addition.media,
        extension = entry.1.extension := by
  refine Record.addAll_induction (P := fun record => extension ∈ record.deck.mediaTypes.map (·.1) ↔
    ∃ m ∈ record.made, ∃ entry ∈ m.addition.media, extension = entry.1.extension) ?_ ?_ additions
  · have hstart : (Record.start start).deck.mediaTypes = [] := hnone
    rw [hstart]
    exact iff_of_false List.not_mem_nil fun ⟨_, hm, _⟩ => List.not_mem_nil hm
  · intro record a ih _
    refine (mem_mediaTypes_addMediaAll record.deck a.media).trans ?_
    rw [ih]
    simp only [List.mem_append, List.mem_singleton, or_and_right, exists_or, exists_eq_left]
    exact or_comm

end Deck

end SlideDeck
