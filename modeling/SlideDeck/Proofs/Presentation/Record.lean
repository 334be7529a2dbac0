import SlideDeck.Proofs.Presentation.Made
import SlideDeck.Proofs.Presentation.Numbering

/-!
# Decks with what was added to them

A `Record` is a deck with the additions that have succeeded; an addition that fails leaves it as it is.
`Grown` says how the deck of a record differs from the deck it started as, and holds after any additions
(`grown_addAll`).
-/

namespace SlideDeck.Deck

/-- A deck with the additions that have succeeded, the oldest first. -/
structure Record where
  deck : Deck
  made : List Made

namespace Record

/-- The record after a call that may fail. -/
def add (record : Record) (a : Addition) : Record :=
  match a.on record.deck with
  | .ok next => ⟨next, record.made ++ [⟨a, record.deck⟩]⟩
  | .error _ => record

/-- The record after calls each of which may fail. -/
def addAll (record : Record) (additions : List Addition) : Record := additions.foldl add record

/-- A deck to which nothing was added. -/
def start (deck : Deck) : Record := ⟨deck, []⟩

/-- A call either changes nothing, or makes a slide on a layout of an open deck. -/
theorem add_cases (record : Record) (a : Addition) :
    record.add a = record ∨
      record.deck.layouts[a.layout.index]? = some (Made.mk a record.deck).layoutPart ∧
      record.add a = ⟨(Made.mk a record.deck).after, record.made ++ [⟨a, record.deck⟩]⟩ := by
  rw [add]
  split
  · next next hnext =>
    obtain ⟨-, hlayout, rfl⟩ := Addition.eq_after_of_on hnext
    exact .inr ⟨hlayout, rfl⟩
  · exact .inl rfl

/-- What slides that are made preserve holds after any calls. -/
theorem addAll_induction {P : Record → Prop} {record : Record} (h : P record)
    (hstep : ∀ (record : Record) (a : Addition), P record →
      record.deck.layouts[a.layout.index]? = some (Made.mk a record.deck).layoutPart →
      P ⟨(Made.mk a record.deck).after, record.made ++ [⟨a, record.deck⟩]⟩)
    (additions : List Addition) : P (record.addAll additions) := by
  induction additions generalizing record with
  | nil => exact h
  | cons a additions ih =>
    have hnext : P (record.add a) := by
      rcases record.add_cases a with hsame | ⟨hlayout, hmade⟩
      · rw [hsame]
        exact h
      · rw [hmade]
        exact hstep record a h hlayout
    exact ih hnext

end Record

/-! ## What additions change -/

/-- The names of the parts that a slide consists of, its relationships included. -/
def Made.Owns (m : Made) (name : String) : Prop :=
  name = PartName.relationshipsPart m.part ∨ name ∈ m.parts

/-- How the deck of a record differs from the deck it started as. -/
structure Grown (start : Deck) (record : Record) : Prop where
  presentation_eq : record.deck.presentation = start.presentation
  layouts_eq : record.deck.layouts = start.layouts
  slideSize_eq : record.deck.slideSize = start.slideSize
  finalized_eq : record.deck.finalized = start.finalized
  relationships_eq : record.deck.relationships = start.relationships ++ record.made.map Made.link
  added_eq : record.deck.added = start.added ++ record.made.map Made.slide
  nextId_eq : record.deck.nextId = start.nextId + UInt32.ofNat record.made.length
  /-- The numbers follow each other, as numbers of 32 bits. -/
  ids_eq : record.made.map (·.slide.id)
    = (List.range' start.nextId.toNat record.made.length).map (· % 2 ^ 32)
  before_eq : ∀ m ∈ record.made, m.before.presentation = start.presentation ∧
    m.before.layouts = start.layouts ∧ m.before.slideSize = start.slideSize
  layout_found : ∀ m ∈ record.made, start.layouts[m.addition.layout.index]? = some m.layoutPart
  nodup_relationships : (record.made.map (·.slide.relationship)).Nodup
  new_relationships : ∀ m ∈ record.made, ∀ r ∈ start.relationships, m.slide.relationship ≠ r.id
  nodup_parts : (record.made.flatMap Made.parts).Nodup
  new_parts : ∀ name ∈ record.made.flatMap Made.parts, name ∉ start.package.names
  mem_names_iff : ∀ name, name ∈ record.deck.package.names ↔
    name ∈ start.package.names ∨ ∃ m ∈ record.made, m.Owns name
  get?_of_not_owned : ∀ name, (∀ m ∈ record.made, ¬ m.Owns name) →
    record.deck.package.get? name = start.package.get? name
  get?_of_owned : ∀ m ∈ record.made, ∀ name, m.Owns name →
    record.deck.package.get? name = m.after.package.get? name

/-- A record starts without slides. -/
theorem grown_start (deck : Deck) : Grown deck (Record.start deck) where
  presentation_eq := rfl
  layouts_eq := rfl
  slideSize_eq := rfl
  finalized_eq := rfl
  relationships_eq := (List.append_nil _).symm
  added_eq := (List.append_nil _).symm
  nextId_eq := (UInt32.add_zero _).symm
  ids_eq := rfl
  before_eq := fun _ h => absurd h List.not_mem_nil
  layout_found := fun _ h => absurd h List.not_mem_nil
  nodup_relationships := List.nodup_nil
  new_relationships := fun _ h => absurd h List.not_mem_nil
  nodup_parts := List.nodup_nil
  new_parts := fun _ h => absurd h List.not_mem_nil
  mem_names_iff := fun name => by
    simp only [Record.start, List.not_mem_nil, false_and, exists_false, or_false]
  get?_of_not_owned := fun _ _ => rfl
  get?_of_owned := fun _ h => absurd h List.not_mem_nil

namespace Grown

variable {start : Deck} {record : Record}

/-- The parts of slides that were added are in the package. -/
theorem mem_names_of_owns (h : Grown start record) {m : Made} (hm : m ∈ record.made) {name : String}
    (hname : m.Owns name) : name ∈ record.deck.package.names :=
  (h.mem_names_iff name).2 (.inr ⟨m, hm, hname⟩)

/-- As long as the numbers of the slides fit into 32 bits, they follow each other. -/
theorem ids_eq_range' (h : Grown start record)
    (hfit : start.nextId.toNat + record.made.length ≤ 2 ^ 32) :
    record.made.map (·.slide.id) = List.range' start.nextId.toNat record.made.length := by
  rw [h.ids_eq]
  conv_rhs => rw [← List.map_id (List.range' start.nextId.toNat record.made.length)]
  refine List.map_congr_left fun id hid => ?_
  have hlast := (List.mem_range'_1.1 hid).2
  exact Nat.mod_eq_of_lt (by omega)

/-- What the next addition makes is no part of a slide that is there. -/
theorem not_owns_next (h : Grown start record) {m : Made} (hm : m ∈ record.made) {name : String}
    (hname : m.Owns name) (a : Addition) : ¬ (Made.mk a record.deck).Owns name := by
  rintro (heq | hmem)
  · rcases hname with heq' | hname
    · -- the relationships of two slides are in one part only if the slides are the same part
      have hpart := PartName.relationshipsPart_injective (heq'.symm.trans heq)
      refine (Made.mk a record.deck).not_mem_names List.mem_cons_self ?_
      rw [← hpart]
      exact h.mem_names_of_owns hm (.inr List.mem_cons_self)
    · exact m.ne_relationshipsPart hname _ heq
  · exact (Made.mk a record.deck).not_mem_names hmem (h.mem_names_of_owns hm hname)

/-- The next relationship is new to all slides. -/
theorem ne_next_relationship (h : Grown start record) {m : Made} (hm : m ∈ record.made) :
    m.slide.relationship ≠ nextRelationshipId record.deck.relationships := by
  refine ne_nextRelationshipId (r := m.link) ?_
  rw [h.relationships_eq]
  exact List.mem_append_right _ (List.mem_map_of_mem hm)

/-- An addition that succeeds keeps to this. -/
theorem next (h : Grown start record) {a : Addition}
    (hlayout : record.deck.layouts[a.layout.index]? = some (Made.mk a record.deck).layoutPart) :
    Grown start ⟨(Made.mk a record.deck).after, record.made ++ [⟨a, record.deck⟩]⟩ where
  presentation_eq := h.presentation_eq
  layouts_eq := h.layouts_eq
  slideSize_eq := h.slideSize_eq
  finalized_eq := h.finalized_eq
  relationships_eq := by
    rw [Made.after, h.relationships_eq, List.map_append, List.append_assoc]
    rfl
  added_eq := by
    rw [Made.after, h.added_eq, List.map_append, List.append_assoc]
    rfl
  nextId_eq := by
    show record.deck.nextId + 1
      = start.nextId + UInt32.ofNat (record.made ++ [Made.mk a record.deck]).length
    rw [h.nextId_eq, List.length_append, List.length_singleton, UInt32.ofNat_add, UInt32.add_assoc]
    rfl
  ids_eq := by
    rw [List.map_append, h.ids_eq, List.length_append, List.length_singleton, List.range'_concat,
      List.map_append]
    show _ ++ [record.deck.nextId.toNat] = _
    rw [h.nextId_eq, UInt32.toNat_add, UInt32.toNat_ofNat', Nat.add_mod_mod, Nat.one_mul]
    rfl
  before_eq := by
    intro m hm
    rcases List.mem_append.1 hm with hm | hm
    · exact h.before_eq m hm
    · rw [List.mem_singleton.1 hm]
      exact ⟨h.presentation_eq, h.layouts_eq, h.slideSize_eq⟩
  layout_found := by
    intro m hm
    rcases List.mem_append.1 hm with hm | hm
    · exact h.layout_found m hm
    · rw [List.mem_singleton.1 hm, ← h.layouts_eq]
      exact hlayout
  nodup_relationships := by
    rw [List.map_append, List.nodup_append]
    refine ⟨h.nodup_relationships, List.nodup_singleton _, ?_⟩
    intro id hid other hother heq
    obtain ⟨m, hm, rfl⟩ := List.mem_map.1 hid
    exact h.ne_next_relationship hm (heq.trans (List.mem_singleton.1 hother))
  new_relationships := by
    intro m hm r hr
    rcases List.mem_append.1 hm with hm | hm
    · exact h.new_relationships m hm r hr
    · rw [List.mem_singleton.1 hm]
      refine Ne.symm (ne_nextRelationshipId ?_)
      rw [h.relationships_eq]
      exact List.mem_append_left _ hr
  nodup_parts := by
    rw [List.flatMap_append, List.nodup_append]
    refine ⟨h.nodup_parts, ?_, ?_⟩
    · rw [List.flatMap_singleton]
      exact Made.nodup_parts _
    · intro name hname other hother heq
      obtain ⟨m, hm, hname⟩ := List.mem_flatMap.1 hname
      rw [List.flatMap_singleton] at hother
      refine Made.not_mem_names _ hother ?_
      rw [← heq]
      exact h.mem_names_of_owns hm (.inr hname)
  new_parts := by
    intro name hname
    rw [List.flatMap_append, List.mem_append, List.flatMap_singleton] at hname
    rcases hname with hname | hname
    · exact h.new_parts name hname
    · exact fun hmem => Made.not_mem_names _ hname ((h.mem_names_iff name).2 (.inl hmem))
  mem_names_iff := by
    intro name
    have hafter : name ∈ (Made.mk a record.deck).after.package.names ↔
        (Made.mk a record.deck).Owns name ∨ name ∈ record.deck.package.names :=
      (Made.mem_names_after _).trans or_assoc.symm
    rw [hafter, h.mem_names_iff name]
    simp only [List.mem_append, List.mem_singleton, or_and_right, exists_or, exists_eq_left]
    exact or_left_comm.trans (or_congr_right or_comm)
  get?_of_not_owned := by
    intro name hname
    have hnew := hname _ (List.mem_append_right _ (List.mem_singleton_self _))
    rw [Made.Owns, not_or] at hnew
    rw [Made.get?_after_of_not_mem _ hnew.1 hnew.2]
    exact h.get?_of_not_owned name fun m hm => hname m (List.mem_append_left _ hm)
  -- the new slide owns no part of an earlier one, and its own parts are as it made them
  get?_of_owned := by
    intro m hm name hname
    rcases List.mem_append.1 hm with hm | hm
    · have hnew := h.not_owns_next hm hname a
      rw [Made.Owns, not_or] at hnew
      rw [Made.get?_after_of_not_mem _ hnew.1 hnew.2]
      exact h.get?_of_owned m hm name hname
    · rw [List.mem_singleton.1 hm]

end Grown

/-- However many slides are added, and whichever additions fail. -/
theorem grown_addAll (deck : Deck) (additions : List Addition) :
    Grown deck ((Record.start deck).addAll additions) :=
  Record.addAll_induction (grown_start deck) (fun _ _ h hlayout => h.next hlayout) additions

end SlideDeck.Deck
